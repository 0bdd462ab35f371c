import Downlink.Proofs.Queue.Outcome
import Downlink.Proofs.Queue.Polling

/-!
# The first downlink of a new queue

The checks of a configuration see to it that a new queue has room for a downlink of every class, and
that some time is left in which an entry is due. They do not compare the look-ahead with the lead
that programming the radio takes, nor either of them with the maximum advance. So they let pass
configurations in which even an empty queue refuses an immediate downlink, or drops it before it can
be due, or has no target for a reply.

Here it is said which ones these are. Each of the three asks for one inequality. What passes all
of them is a queue whose first downlink goes through, and for a reply there is nothing to lose once
it is accepted: the look-ahead is shorter than its lead, so it cannot have become stale while it is
due.
-/

namespace Downlink

/-- Twice the look-ahead is time enough to program the radio. -/
def QueueConfig.Prompt (c : QueueConfig) : Prop :=
  c.startDelay.toNat + c.margin.toNat < c.jitDelay.toNat ∧
    c.startDelay.toNat + c.margin.toNat + c.jitDelay.toNat < 2 ^ 32 - 1

instance (c : QueueConfig) : Decidable c.Prompt := inferInstanceAs (Decidable (_ ∧ _))

theorem QueueConfig.prompt_iff {c : QueueConfig} :
    c.Prompt ↔ (Policy.ofConfig c).minLead < c.jitDelay.times 2 := by
  have htwo : (2 : Span).toNat = 2 := rfl
  rw [UInt32.lt_iff_toNat_lt, Policy.toNat_minLead, Span.toNat_times, htwo, Prompt]
  change _ ↔ min (c.startDelay.toNat + c.margin.toNat + c.jitDelay.toNat) _ < _
  omega

/-- Below the maximum advance the lead that programming takes is the sum of three delays, which need
no clamping. -/
theorem QueueConfig.minLead_lt_maxAdvance_iff {c : QueueConfig} :
    (Policy.ofConfig c).minLead < c.maxAdvance ↔
      c.startDelay.toNat + c.margin.toNat + c.jitDelay.toNat < c.maxAdvance.toNat := by
  have hadvance := Span.toNat_lt c.maxAdvance
  rw [UInt32.lt_iff_toNat_lt, Policy.toNat_minLead]
  change min (c.startDelay.toNat + c.margin.toNat + c.jitDelay.toNat) _ < _ ↔ _
  omega

namespace Scheduler

variable {s : Scheduler} {q : Queue} {now : Counter} {p : Packet} {c : TrafficClass}

/-- A new queue has room for a downlink of every class. -/
theorem hasRoom_fresh {config : QueueConfig} (h : config.validate = .ok ())
    (airtime : AirtimeModel) (c : TrafficClass) :
    (Scheduler.ofConfig config airtime).HasRoom {} c := by
  have hlt := QueueConfig.reservedBeaconSlots_lt h
  refine ⟨Nat.zero_lt_of_lt hlt, .inr (.inr ?_)⟩
  change 0 < min (config.capacity.toNat - config.reservedBeaconSlots.toNat + 0)
    config.capacity.toNat
  omega

/-- How an immediate downlink fares that has an empty queue to itself. -/
theorem outcome_immediate_fresh (hroom : s.HasRoom {} .classC) (hformed : p.isWellFormed = true)
    (hmode : p.mode = .immediate) : s.outcome {} now p .classC =
      if s.policy.minLead < s.policy.jitDelay.times 2 then .ok (s.policy.asapTime now)
      else .error .tooLate := by
  have hentry : s.entryRefusal? {} p .classC = none :=
    entryRefusal?_eq_none_iff.mpr ⟨hroom, hformed, fun _ => rfl⟩
  have haim : s.aim {} now p .classC = s.policy.asapTime now := aim_of_immediate hmode
  have htarget : s.targetRefusal? {} now
      (s.policy.window (s.policy.asapTime now) .classC (s.timeOnAir p)) .classC =
        if s.policy.jitDelay.times 2 ≤ s.policy.minLead then some .tooLate else none := by
    change (if (s.policy.asapTime now).since now ≤ s.policy.minLead then _ else _) = _
    rw [Policy.asapTime, Counter.after_since]
    rfl
  rw [outcome_of_entry hentry, haim]
  simp only [targetOutcome, htarget]
  by_cases hprompt : s.policy.minLead < s.policy.jitDelay.times 2
  · rw [if_pos hprompt, if_neg (UInt32.not_le.mpr hprompt)]
  · rw [if_neg hprompt, if_pos (UInt32.not_lt.mp hprompt)]

/-- A new queue has but the entry of its first downlink. -/
theorem enqueue_fresh {target : Counter} (h : (s.enqueue {} now p c).result = .ok target) :
    ∃ e, s.Admitted { reference := now } now p c e ∧ e.target = target ∧
      (s.enqueue {} now p c).queue.entries = [e] := by
  obtain ⟨e, he, htarget, hentries, -⟩ := enqueue_eq_ok h
  refine ⟨e, he, htarget, ?_⟩
  rw [hentries]
  exact List.perm_singleton.mp (s.push_perm { reference := now } e)

/-- An only entry survives a peek while it is closer than the maximum advance. -/
theorem mem_peek_only {e : Entry} (hq : q.entries = [e]) :
    e ∈ (s.peek q now).queue.entries ↔ e.lead now < s.policy.maxAdvance := by
  rw [mem_peek, hq, isStale, decide_eq_false_iff_not, UInt32.not_le,
    and_iff_right (List.mem_singleton_self e)]

/-- An only entry is given out while it is ripe. -/
theorem takeDue_only {e : Entry} (hq : q.entries = [e]) (h : s.Ripe now e) :
    (s.takeDue q now).result = .ok (some e) := by
  have he : e ∈ q.entries := by simp [hq]
  by_cases hsome : ∃ x, (s.takeDue q now).result = .ok (some x)
  · obtain ⟨x, hx⟩ := hsome
    have hmem : x ∈ q.entries := (((takeDue_some hx).2 x).mp (.inl rfl)).1
    rw [hq, List.mem_singleton] at hmem
    rw [hx, hmem]
  · have hnone : ∀ x, (s.takeDue q now).result ≠ .ok (some x) := fun x hx => hsome ⟨x, hx⟩
    exact absurd ⟨he, h⟩ (takeDue_not_some hnone).1

/-- A bounded downlink with a target of its own can be accepted only if the lead that programming
takes is within the bound. -/
theorem Accepts.minLead_lt_maxAdvance (h : s.Accepts q now p c) (hmode : p.mode = .timestamped)
    (hbounded : c.isAdvanceBounded = true) : s.policy.minLead < s.policy.maxAdvance := by
  obtain ⟨-, ⟨-, hlate, hearly⟩, -⟩ := (accepts_iff hmode).mp h
  exact UInt32.lt_of_lt_of_le hlate (hearly hbounded)

/-- And then a new queue accepts it at the bound. -/
theorem accepts_fresh_maxAdvance (hroom : s.HasRoom {} c) (hformed : p.isWellFormed = true)
    (hmode : p.mode = .timestamped) (h : s.policy.minLead < s.policy.maxAdvance) :
    s.Accepts {} now { p with target := now.after s.policy.maxAdvance } c := by
  refine (accepts_iff (p := { p with target := now.after s.policy.maxAdvance }) hmode).mpr
    ⟨hroom, ⟨hformed, ?_, fun _ => ?_⟩, nofun⟩
  · rwa [Counter.after_since]
  · rw [Counter.after_since]
    exact UInt32.le_refl _

/-- While it is due it is not stale, since it is nearer then than when it was handed in. -/
theorem Accepts.ripe {later : Counter} (h : s.Accepts q now p c) (hmode : p.mode = .timestamped)
    (hbounded : c.isAdvanceBounded = true) (hdue : p.target.since later < s.policy.jitDelay) :
    s.Ripe later (s.timed p c) := by
  have hlt := h.minLead_lt_maxAdvance hmode hbounded
  have hjit := Span.toNat_lt s.policy.jitDelay
  refine ⟨decide_eq_false (UInt32.not_le.mpr ?_), hdue⟩
  change p.target.since later < s.policy.maxAdvance
  rw [UInt32.lt_iff_toNat_lt] at hlt hdue ⊢
  rw [Policy.toNat_minLead] at hlt
  omega

end Scheduler

/-! ## What a checked configuration is good for -/

/-- **The first downlink of a new queue.** If the configuration was checked, an empty queue accepts
a well-formed immediate downlink if twice the look-ahead is time enough to program the radio, for
the time that is so far ahead, and refuses it as too late if not. Once accepted it survives a peek
at the same time just when that lead is less than the maximum advance. A well-formed reply has a
target for which it is accepted just when the lead that programming takes is less than the maximum
advance; and a reply that is accepted is given out by a poll at any time that is less than the
look-ahead before its target. -/
theorem validate_first {config : QueueConfig} (h : config.validate = .ok ())
    (airtime : AirtimeModel) (now : Counter) :
    let s := Scheduler.ofConfig config airtime
    (∀ p : Packet, p.isWellFormed = true → p.mode = .immediate →
      let slot := now.after (config.jitDelay.times 2)
      let after := (s.enqueue {} now p .classC).queue
      (config.Prompt → (s.enqueue {} now p .classC).result = .ok slot ∧
        ∃ e, after.entries = [e] ∧ e.packet = { p with target := slot, mode := .timestamped } ∧
          (e ∈ (s.peek after now).queue.entries ↔
            config.jitDelay.times 2 < config.maxAdvance)) ∧
      (¬config.Prompt → ∃ back, (s.enqueue {} now p .classC).result = .error ⟨.tooLate, back⟩)) ∧
    ∀ p : Packet, p.isWellFormed = true → p.mode = .timestamped →
      ((∃ target, s.Accepts {} now { p with target } .classA) ↔
        config.startDelay.toNat + config.margin.toNat + config.jitDelay.toNat <
          config.maxAdvance.toNat) ∧
      ∀ later, s.Accepts {} now p .classA → p.target.since later < config.jitDelay →
        ∃ e, (s.takeDue (s.enqueue {} now p .classA).queue later).result = .ok (some e) ∧
          e.packet = p ∧ e.trafficClass = .classA := by
  intro s
  have hroom : ∀ c, s.HasRoom {} c := Scheduler.hasRoom_fresh h airtime
  refine ⟨?immediate, ?reply⟩
  case immediate =>
    intro p hformed hmode slot after
    have hfares : s.outcome {} now p .classC = _ :=
      Scheduler.outcome_immediate_fresh (hroom .classC) hformed hmode
    have hintime : config.Prompt ↔ s.policy.minLead < s.policy.jitDelay.times 2 :=
      QueueConfig.prompt_iff
    refine ⟨?_, ?_⟩
    · intro hprompt
      rw [if_pos (hintime.mp hprompt), ← Scheduler.enqueue_eq_ok_iff] at hfares
      obtain ⟨e, he, htarget, hentries⟩ := Scheduler.enqueue_fresh hfares
      have hlead : e.lead now = config.jitDelay.times 2 := by
        rw [Entry.lead, htarget]
        exact Counter.after_since ..
      have hpacket := he.packet_eq
      rw [htarget] at hpacket
      have hstays : e ∈ (s.peek after now).queue.entries ↔ e.lead now < config.maxAdvance :=
        Scheduler.mem_peek_only hentries
      rw [hlead] at hstays
      exact ⟨hfares, e, hentries, hpacket, hstays⟩
    · intro hslow
      rw [if_neg (mt hintime.mpr hslow)] at hfares
      exact Scheduler.enqueue_eq_error_iff.mpr hfares
  case reply =>
    intro p hformed hmode
    have hlead : s.policy.minLead < s.policy.maxAdvance ↔
        config.startDelay.toNat + config.margin.toNat + config.jitDelay.toNat <
          config.maxAdvance.toNat :=
      QueueConfig.minLead_lt_maxAdvance_iff
    refine ⟨?_, ?_⟩
    · rw [← hlead]
      constructor
      · rintro ⟨target, htarget⟩
        exact htarget.minLead_lt_maxAdvance hmode rfl
      · intro hlt
        exact ⟨_, Scheduler.accepts_fresh_maxAdvance (hroom .classA) hformed hmode hlt⟩
    · intro later haccepts hdue
      obtain ⟨target, hok⟩ := haccepts
      obtain ⟨e, he, -, hentries⟩ := Scheduler.enqueue_fresh hok
      obtain rfl := he.eq_timed hmode
      have hripe := Scheduler.Accepts.ripe ⟨target, hok⟩ hmode rfl hdue
      exact ⟨_, Scheduler.takeDue_only hentries hripe, rfl, rfl⟩

/-- An immediate downlink and a reply on a new queue with the values that are the default, the first
for a slot behind the counter's zero. -/
theorem validate_first_default :
    let s := Scheduler.ofConfig {} (.fixed 50000)
    let wanted := Packet.immediate 1 [0x60] 869525000 (.loraDownlink 9 .khz125)
    let reply := Packet.timestamped 2 [0x60] ⟨100000⟩ 869525000 (.loraDownlink 9 .khz125)
    let waiting := (s.enqueue {} ⟨4294950000⟩ wanted .classC).queue
    let replying := (s.enqueue {} ⟨0⟩ reply .classA).queue
    QueueConfig.validate {} = .ok () ∧
      (s.enqueue {} ⟨4294950000⟩ wanted .classC).result = .ok ⟨62704⟩ ∧
      (s.peek waiting ⟨4294950000⟩).queue.entries ≠ [] ∧
      ∃ e, (s.takeDue replying ⟨60001⟩).result = .ok (some e) ∧ e.packet = reply := by
  intro s wanted reply waiting replying
  have hvalid : QueueConfig.validate {} = .ok () := rfl
  obtain ⟨himmediate, -⟩ := validate_first hvalid (.fixed 50000) ⟨4294950000⟩
  obtain ⟨hprompt, -⟩ := himmediate wanted (by decide) rfl
  obtain ⟨hok, e, -, -, hstays⟩ := hprompt (by decide)
  have hkept : (s.peek waiting ⟨4294950000⟩).queue.entries ≠ [] := by
    simp only [s, waiting]
    exact List.ne_nil_of_mem (hstays.mpr (by decide))
  obtain ⟨-, hreply⟩ := validate_first hvalid (.fixed 50000) ⟨0⟩
  obtain ⟨-, hgiven⟩ := hreply reply (by decide) rfl
  obtain ⟨e', htaken, hpacket, -⟩ := hgiven ⟨60001⟩ (by decide +kernel) (by decide)
  exact ⟨hvalid, hok, hkept, e', htaken, hpacket⟩

/-- Three configurations that pass the checks. With a start delay of 50 milliseconds a new queue
refuses an immediate downlink. With a beacon period of 20 milliseconds it accepts one that it drops
at the next peek, and with a period of 10 there is no target for a reply. -/
theorem validate_not_enough :
    let wanted := Packet.immediate 1 [0x60] 869525000 (.loraDownlink 9 .khz125)
    let reply := fun target =>
      Packet.timestamped 2 [0x60] target 869525000 (.loraDownlink 9 .khz125)
    wanted.isWellFormed = true ∧ wanted.mode = .immediate ∧
    (let config : QueueConfig := { startDelay := 50000 }
      let s := Scheduler.ofConfig config (.fixed 50000)
      config.validate = .ok () ∧
        ∃ back, (s.enqueue {} ⟨0⟩ wanted .classC).result = .error ⟨.tooLate, back⟩) ∧
    (let config : QueueConfig := { beaconPeriod := 20000 }
      let s := Scheduler.ofConfig config (.fixed 50000)
      config.validate = .ok () ∧ (s.enqueue {} ⟨0⟩ wanted .classC).result = .ok ⟨80000⟩ ∧
        (s.peek (s.enqueue {} ⟨0⟩ wanted .classC).queue ⟨0⟩).queue.entries = []) ∧
    (let config : QueueConfig := { beaconPeriod := 10000 }
      let s := Scheduler.ofConfig config (.fixed 50000)
      config.validate = .ok () ∧ ∀ target, (reply target).isWellFormed = true ∧
        ¬s.Accepts {} ⟨0⟩ (reply target) .classA) := by
  intro wanted reply
  refine ⟨by decide, rfl, ⟨by decide, ?_⟩, ⟨by decide, ?_, ?_⟩, by decide, ?_⟩
  · exact ⟨{ wanted with target := ⟨80000⟩, mode := .timestamped }, by decide +kernel⟩
  · decide +kernel
  · decide +kernel
  · intro target
    refine ⟨rfl, ?_⟩
    intro haccepts
    have hlt := haccepts.minLead_lt_maxAdvance rfl rfl
    exact absurd hlt (by decide)

end Downlink
