import Downlink.Proofs.Queue.Outcome
import Downlink.Proofs.Queue.Request
import Downlink.Proofs.Queue.Rotation

/-!
# Handing a downlink in again

A downlink that is refused is given back, so that it can be handed in again. What comes back is the
downlink as it was, unless it is an immediate one that the search found a slot for and that was
refused for this slot. That comes back with the slot as a target of its own
(`Scheduler.enqueue_eq_error`), and is no longer immediate: whenever it is handed in again it asks
for the same slot, while the downlink as it was would have a new one looked for.

So the two fare alike only if there is no room for either, if the search happens to find the same
slot, or if both slots are refused for the same reason. Since no class that may be immediate has a
bound on its targets, a slot that has passed in the meantime is not refused as too late. It seems
to lie nearly a turn ahead.
-/

namespace Downlink

/-- A downlink that was immediate, with the slot that was found for it. -/
def Packet.settled (p : Packet) (slot : Counter) : Packet :=
  { p with target := slot, mode := .timestamped }

theorem Packet.settled_target {p : Packet} (hmode : p.mode = .timestamped) :
    p.settled p.target = p := by
  rw [settled, ← hmode]

namespace Scheduler

variable {s : Scheduler} {q : Queue} {now : Counter} {p : Packet} {c : TrafficClass}

/-! ## What is given back -/

/-- Whatever it aims at becomes its target. -/
theorem resolve_eq_settled (s : Scheduler) (q : Queue) (now : Counter) (p : Packet)
    (c : TrafficClass) :
    s.resolve q now p (s.policy.preDelay c) (s.policy.postDelay c (s.timeOnAir p)) c =
      p.settled (s.aim q now p c) := by
  rcases hmode : p.mode with - | -
  · rw [aim_of_immediate hmode, resolve, hmode]
    rfl
  · rw [aim_of_timestamped hmode, Packet.settled_target hmode, resolve, hmode]

/-- A downlink that is refused by itself comes back as it was, and one that is refused for what it
aims at comes back with that for a target. -/
theorem enqueue_eq_error {r : Rejection} (h : (s.enqueue q now p c).result = .error r) :
    (s.entryRefusal? q p c = some r.reason ∧ r.packet = p) ∨
      s.entryRefusal? q p c = none ∧
        s.targetRefusal? q now (s.policy.window (s.aim q now p c) c (s.timeOnAir p)) c =
          some r.reason ∧
        r.packet = p.settled (s.aim q now p c) := by
  rcases s.enqueue_cases q now p c with ⟨e, -, hok, -⟩ | ⟨r', hr, herror, -⟩
  · rw [hok] at h
    cases h
  · obtain rfl : r' = r := Except.error.inj (herror.symm.trans h)
    cases hr with
    | entry hentry => exact .inl ⟨hentry, rfl⟩
    | target hentry hpre hpost htarget =>
      subst hpre hpost
      -- the search looks at the entries, not at the time last heard of
      have hpacket : s.resolve { q with reference := now } now p (s.policy.preDelay c)
          (s.policy.postDelay c (s.timeOnAir p)) c = p.settled (s.aim q now p c) :=
        s.resolve_eq_settled q now p c
      rw [hpacket] at htarget
      exact .inr ⟨hentry, htarget, hpacket⟩

/-- A downlink that has a target of its own comes back as it was. -/
theorem packet_of_timestamped {r : Rejection} (h : (s.enqueue q now p c).result = .error r)
    (hmode : p.mode = .timestamped) : r.packet = p := by
  rcases enqueue_eq_error h with ⟨-, hpacket⟩ | ⟨-, -, hpacket⟩
  · exact hpacket
  · rw [hpacket, aim_of_timestamped hmode, Packet.settled_target hmode]

/-! ## Handing it in again -/

/-- A class C downlink that got a slot has room when it would have had some without. -/
theorem entryRefusal?_settled (slot : Counter) :
    s.entryRefusal? q (p.settled slot) .classC = s.entryRefusal? q p .classC := by
  have hvalid (p : Packet) :
      (!p.isWellFormed || (p.mode = .immediate && TrafficClass.classC ≠ .classC)) =
        !p.isWellFormed := by
    simp
  simp only [entryRefusal?, hvalid]
  rfl

/-- And if there is room it fares as that slot does. -/
theorem outcome_settled (hair : s.airtime.FrameOnly) (h : s.entryRefusal? q p .classC = none)
    (slot : Counter) : s.outcome q now (p.settled slot) .classC =
      s.targetOutcome q now slot .classC (s.timeOnAir p) := by
  have hentry : s.entryRefusal? q (p.settled slot) .classC = none := by
    rw [entryRefusal?_settled, h]
  have htime : s.timeOnAir (p.settled slot) = s.timeOnAir p := by
    rw [timeOnAir, timeOnAir, hair (p.settled slot) p rfl rfl]
    rfl
  have haim : s.aim q now (p.settled slot) .classC = slot := aim_of_timestamped rfl
  rw [outcome_of_entry hentry, haim, htime]

/-- Two targets make no difference if they are one, or if both are refused for the same reason. -/
theorem targetOutcome_eq_iff {a b : Counter} {timeOnAir : Span} :
    s.targetOutcome q now a c timeOnAir = s.targetOutcome q now b c timeOnAir ↔
      b = a ∨ ∃ reason, s.targetRefusal? q now (s.policy.window a c timeOnAir) c = some reason ∧
        s.targetRefusal? q now (s.policy.window b c timeOnAir) c = some reason := by
  rw [targetOutcome, targetOutcome]
  constructor
  · intro h
    rcases ha : s.targetRefusal? q now (s.policy.window a c timeOnAir) c with - | reason <;>
      rcases hb : s.targetRefusal? q now (s.policy.window b c timeOnAir) c with - | reason' <;>
      rw [ha, hb] at h
    · exact .inl (Except.ok.inj h).symm
    · cases h
    · cases h
    · obtain rfl := Except.error.inj h
      exact .inr ⟨reason, rfl, rfl⟩
  · rintro (rfl | ⟨reason, ha, hb⟩)
    · rfl
    · rw [ha, hb]

/-- So a downlink with the slot of an earlier search fares as without it if there is no room, if the
same slot is found again, or if both slots are refused for the same reason, and only then. -/
theorem outcome_settled_eq_iff (hair : s.airtime.FrameOnly) (hformed : p.isWellFormed = true)
    (slot : Counter) :
    s.outcome q now (p.settled slot) .classC = s.outcome q now p .classC ↔
      ¬s.HasRoom q .classC ∨ s.aim q now p .classC = slot ∨
        ∃ reason,
          s.targetRefusal? q now (s.policy.window slot .classC (s.timeOnAir p)) .classC =
            some reason ∧
          s.targetRefusal? q now
              (s.policy.window (s.aim q now p .classC) .classC (s.timeOnAir p)) .classC =
            some reason := by
  by_cases hroom : s.HasRoom q .classC
  · have hnone : s.entryRefusal? q p .classC = none :=
      entryRefusal?_eq_none_iff.mpr ⟨hroom, hformed, fun _ => rfl⟩
    rw [outcome_settled hair hnone, outcome_of_entry hnone, or_iff_right (not_not.mpr hroom)]
    exact targetOutcome_eq_iff
  · have hfull : s.entryRefusal? q p .classC = some .full :=
      entryRefusal?_of_not_hasRoom hformed (fun _ => rfl) hroom
    have hfull' : s.entryRefusal? q (p.settled slot) .classC = some .full := by
      rw [entryRefusal?_settled, hfull]
    rw [outcome_of_entryRefusal? hfull, outcome_of_entryRefusal? hfull']
    exact iff_of_true rfl (.inl hroom)

end Scheduler

/-- **Handing a refused downlink in again.** A downlink that came with its target, or was refused
because the queue was full or it was invalid, comes back as it was, so it fares as it would have. An
immediate one that was refused for another reason comes back with the slot that was found for it.
Whatever was asked of the queue meanwhile, it is accepted for that slot or not at all; and if times
on air depend on nothing but the frame, it fares as it would have just when there is no room, when
the same slot is found again, or when both slots are refused for the same reason. -/
theorem enqueue_retry (config : QueueConfig) (airtime : AirtimeModel) {q : Queue} {now : Counter}
    {p : Packet} {c : TrafficClass} {r : Rejection}
    (h : ((Scheduler.ofConfig config airtime).enqueue q now p c).result = .error r) :
    let s := Scheduler.ofConfig config airtime
    let slot := s.aim q now p c
    (p.mode = .timestamped ∨ r.reason = .full ∨ r.reason = .invalid → r.packet = p) ∧
    (p.mode = .immediate → r.reason ≠ .full → r.reason ≠ .invalid →
      c = .classC ∧ r.packet = p.settled slot ∧
      ∀ q' now',
        (∀ target, (s.enqueue q' now' r.packet c).result = .ok target → target = slot) ∧
        (airtime.FrameOnly →
          (s.outcome q' now' r.packet c = s.outcome q' now' p c ↔
            ¬s.HasRoom q' c ∨ s.aim q' now' p c = slot ∨
              ∃ reason, s.targetRefusal? q' now' (s.policy.window slot c (airtime p)) c =
                  some reason ∧
                s.targetRefusal? q' now' (s.policy.window (s.aim q' now' p c) c (airtime p)) c =
                  some reason))) := by
  intro s slot
  rcases Scheduler.enqueue_eq_error h with ⟨hentry, hpacket⟩ | ⟨hentry, htarget, hpacket⟩
  · refine ⟨fun _ => hpacket, ?_⟩
    intro _ hfull hinvalid
    rcases Scheduler.reason_of_entryRefusal? hentry with hreason | hreason
    · exact absurd hreason hfull
    · exact absurd hreason hinvalid
  · have htime : s.timeOnAir p = airtime p := Scheduler.timeOnAir_of_entryRefusal? hentry
    obtain ⟨-, hformed, hclass⟩ := Scheduler.entryRefusal?_eq_none_iff.mp hentry
    refine ⟨?asItWas, ?settled⟩
    case asItWas =>
      rintro (hmode | hfull | hinvalid)
      · exact Scheduler.packet_of_timestamped h hmode
      · exact absurd hfull (Scheduler.ne_of_targetRefusal? htarget).1
      · exact absurd hinvalid (Scheduler.ne_of_targetRefusal? htarget).2
    case settled =>
      intro hmode _ _
      obtain rfl := hclass hmode
      refine ⟨rfl, hpacket, fun q' now' => ⟨?_, ?_⟩⟩
      · intro target hok
        have haim : s.aim q' now' r.packet .classC = slot := by
          rw [hpacket]
          exact Scheduler.aim_of_timestamped rfl
        rw [Scheduler.enqueue_eq_ok_iff, Scheduler.outcome_eq_ok_iff] at hok
        rw [← hok.2.1, haim]
      · intro hair
        rw [hpacket, ← htime]
        exact Scheduler.outcome_settled_eq_iff hair hformed slot

/-- An immediate downlink that is refused for a slot behind a reply that has passed. Handed in again
at once it fares the same, but no other slot than that is left to it. -/
theorem enqueue_retry_settled :
    let s := Scheduler.ofConfig {} (.fixed 50000)
    let reply := fun target =>
      Packet.timestamped 1 [0x60] ⟨target⟩ 869525000 (.loraDownlink 9 .khz125)
    let wanted := Packet.immediate 2 [0x60] 869525000 (.loraDownlink 9 .khz125)
    let back := wanted.settled ⟨232500⟩
    let q := (s.perform (s.perform {} (.enqueue ⟨0⟩ (reply 100000) .classA)).queue
      (.enqueue ⟨0⟩ (reply 350000) .classA)).queue
    AirtimeModel.FrameOnly (.fixed 50000) ∧
      (s.enqueue q ⟨200000⟩ wanted .classC).result = .error ⟨.tooLate, back⟩ ∧
      s.outcome q ⟨200000⟩ back .classC = s.outcome q ⟨200000⟩ wanted .classC ∧
      ∀ q' now' target, (s.enqueue q' now' back .classC).result = .ok target →
        target = ⟨232500⟩ := by
  intro s reply wanted back q
  have hair := AirtimeModel.frameOnly_fixed 50000
  have herror : (s.enqueue q ⟨200000⟩ wanted .classC).result = .error ⟨.tooLate, back⟩ := by
    decide +kernel
  have hslot : s.aim q ⟨200000⟩ wanted .classC = ⟨232500⟩ := by decide +kernel
  obtain ⟨-, hsettled⟩ := enqueue_retry {} (.fixed 50000) herror
  obtain ⟨-, -, hfares⟩ := hsettled rfl nofun nofun
  have hagain := ((hfares q ⟨200000⟩).2 hair).mpr (.inr (.inl rfl))
  refine ⟨hair, herror, hagain, ?_⟩
  intro q' now' target hok
  rw [← hslot]
  exact (hfares q' now').1 target hok

/-- Such a downlink, handed in again when the slot has passed and all that was queued is gone. As it
was given back it is accepted for the slot that has passed, and dropped by the next peek; as it was
it would have been accepted for a slot ahead. -/
theorem retry_accepted_late :
    let s := Scheduler.ofConfig {} (.fixed 50000)
    let reply := fun target =>
      Packet.timestamped 1 [0x60] ⟨target⟩ 869525000 (.loraDownlink 9 .khz125)
    let wanted := Packet.immediate 2 [0x60] 869525000 (.loraDownlink 9 .khz125)
    let back := wanted.settled ⟨232500⟩
    let q := (s.perform (s.perform {} (.enqueue ⟨0⟩ (reply 100000) .classA)).queue
      (.enqueue ⟨0⟩ (reply 350000) .classA)).queue
    let q' := (s.perform (s.perform q (.enqueue ⟨200000⟩ wanted .classC)).queue
      (.peek ⟨400000⟩)).queue
    QueueConfig.validate {} = .ok () ∧ Reachable s q ∧ Reachable s q' ∧
      (s.enqueue q ⟨200000⟩ wanted .classC).result = .error ⟨.tooLate, back⟩ ∧
      (s.enqueue q' ⟨400000⟩ back .classC).result = .ok ⟨232500⟩ ∧
      (s.peek (s.enqueue q' ⟨400000⟩ back .classC).queue ⟨400000⟩).queue.entries = [] ∧
      (s.enqueue q' ⟨400000⟩ wanted .classC).result = .ok ⟨480000⟩ := by
  intro s reply wanted back q q'
  have hq : Reachable s q := .step _ (.step _ .fresh)
  have hq' : Reachable s q' := .step _ (.step _ hq)
  refine ⟨rfl, hq, hq', ?_, ?_, ?_, ?_⟩ <;> decide +kernel

end Downlink
