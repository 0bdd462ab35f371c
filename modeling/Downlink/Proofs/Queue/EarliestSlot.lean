import Downlink.Proofs.Queue.ImmediateSlot

/-!
# The slot that is found is the earliest

An immediate downlink could be sent twice the look-ahead from now, or right behind one of the queued
entries (`Scheduler.slots`). Of these slots the search compares the first with all entries and each
of the others with one entry only, the next in the queue. Among entries that are spread out it still
finds the earliest slot that overlaps nothing: no slot behind an entry comes before the first one,
the slots come later and later in the order of the queue (`Spread.slotAfter_le`), and each slot that
the walk passes over overlaps the next entry, so it was not free.
-/

namespace Downlink

namespace Scheduler

/-- The times that the search considers for an immediate downlink. -/
def slots (s : Scheduler) (q : Queue) (now : Counter) : List Counter :=
  s.policy.asapTime now ::
    q.entries.map fun e => s.policy.slotAfter e.window (s.policy.preDelay .classC)

/-- No queued entry stands in the way of an immediate downlink at that time. -/
def Free (s : Scheduler) (q : Queue) (timeOnAir : Span) (slot : Counter) : Prop :=
  ∀ x ∈ q.entries, s.overlaps x ⟨slot, s.policy.preDelay .classC, timeOnAir⟩ .classC = false

variable {s : Scheduler} {q : Queue} {now : Counter} {far long : Nat} {timeOnAir : Span}

theorem asapSlot_mem_slots (s : Scheduler) (q : Queue) (now : Counter) (timeOnAir : Span) :
    s.asapSlot q now (s.policy.preDelay .classC) timeOnAir .classC ∈ s.slots q now := by
  rcases s.asapSlot_cases q now (s.policy.preDelay .classC) timeOnAir .classC with
    ⟨hslot, -⟩ | ⟨before, e, after, hsplit, hslot, -⟩
  · rw [hslot]
    exact List.mem_cons_self ..
  · rw [hslot]
    refine List.mem_cons_of_mem _ (List.mem_map_of_mem ?_)
    rw [hsplit]
    simp

/-! ## Slots in order -/

/-- How far ahead of now the slot behind an entry lies that is spread out with others. -/
theorem Spread.toNat_slotAfter {es : List Entry} {e : Entry} (h : s.Spread now far long es)
    (hroomy : s.policy.Roomy far long) (he : e ∈ es) :
    ((s.policy.slotAfter e.window (s.policy.preDelay .classC)).since now).toNat =
      (e.lead now).toNat + e.postDelay.toNat + (s.policy.preDelay .classC).toNat +
        s.policy.jitDelay.toNat + s.policy.margin.toNat := by
  have hfar := h.lead_le e he
  have hlong := h.postDelay_le e he
  have hturn := hroomy.turn
  exact lead_slotAfter (by omega)

/-- No slot behind an entry comes before the time that is twice the look-ahead away. -/
theorem Spread.asapTime_le {es : List Entry} {e : Entry} (h : s.Spread now far long es)
    (hroomy : s.policy.Roomy far long) (he : e ∈ es) :
    (s.policy.asapTime now).since now ≤
      (s.policy.slotAfter e.window (s.policy.preDelay .classC)).since now := by
  have hjit := UInt32.le_iff_toNat_le.mp (s.policy.jitDelay_le_preDelay .classC)
  have hturn := hroomy.turn
  rw [UInt32.le_iff_toNat_le, lead_asapTime now (by omega), h.toNat_slotAfter hroomy he]
  omega

/-- The slot behind an entry comes no later than those behind the entries that follow it, which
begin after it is over. -/
theorem Spread.slotAfter_le {before after : List Entry} {e x : Entry}
    (h : s.Spread now far long (before ++ e :: after)) (hroomy : s.policy.Roomy far long)
    (hx : x ∈ e :: after) :
    (s.policy.slotAfter e.window (s.policy.preDelay .classC)).since now ≤
      (s.policy.slotAfter x.window (s.policy.preDelay .classC)).since now := by
  rcases List.mem_cons.mp hx with rfl | hafter
  · exact UInt32.le_refl _
  · have hlead := (List.pairwise_cons.mp (List.pairwise_append.mp h.ascending).2.1).1 x hafter
    have hapart := (List.pairwise_cons.mp (List.pairwise_append.mp h.apart).2.1).1 x hafter
    have hover := hapart.begins_after hlead
    rw [UInt32.le_iff_toNat_le, h.toNat_slotAfter hroomy (by simp),
      h.toNat_slotAfter hroomy (by simp [hafter])]
    omega

/-! ## What the walk passes over -/

/-- An entry that the walk passes over has one behind it that its slot overlaps. -/
theorem exists_of_passedOver {pre post : Span} {c : TrafficClass} {before : List Entry}
    {e x : Entry} (h : (before ++ [e]).IsChain (s.PassedOver pre post c)) (hx : x ∈ before) :
    ∃ next ∈ before ++ [e], s.PassedOver pre post c x next := by
  induction before with
  | nil => cases hx
  | cons f rest ih =>
    obtain ⟨next, others, hrest⟩ := List.exists_cons_of_ne_nil (List.append_ne_nil_of_right_ne_nil
      rest (List.cons_ne_nil e []))
    rw [List.cons_append, hrest, List.isChain_cons_cons, ← hrest] at h
    rcases List.mem_cons.mp hx with rfl | hx
    · refine ⟨next, ?_, h.1⟩
      rw [List.cons_append, hrest]
      simp
    · obtain ⟨y, hy, hover⟩ := ih h.2 hx
      exact ⟨y, List.mem_cons_of_mem f hy, hover⟩

/-- Among entries that are spread out, no free slot comes before the one that is found. -/
theorem Spread.asapSlot_le (h : s.Spread now far long q.entries)
    (hroomy : s.policy.Roomy far long) {slot : Counter} (hslot : slot ∈ s.slots q now)
    (hfree : s.Free q timeOnAir slot) :
    (s.asapSlot q now (s.policy.preDelay .classC) timeOnAir .classC).since now ≤
      slot.since now := by
  rcases s.asapSlot_cases q now (s.policy.preDelay .classC) timeOnAir .classC with
    ⟨hfound, -⟩ | ⟨before, e, after, hsplit, hfound, -, hpassed, htaken⟩
  · rw [hfound]
    rcases List.mem_cons.mp hslot with rfl | hbehind
    · exact UInt32.le_refl _
    · obtain ⟨x, hx, rfl⟩ := List.mem_map.mp hbehind
      exact h.asapTime_le hroomy hx
  · rw [hfound]
    rcases List.mem_cons.mp hslot with rfl | hbehind
    · exact absurd hfree htaken
    · obtain ⟨x, hx, rfl⟩ := List.mem_map.mp hbehind
      rw [hsplit] at h hx
      rcases List.mem_append.mp hx with hbefore | hrest
      · -- the walk passed over `x`, so its slot is taken
        obtain ⟨next, hnext, hover⟩ := exists_of_passedOver hpassed hbefore
        have hmem : next ∈ q.entries := by
          rw [hsplit, List.append_cons]
          exact List.mem_append_left after hnext
        exact absurd hover (Bool.eq_false_iff.mp (hfree next hmem))
      · exact h.slotAfter_le hroomy hrest

/-! ## The entries of a reachable queue -/

/-- Entries of a reachable queue that are stored in the order of their leads are spread out. -/
theorem spread_of_ordered (hreachable : Reachable s q)
    (hfar : ∀ e ∈ q.entries, (e.lead now).toNat ≤ far)
    (horder : q.entries.Pairwise fun a b => a.lead now ≤ b.lead now)
    (hlong : ∀ e ∈ q.entries, e.postDelay.toNat ≤ long) : s.Spread now far long q.entries := by
  have hapart := pairwise_apart_of_reachable hreachable
  refine ⟨?_, hapart, sized_of_reachable hreachable, hfar, hlong⟩
  refine (List.Pairwise.and horder hapart).imp ?_
  rintro a b ⟨hle, hab⟩
  apply UInt32.lt_of_le_of_ne hle
  intro heq
  exact hab.target_ne (Counter.since_inj.mp heq)

end Scheduler

/-- **The search finds the earliest free slot.** Let the look-ahead be longer than what starting a
frame and the margin take, and no longer than the time kept for a beacon. Take a reachable queue
whose entries lie less than the maximum advance ahead, in the order of their leads, and a bound
`long` on their post-delays and on the time on air of the new frame, such that the maximum advance
and two windows more fit on the circle. Then an immediate class C downlink that a radio could send
is accepted unless the queue is full for it, and its target is the first free one of the slots that
the search considers. The search itself takes the first slot if it is free, and else walks to the
first entry whose slot does not overlap the entry that follows; it compares with no other. -/
theorem immediate_earliest (config : QueueConfig) (airtime : AirtimeModel) (long : Nat) {q : Queue}
    {now : Counter} {p : Packet} :
    let s := Scheduler.ofConfig config airtime
    let pre := s.policy.preDelay .classC
    Reachable s q →
    config.startDelay.toNat + config.margin.toNat < config.jitDelay.toNat →
    config.jitDelay ≤ config.beaconReserved →
    (∀ e ∈ q.entries, e.lead now < config.maxAdvance) →
    (q.entries.Pairwise fun a b => a.lead now ≤ b.lead now) →
    (∀ e ∈ q.entries, e.postDelay.toNat ≤ long) → (airtime p).toNat ≤ long →
    config.maxAdvance.toNat + 2 * long + 2 * (config.startDelay.toNat + config.jitDelay.toNat) +
      2 * config.jitDelay.toNat + 2 * config.margin.toNat < 2 ^ 32 →
    p.isWellFormed = true → p.mode = .immediate →
    (∀ back, (s.enqueue q now p .classC).result ≠ .error ⟨.full, back⟩) →
    ∃ target, (s.enqueue q now p .classC).result = .ok target ∧
      target ∈ s.slots q now ∧ s.Free q (airtime p) target ∧
      (∀ slot ∈ s.slots q now, s.Free q (airtime p) slot → target.since now ≤ slot.since now) ∧
      (s.Free q (airtime p) (s.policy.asapTime now) ∧ target = s.policy.asapTime now ∨
        ¬s.Free q (airtime p) (s.policy.asapTime now) ∧
          ∃ before e after, q.entries = before ++ e :: after ∧
            target = s.policy.slotAfter e.window pre ∧
            (∀ next ∈ after.head?, s.overlaps next ⟨target, pre, airtime p⟩ .classC = false) ∧
            (before ++ [e]).IsChain (s.PassedOver pre (airtime p) .classC)) := by
  intro s pre hreachable hlookahead hreserved hfar horder hlong hair hturn hformed hmode hfull
  have hpre : pre.toNat ≤ config.startDelay.toNat + config.jitDelay.toNat := by
    change (config.startDelay.plus config.jitDelay).toNat ≤ _
    rw [Span.toNat_plus]
    omega
  have hroomy : s.policy.Roomy config.maxAdvance.toNat long := by
    refine ⟨hlookahead, hreserved, ?_⟩
    change config.maxAdvance.toNat + 2 * long + 2 * pre.toNat + 2 * config.jitDelay.toNat +
      2 * config.margin.toNat < 2 ^ 32
    omega
  have hspread : s.Spread now config.maxAdvance.toNat long q.entries := by
    refine Scheduler.spread_of_ordered hreachable (fun e he => ?_) horder hlong
    exact Nat.le_of_lt (UInt32.lt_iff_toNat_lt.mp (hfar e he))
  have hroom : s.HasRoom q .classC := by
    by_contra hnone
    have hrefused := Scheduler.entryRefusal?_of_not_hasRoom (p := p) hformed (fun _ => rfl) hnone
    obtain ⟨back, hback⟩ :=
      Scheduler.enqueue_eq_error_iff.mpr (Scheduler.outcome_of_entryRefusal? hrefused)
    exact hfull back hback
  have hentry : s.entryRefusal? { q with reference := now } p .classC = none :=
    Scheduler.entryRefusal?_eq_none_iff.mpr ⟨hroom, hformed, fun _ => rfl⟩
  have htime : s.timeOnAir p = airtime p := Scheduler.timeOnAir_of_entryRefusal? hentry
  have hpost : (s.timeOnAir p).toNat ≤ long := htime ▸ hair
  have hok := hspread.enqueue_immediate hroomy hentry hmode hpost
  have hfree := hspread.asapSlot_clear hroomy rfl hpost
  rw [htime] at hok hfree
  refine ⟨_, hok, s.asapSlot_mem_slots q now _, hfree, ?_, ?_⟩
  · intro slot hslot hslotFree
    exact hspread.asapSlot_le hroomy hslot hslotFree
  · rcases s.asapSlot_cases q now pre (airtime p) .classC with
      ⟨hfound, hclear⟩ | ⟨before, e, after, hsplit, hfound, hnext, hpassed, htaken⟩
    · exact .inl ⟨hclear, hfound⟩
    · refine .inr ⟨htaken, before, e, after, hsplit, hfound, ?_, hpassed⟩
      rw [hfound]
      exact hnext

/-- Three replies, the first of which leaves the first choice and the slot behind it no room. The
downlink goes behind the second one. -/
theorem immediate_earliest_behind :
    let s := Scheduler.ofConfig {} (.fixed 50000)
    let reply := fun target =>
      Packet.timestamped 1 [0x60] ⟨target⟩ 869525000 (.loraDownlink 9 .khz125)
    let wanted := Packet.immediate 2 [0x60] 869525000 (.loraDownlink 9 .khz125)
    let q := (s.perform (s.perform (s.perform {} (.enqueue ⟨0⟩ (reply 100000) .classA)).queue
      (.enqueue ⟨0⟩ (reply 250000) .classA)).queue (.enqueue ⟨0⟩ (reply 600000) .classA)).queue
    Reachable s q ∧ q.entries.map (·.target) = [⟨100000⟩, ⟨250000⟩, ⟨600000⟩] ∧
      s.slots q ⟨0⟩ = [⟨80000⟩, ⟨232500⟩, ⟨382500⟩, ⟨732500⟩] ∧
      ∃ target, (s.enqueue q ⟨0⟩ wanted .classC).result = .ok target ∧ s.Free q 50000 target ∧
        (∀ slot ∈ s.slots q ⟨0⟩, s.Free q 50000 slot → target.since ⟨0⟩ ≤ slot.since ⟨0⟩) ∧
        target = ⟨382500⟩ := by
  intro s reply wanted q
  have hreachable : Reachable s q := .step _ (.step _ (.step _ .fresh))
  have hresult : (s.enqueue q ⟨0⟩ wanted .classC).result = .ok ⟨382500⟩ := by decide +kernel
  have hfull : ∀ back, (s.enqueue q ⟨0⟩ wanted .classC).result ≠ .error ⟨.full, back⟩ := by
    rw [hresult]
    nofun
  obtain ⟨target, hok, -, hfree, hearliest, -⟩ :=
    immediate_earliest {} (.fixed 50000) 50000 hreachable (by decide) (by decide)
      (by decide +kernel) (by decide +kernel) (by decide +kernel) (by decide) (by decide)
      (by decide) rfl hfull
  refine ⟨hreachable, by decide +kernel, by decide +kernel, target, hok, hfree, hearliest, ?_⟩
  exact (Except.ok.inj (hresult.symm.trans hok)).symm

end Downlink
