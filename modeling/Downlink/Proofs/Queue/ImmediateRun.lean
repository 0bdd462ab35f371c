import Downlink.Proofs.Queue.Chronology
import Downlink.Proofs.Queue.EarliestSlot
import Downlink.Proofs.Queue.Order
import Downlink.Proofs.Queue.Timeline

/-!
# Whether an immediate downlink finds a slot

The search for a slot trusts that the entries lie ahead and in order. Neither is certain: an entry
whose slot has passed stays queued until the next poll, and the entries were sorted as seen from an
earlier time. This module says what the search finds after a run of requests in time, among any
mixture of entries that have passed and entries ahead.

In a run shorter than half a turn every entry has a target time, and so has the last sort
(`Scheduler.Dated`). Entries that were no older than the maximum advance at the last sort are in the
order of time, and those that were come behind them. So if the walk stops behind an entry of the
first kind, the entry that follows is the next one in time (`Dated.exists_next_le`), and comparing
the slot with that one is enough. The slot behind an entry of the second kind has passed.

Hence the slot that is found overlaps nothing if it lies ahead (`Dated.free_slotAfter`), and then
the downlink gets it (`immediate_accepted`). But the walk never looks at the time. An entry that has
passed lends its slot like any other, and where that slot has passed as well, or is too near, the
downlink is refused as too late or even accepted for a time in the past (`immediate_misplaced`).
-/

namespace Downlink

namespace Scheduler

variable {s : Scheduler} {q : Queue} {r : Request} {start sorted heard n : Nat}

/-! ## The reference a request leaves -/

theorem reference_enqueue (s : Scheduler) (q : Queue) (now : Counter) (p : Packet)
    (c : TrafficClass) : (s.enqueue q now p c).queue.reference = now := by
  rcases s.enqueue_cases q now p c with ⟨e, -, -, hqueue⟩ | ⟨reason, -, -, hqueue⟩ <;> rw [hqueue]
  rfl

/-- A request leaves the time it was made at as the reference, or the one that was there, or no
entries. -/
theorem reference_perform (h : r.MadeAt n) :
    (s.perform q r).queue.reference = .ofTime n ∨
      (s.perform q r).queue.reference = q.reference ∨ (s.perform q r).queue.entries = [] := by
  cases r with
  | enqueue now p c =>
    obtain rfl : now = .ofTime n := h
    exact .inl (s.reference_enqueue q _ p c)
  | dequeue i =>
    change (s.dequeue q i).queue.reference = _ ∨ (s.dequeue q i).queue.reference = _ ∨ _
    rcases s.dequeue_cases q i with ⟨hi, -, hqueue⟩ | ⟨reason, -, hqueue⟩ <;>
    · rw [hqueue]
      exact .inr (.inl rfl)
  | peek now =>
    obtain rfl : now = .ofTime n := h
    change (s.peek q _).queue.reference = _ ∨ (s.peek q _).queue.reference = _ ∨ _
    rcases s.peek_cases q (.ofTime n) with ⟨-, -, hqueue⟩ | ⟨-, gone, left, -, hparted, -, hqueue⟩
    · rw [hqueue]
      exact .inr (.inl rfl)
    · rw [hqueue]
      exact .inl hparted.reference
  | takeDue now =>
    obtain rfl : now = .ofTime n := h
    change (s.takeDue q _).queue.reference = _ ∨ (s.takeDue q _).queue.reference = _ ∨ _
    rcases s.takeDue_cases q (.ofTime n) with
      ⟨-, -, hqueue⟩ | ⟨-, gone, left, -, hparted, ⟨-, -, hqueue⟩ | ⟨i, hi, -, -, hqueue⟩⟩
    · rw [hqueue]
      exact .inr (.inl rfl)
    · rw [hqueue]
      exact .inl hparted.reference
    · rw [hqueue]
      exact .inl hparted.reference
  | clear => exact .inr (.inr rfl)

/-! ## Entries in time -/

/-- If the request hands in a downlink that is accepted, its target comes less than half a turn after
the request. It may have passed, but not before the start. -/
def Near (s : Scheduler) (start : Nat) (q : Queue) (r : Request) : Prop :=
  ∀ now p c target, r = .enqueue now p c → (s.enqueue q now p c).result = .ok target →
    target.timeFrom start < now.timeFrom start + 2 ^ 31

/-- A downlink with a target of its own can be accepted for no other. -/
theorem near_of_timestamped {now : Counter} {p : Packet} (c : TrafficClass)
    (hmode : p.mode = .timestamped)
    (hnear : p.target.timeFrom start < now.timeFrom start + 2 ^ 31) :
    s.Near start q (.enqueue now p c) := by
  rintro _ _ _ target ⟨⟩ hok
  rw [enqueue_eq_ok_iff, outcome_eq_ok_iff, aim_of_timestamped hmode] at hok
  rwa [← hok.2.1]

/-- The times behind the readings of a queue: when it was sorted last, when it was heard of last,
and when its entries are to be sent. -/
structure Dated (s : Scheduler) (start sorted heard : Nat) (q : Queue) : Prop where
  /-- it was sorted after the start -/
  start_le : start ≤ sorted
  /-- and heard of since -/
  sorted_le : sorted ≤ heard
  /-- that is what the reference tells -/
  reference : q.reference = .ofTime heard
  /-- the entries are in the order of the last sort -/
  ascending : (Vantage.lookingBack (.ofTime sorted) s.policy.maxAdvance).Ascending q.entries
  /-- their targets come less than half a turn after the last sort -/
  target_lt : ∀ e ∈ q.entries, e.time start < sorted + 2 ^ 31

/-- What is in order as seen from behind the reference is in order as seen from behind the time that
the reference tells. -/
theorem ascending_of_inOrder {q : Queue} (h : s.InOrder q) (hreachable : Reachable s q)
    (hreference : q.reference = .ofTime n) :
    (Vantage.lookingBack (.ofTime n) s.policy.maxAdvance).Ascending q.entries := by
  have hascending := h.ascending (pairwise_apart_of_reachable hreachable)
  rw [vantage, hreference] at hascending
  exact hascending

/-- A downlink that is accepted is sorted in among the entries that were there. -/
theorem dated_of_accepted {p : Packet} {c : TrafficClass} {e : Entry} (hstart : start ≤ n)
    (htargets : ∀ x ∈ q.entries, x.time start < n + 2 ^ 31) (hnear : e.time start < n + 2 ^ 31)
    (hperm : (s.enqueue q (.ofTime n) p c).queue.entries.Perm (e :: q.entries))
    (hreachable : Reachable s (s.enqueue q (.ofTime n) p c).queue) :
    s.Dated start n n (s.enqueue q (.ofTime n) p c).queue := by
  have hreference := s.reference_enqueue q (.ofTime n) p c
  constructor
  case start_le => exact hstart
  case sorted_le => exact Nat.le_refl n
  case reference => exact hreference
  case ascending =>
    rcases s.enqueue_reordered q (.ofTime n) p c with hsame | ⟨-, horder⟩
    · have hlength := hperm.length_eq
      rw [hsame, List.length_cons] at hlength
      omega
    · exact ascending_of_inOrder horder hreachable hreference
  case target_lt =>
    intro x hx
    rcases List.mem_cons.mp (hperm.mem_iff.mp hx) with rfl | hx
    · exact hnear
    · exact htargets x hx

/-- A request that takes none in keeps the times of the entries it leaves. If it sorts them, it does
so at the time that was heard of last. -/
theorem Dated.perform_of_lost (h : s.Dated start sorted heard q) (hn : heard ≤ n)
    (hmade : r.MadeAt n) {gone : List Entry}
    (hlost : (gone ++ (s.perform q r).queue.entries).Perm q.entries)
    (hreachable : Reachable s (s.perform q r).queue)
    (hne : (s.perform q r).queue.entries ≠ []) :
    ∃ sorted heard, heard ≤ n ∧ s.Dated start sorted heard (s.perform q r).queue := by
  obtain ⟨later, hlater, hle, hreference⟩ : ∃ later, heard ≤ later ∧ later ≤ n ∧
      (s.perform q r).queue.reference = .ofTime later := by
    rcases reference_perform hmade with hnow | hsame | hnone
    · exact ⟨n, hn, Nat.le_refl n, hnow⟩
    · exact ⟨heard, Nat.le_refl heard, hn, hsame.trans h.reference⟩
    · exact absurd hnone hne
  have htargets : ∀ e ∈ (s.perform q r).queue.entries, e.time start < sorted + 2 ^ 31 := by
    intro e he
    exact h.target_lt e (hlost.mem_iff.mp (List.mem_append_right gone he))
  have hstart := h.start_le
  have hsorted := h.sorted_le
  rcases s.perform_order q r with ⟨-, horder⟩ | ⟨-, hsame | hnone⟩
  · refine ⟨later, later, hle, by omega, Nat.le_refl later, hreference, ?_, ?_⟩
    · exact ascending_of_inOrder horder hreachable hreference
    · intro e he
      have hlt := htargets e he
      omega
  · refine ⟨sorted, later, hle, hstart, by omega, hreference, ?_, htargets⟩
    rw [hsame]
    exact h.ascending
  · exact absurd hnone hne

/-- Requests in time that keep targets near lead to a queue whose entries have their times, within a
turn after the start. The induction is on the requests. -/
theorem dated_of_leads (h : Leads s (s.Near start) {} start q n) (hn : n < start + 2 ^ 32) :
    q.entries = [] ∨ ∃ sorted heard, heard ≤ n ∧ s.Dated start sorted heard q := by
  induction h with
  | refl => exact .inl rfl
  | @step q m n r hleads hle hmade hnear ih =>
    by_cases hne : (s.perform q r).queue.entries = []
    · exact .inl hne
    have hreachable : Reachable s (s.perform q r).queue := .step r (hleads.reachable .fresh)
    have hstart := hleads.le
    rcases s.perform_entries q r with ⟨now, p, c, e, rfl, hok, -, hperm⟩ | ⟨gone, hlost⟩
    · obtain rfl : now = .ofTime n := hmade
      have hahead := hnear _ p c _ rfl hok
      rw [Counter.timeFrom_ofTime (by omega) hn] at hahead
      refine .inr ⟨n, n, Nat.le_refl n, ?_⟩
      refine dated_of_accepted (by omega) ?_ hahead hperm hreachable
      intro x hx
      rcases ih (by omega) with hnone | ⟨sorted, heard, hheard, hdated⟩
      · rw [hnone] at hx
        cases hx
      · have hlt := hdated.target_lt x hx
        have hsorted := hdated.sorted_le
        omega
    · rcases ih (by omega) with hnone | ⟨sorted, heard, hheard, hdated⟩
      · rw [hnone, List.perm_nil, List.append_eq_nil_iff] at hlost
        exact absurd hlost.2 hne
      · exact .inr (hdated.perform_of_lost (by omega) hmade hlost hreachable hne)

/-! ## The next entry in time -/

/-- Behind an entry that was no older than the maximum advance at the last sort the next one in time
follows, if there is one. Older entries, which come last, are not later. -/
theorem Dated.exists_next_le (h : s.Dated start sorted heard q) (hsorted : sorted < start + 2 ^ 31)
    (hadvance : s.policy.maxAdvance.toNat ≤ 2 ^ 31) {before after : List Entry} {e x : Entry}
    (hsplit : q.entries = before ++ e :: after) (hx : x ∈ q.entries)
    (hrecent : sorted ≤ e.time start + s.policy.maxAdvance.toNat)
    (hlater : e.time start < x.time start) :
    ∃ next ∈ after.head?, e.time start < next.time start ∧ next.time start ≤ x.time start := by
  have hdistance (y : Entry) :
      ((Vantage.lookingBack (.ofTime sorted) s.policy.maxAdvance).distance y.target).toNat =
        (y.time start + s.policy.maxAdvance.toNat + 2 ^ 32 - sorted) % 2 ^ 32 := by
    have hstart := y.time_eq start
    rw [← Vantage.toNat_distance_ofTime (by omega), ← y.target_eq]
  have hxlt := h.target_lt x hx
  have hascending := hsplit ▸ h.ascending
  -- both lie within one turn past the vantage point, so their distances are in the order of time
  have hfarther : (Vantage.lookingBack (.ofTime sorted) s.policy.maxAdvance).distance e.target <
      (Vantage.lookingBack (.ofTime sorted) s.policy.maxAdvance).distance x.target := by
    rw [UInt32.lt_iff_toNat_lt, hdistance, hdistance]
    omega
  obtain ⟨next, hhead, hafter, hle⟩ := Scheduler.exists_next_le hascending (hsplit ▸ hx) hfarther
  have hmem : next ∈ q.entries := by simp [hsplit, List.mem_of_mem_head? hhead]
  have hnextlt := h.target_lt next hmem
  have hnextstart := next.time_eq start
  rw [UInt32.lt_iff_toNat_lt, hdistance, hdistance] at hafter
  rw [UInt32.le_iff_toNat_le, hdistance, hdistance] at hle
  exact ⟨next, hhead, by omega, by omega⟩

end Scheduler

/-! ## The default constants -/

section Default

variable {s : Scheduler} (hpolicy : s.policy = Policy.ofConfig {})
  (hairtime : ∀ p, s.airtime p ≤ 1000000)

include hpolicy

theorem Scheduler.delays_default : (s.policy.preDelay .classC).toNat = 41500 ∧
    s.policy.jitDelay.toNat = 40000 ∧ s.policy.margin.toNat = 1000 := by
  rw [hpolicy]
  exact ⟨rfl, rfl, rfl⟩

/-- The slot behind an entry, in time. -/
theorem Scheduler.slotAfter_default (start : Nat) {e : Entry} (hlong : e.postDelay.toNat ≤ 2120000) :
    s.policy.slotAfter e.window (s.policy.preDelay .classC) =
      .ofTime (e.time start + e.postDelay.toNat + 82500) := by
  have hoffset : (((e.postDelay.plus (s.policy.preDelay .classC)).plus s.policy.jitDelay).plus
      s.policy.margin).toNat = e.postDelay.toNat + 82500 := by
    obtain ⟨hpre, hjit, hmargin⟩ := delays_default hpolicy
    simp only [Span.toNat_plus]
    omega
  change e.target.after (((e.postDelay.plus _).plus _).plus _) = _
  rw [e.target_eq start, Counter.ofTime_after, hoffset, Nat.add_assoc]

include hairtime

/-- No entry takes the radio for longer than a beacon if frames take a second at most. -/
theorem Scheduler.Sized.postDelay_le {e : Entry} (h : s.Sized e) :
    e.postDelay.toNat ≤ 2120000 := by
  obtain ⟨p, hpost⟩ := h.postDelay
  have hsecond : (s.airtime p).toNat ≤ 1000000 := UInt32.le_iff_toNat_le.mp (hairtime p)
  rw [hpost, hpolicy]
  cases e.trafficClass with
  | beacon => exact Nat.le_refl _
  | _ =>
    change (s.airtime p).toNat ≤ _
    omega

/-- The slot behind an entry, if it does not overlap the entry that follows in the queue and lies
ahead, overlaps none. As seen from the start of the run all leads are times. -/
theorem Scheduler.Dated.free_slotAfter {q : Queue} {start sorted heard now : Nat} {p : Packet}
    {before after : List Entry} {e : Entry} (h : s.Dated start sorted heard q)
    (hreachable : Reachable s q) (hheard : heard ≤ now) (hnow : now < start + 2 ^ 31)
    (hsplit : q.entries = before ++ e :: after)
    (hnext : ∀ next ∈ after.head?, s.overlaps next ⟨s.policy.slotAfter e.window
      (s.policy.preDelay .classC), s.policy.preDelay .classC, s.airtime p⟩ .classC = false)
    (hahead : now < e.time start + e.postDelay.toNat + 82500)
    (hturn : e.time start + e.postDelay.toNat + 82500 + (s.airtime p).toNat + 42500 <
      start + 2 ^ 32) :
    s.Free q (s.airtime p) (s.policy.slotAfter e.window (s.policy.preDelay .classC)) := by
  obtain ⟨hpre, hjit, hmargin⟩ := delays_default hpolicy
  have hadvance : s.policy.maxAdvance.toNat = 512000000 := by rw [hpolicy]; rfl
  have hreserved : s.policy.jitDelay ≤ s.policy.beaconReserved := by rw [hpolicy]; decide
  have hsized := sized_of_reachable hreachable
  have hlong : ∀ x ∈ q.entries, x.postDelay.toNat ≤ 2120000 :=
    fun x hx => (hsized x hx).postDelay_le hpolicy hairtime
  have hsorted := h.sorted_le
  have he : e ∈ q.entries := by simp [hsplit]
  have helong := hlong e he
  have helead := e.time_eq start
  have hslot : ((s.policy.slotAfter e.window (s.policy.preDelay .classC)).since
      (.ofTime start)).toNat = _ := lead_slotAfter (by omega)
  apply slotAfter_clear_of_next he (pairwise_apart_of_reachable hreachable) hsized (by omega)
    hreserved rfl hslot
  · intro x hx
    omega
  · intro x hx
    have hxlong := hlong x hx
    have hxlt := h.target_lt x hx
    have hxlead := x.time_eq start
    omega
  · intro x hx hlater
    rw [UInt32.lt_iff_toNat_lt] at hlater
    have hxlead := x.time_eq start
    obtain ⟨next, hhead, hafter, hle⟩ :=
      h.exists_next_le (by omega) (by omega) hsplit hx (by omega) (by omega)
    have hnextlead := next.time_eq start
    refine ⟨next, by simp [hsplit, List.mem_of_mem_head? hhead], ?_, ?_, hnext next hhead⟩
    · rw [UInt32.lt_iff_toNat_lt]
      omega
    · rw [UInt32.le_iff_toNat_le]
      omega

end Default

/-! ## The slot -/

/-- An immediate downlink that can enter the queue is accepted for a slot ahead just when the slot
that is found lies ahead, if it overlaps nothing then. -/
theorem Scheduler.enqueue_ahead_iff {s : Scheduler} {q : Queue} {p : Packet} {start now slot : Nat}
    (hentry : s.entryRefusal? { q with reference := .ofTime now } p .classC = none)
    (hmode : p.mode = .immediate) (haim : s.aim q (.ofTime now) p .classC = .ofTime slot)
    (hstart : start ≤ now) (hnow : now < start + 2 ^ 31) (hslot : start ≤ slot)
    (hturn : slot < start + 2 ^ 32)
    (hfree : now + s.policy.minLead.toNat < slot → s.Free q (s.timeOnAir p) (.ofTime slot)) :
    (∃ target, (s.enqueue q (.ofTime now) p .classC).result = .ok target ∧
        s.policy.minLead < target.since (.ofTime now) ∧
        (target.since (.ofTime now)).toNat < 2 ^ 31) ↔
      now + s.policy.minLead.toNat < slot ∧ slot < now + 2 ^ 31 := by
  have hbetween := Counter.since_between_iff s.policy.minLead.toNat hstart hnow hslot hturn
  rw [← hbetween]
  constructor
  · rintro ⟨target, hok, hlate, hfar⟩
    rw [enqueue_eq_ok_iff, outcome_eq_ok_iff] at hok
    obtain rfl : .ofTime slot = target := haim.symm.trans hok.2.1
    exact ⟨UInt32.lt_iff_toNat_lt.mp hlate, hfar⟩
  · rintro ⟨hlate, hfar⟩
    have hlead := UInt32.lt_iff_toNat_lt.mpr hlate
    have hfound : s.asapSlot q (.ofTime now) (s.policy.preDelay .classC) (s.timeOnAir p) .classC =
        .ofTime slot := (aim_of_immediate hmode).symm.trans haim
    have hclear := hfree (hbetween.mp ⟨hlate, hfar⟩).1
    exact ⟨_, enqueue_of_slot hentry hmode rfl hfound hlead hclear, hlead, hfar⟩

/-- **A slot for immediate downlinks.** Take the default constants, frames of a second at most, and
a run of requests in time, shorter than half a turn, whose accepted targets come less than half a
turn after they were asked for. For a class C downlink that is to be sent at once and has room, the
search finds the time that is twice the look-ahead away or the slot behind a queued entry, which may
have passed. If the downlink would be over within a turn after the start of the run, with 42.5
milliseconds to spare, it is accepted for a target that leaves time to program the radio and comes
less than half a turn ahead just when that slot does. So entries that have passed do no harm, however
many there are, unless the slot behind one of them is the one that is found. -/
theorem immediate_accepted {config : QueueConfig} {airtime : AirtimeModel}
    (hpolicy : Policy.ofConfig config = Policy.ofConfig {}) (hairtime : ∀ p, airtime p ≤ 1000000)
    {start n now : Nat} {q : Queue} {p : Packet} :
    let s := Scheduler.ofConfig config airtime
    Leads s (s.Near start) {} start q n → n ≤ now → now < start + 2 ^ 31 →
    p.isWellFormed = true → p.mode = .immediate → s.HasRoom q .classC →
    ∃ slot, s.aim q (.ofTime now) p .classC = .ofTime slot ∧
      (slot = now + 80000 ∨
        ∃ e ∈ q.entries, slot = e.time start + e.postDelay.toNat + 82500) ∧
      (slot + (airtime p).toNat + 42500 < start + 2 ^ 32 →
        ((∃ target, (s.enqueue q (.ofTime now) p .classC).result = .ok target ∧
            s.policy.minLead < target.since (.ofTime now) ∧
            (target.since (.ofTime now)).toNat < 2 ^ 31) ↔
          now + 42500 < slot ∧ slot < now + 2 ^ 31)) := by
  intro s hleads hn hnow hformed hmode hroom
  have hdefault : s.policy = Policy.ofConfig {} := hpolicy
  have hmin : s.policy.minLead.toNat = 42500 := by rw [hdefault]; rfl
  have hreachable := hleads.reachable .fresh
  have hstart := hleads.le
  have hentry : s.entryRefusal? { q with reference := .ofTime now } p .classC = none :=
    Scheduler.entryRefusal?_eq_none_iff.mpr ⟨hroom, hformed, fun _ => rfl⟩
  have htime : s.timeOnAir p = s.airtime p := Scheduler.timeOnAir_of_entryRefusal? hentry
  have haim : s.aim q (.ofTime now) p .classC =
      s.asapSlot q (.ofTime now) (s.policy.preDelay .classC) (s.airtime p) .classC :=
    htime ▸ Scheduler.aim_of_immediate hmode
  rw [← hmin]
  rcases s.asapSlot_cases q (.ofTime now) (s.policy.preDelay .classC) (s.airtime p) .classC with
    ⟨hchosen, hclear⟩ | ⟨before, e, after, hsplit, hchosen, hnext, -⟩
  · have hfirst : s.policy.asapTime (.ofTime now) = .ofTime (now + 80000) := by
      rw [Policy.asapTime, Counter.ofTime_after, hdefault]
      rfl
    rw [hchosen, hfirst] at haim
    refine ⟨_, haim, .inl rfl, fun hturn => ?_⟩
    apply Scheduler.enqueue_ahead_iff hentry hmode haim (by omega) hnow (by omega) (by omega)
    intro _
    rw [htime, ← hfirst]
    exact hclear
  · have he : e ∈ q.entries := by simp [hsplit]
    have hlong := (Scheduler.sized_of_reachable hreachable e he).postDelay_le hdefault hairtime
    have hbehind := Scheduler.slotAfter_default hdefault start hlong
    have hbegun := e.time_eq start
    rw [hchosen, hbehind] at haim
    refine ⟨_, haim, .inr ⟨e, he, rfl⟩, fun hturn => ?_⟩
    rw [hmin] at hturn
    apply Scheduler.enqueue_ahead_iff hentry hmode haim (by omega) hnow (by omega) (by omega)
    intro hahead
    rcases Scheduler.dated_of_leads hleads (by omega) with hnone | ⟨sorted, heard, hheard, hdated⟩
    · rw [hnone] at he
      cases he
    · rw [htime, ← hbehind]
      exact hdated.free_slotAfter hdefault hairtime hreachable (by omega) hnow hsplit hnext
        (by omega) hturn

/-- A downlink that is wanted at once while two replies are queued. The slot of the first one has
passed, and the one behind it is not free. The downlink goes behind the second. -/
theorem immediate_accepted_behind :
    let s := Scheduler.ofConfig {} (.fixed 50000)
    let reply := fun target =>
      Packet.timestamped 1 [0x60] ⟨target⟩ 869525000 (.loraDownlink 9 .khz125)
    let wanted := Packet.immediate 2 [0x60] 869525000 (.loraDownlink 9 .khz125)
    let q := (s.perform (s.perform {} (.enqueue (.ofTime 0) (reply 100000) .classA)).queue
      (.enqueue (.ofTime 0) (reply 200000) .classA)).queue
    Leads s (s.Near 0) {} 0 q 0 ∧ s.HasRoom q .classC ∧
      s.aim q (.ofTime 130000) wanted .classC = ⟨332500⟩ ∧
      ∃ target, (s.enqueue q (.ofTime 130000) wanted .classC).result = .ok target ∧
        s.policy.minLead < target.since (.ofTime 130000) ∧
        (target.since (.ofTime 130000)).toNat < 2 ^ 31 := by
  intro s reply wanted q
  have hleads : Leads s (s.Near 0) {} 0 q 0 := by
    refine .step (.step .refl (Nat.le_refl 0) rfl ?_) (Nat.le_refl 0) rfl ?_
    · exact Scheduler.near_of_timestamped .classA rfl (by decide)
    · exact Scheduler.near_of_timestamped .classA rfl (by decide)
  have hairtime (p : Packet) : AirtimeModel.fixed 50000 p ≤ 1000000 := by
    change (50000 : Span) ≤ 1000000
    decide
  have hroom : s.HasRoom q .classC := ⟨by decide +kernel, .inr (.inl rfl)⟩
  have hfound : s.aim q (.ofTime 130000) wanted .classC = ⟨332500⟩ := by decide +kernel
  have hnear : ∀ e ∈ q.entries, e.time 0 + e.postDelay.toNat + 82500 < 2 ^ 32 := by
    decide +kernel
  have hlater : 0 ≤ 130000 := Nat.zero_le _
  obtain ⟨slot, haim, horigin, hiff⟩ :=
    immediate_accepted (p := wanted) rfl hairtime hleads hlater (by decide) (by decide) rfl hroom
  have hslot : slot = 332500 := by
    have hticks := congrArg (·.ticks.toNat) (haim.symm.trans hfound)
    simp only [Counter.toNat_ofTime] at hticks
    change _ = 332500 at hticks
    rcases horigin with hfirst | ⟨e, he, hbehind⟩
    · omega
    · have hlt := hnear e he
      omega
  subst hslot
  exact ⟨hleads, hroom, hfound, (hiff (by decide)).mpr (by decide)⟩

/-- A downlink that is wanted at once while two replies are queued, the first of which has passed and
leaves room behind it. As long as that slot is still to come but too near, the downlink is refused
as too late, although the slot behind the second reply is free and leaves time. Once it has passed,
the downlink is accepted for it, and dropped by the next peek. -/
theorem immediate_misplaced :
    let s := Scheduler.ofConfig {} (.fixed 50000)
    let reply := fun target =>
      Packet.timestamped 1 [0x60] ⟨target⟩ 869525000 (.loraDownlink 9 .khz125)
    let wanted := Packet.immediate 2 [0x60] 869525000 (.loraDownlink 9 .khz125)
    let q := (s.perform (s.perform {} (.enqueue (.ofTime 0) (reply 100000) .classA)).queue
      (.enqueue (.ofTime 0) (reply 350000) .classA)).queue
    let late := s.enqueue q (.ofTime 250000) wanted .classC
    Leads s (s.Near 0) {} 0 q 0 ∧ s.HasRoom q .classC ∧
      wanted.isWellFormed = true ∧ wanted.mode = .immediate ∧
      (∃ back, (s.enqueue q (.ofTime 200000) wanted .classC).result = .error ⟨.tooLate, back⟩ ∧
        back.target = .ofTime 232500) ∧
      .ofTime 482500 ∈ s.slots q (.ofTime 200000) ∧ s.Free q 50000 (.ofTime 482500) ∧
      late.result = .ok (.ofTime 232500) ∧
      2 ^ 31 ≤ ((Counter.ofTime 232500).since (.ofTime 250000)).toNat ∧
      (s.peek late.queue (.ofTime 250000)).queue.entries.map (·.target) = [.ofTime 350000] := by
  intro s reply wanted q late
  have hleads : Leads s (s.Near 0) {} 0 q 0 := by
    refine .step (.step .refl (Nat.le_refl 0) rfl ?_) (Nat.le_refl 0) rfl ?_
    · exact Scheduler.near_of_timestamped .classA rfl (by decide)
    · exact Scheduler.near_of_timestamped .classA rfl (by decide)
  refine ⟨hleads, ⟨by decide +kernel, .inr (.inl rfl)⟩, by decide, rfl, ?_, ?_, ?_, ?_, ?_, ?_⟩
  · exact ⟨{ wanted with target := .ofTime 232500, mode := .timestamped }, by decide +kernel, rfl⟩
  · decide +kernel
  · simp only [Scheduler.Free]
    decide +kernel
  · decide +kernel
  · decide
  · decide +kernel

end Downlink
