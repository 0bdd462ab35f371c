import Downlink.Proofs.Queue.ImmediateSlot
import Downlink.Proofs.Queue.Order
import Mathlib.Algebra.Order.BigOperators.Group.List
import Mathlib.Algebra.Order.Group.Nat

/-!
# Immediate downlinks back to back

Immediate downlinks that are handed in at one reading, to a queue that was empty, line up: the first
takes the slot that is twice the look-ahead away, and each of the others the slot right behind the
one before (`Scheduler.lineup`). The walk through the entries stops at the last of them, because
each slot on the way is the target of the entry that follows.

Nothing bounds the line but the room in the queue and the turn of the counter. Whatever the times on
air are, the slot behind a line that fits into a turn overlaps none of those in it
(`Scheduler.clear_lineup`), and sorted from behind now the line stays as it is
(`Scheduler.sort_lineup`).
-/

namespace Downlink

namespace Scheduler

variable {s : Scheduler} {q : Queue} {now slot : Counter} {p : Packet} {ps : List Packet}

/-! ## The line -/

/-- The entry that a class C downlink becomes in a slot. -/
def slotted (s : Scheduler) (slot : Counter) (p : Packet) : Entry :=
  { packet := { p with target := slot, mode := .timestamped }
    preDelay := s.policy.preDelay .classC
    postDelay := s.airtime p
    trafficClass := .classC }

/-- The slot right behind a class C downlink in a slot, for one more. -/
def following (s : Scheduler) (slot : Counter) (p : Packet) : Counter :=
  s.policy.slotAfter (s.slotted slot p).window (s.policy.preDelay .classC)

/-- Class C downlinks one right behind the other, the first in the slot. -/
def lineup (s : Scheduler) (slot : Counter) : List Packet → List Entry
  | [] => []
  | p :: ps => s.slotted slot p :: lineup s (s.following slot p) ps

/-- The slot behind all of them. -/
def lineEnd (s : Scheduler) (slot : Counter) (ps : List Packet) : Counter :=
  ps.foldl s.following slot

/-- How much later than a class C downlink the one right behind it is sent. -/
def stride (s : Scheduler) (p : Packet) : Nat :=
  (s.airtime p).toNat + (s.policy.preDelay .classC).toNat + s.policy.jitDelay.toNat +
    s.policy.margin.toNat

@[simp] theorem slotted_target : (s.slotted slot p).target = slot := rfl

@[simp] theorem length_lineup (s : Scheduler) (slot : Counter) (ps : List Packet) :
    (s.lineup slot ps).length = ps.length := by
  induction ps generalizing slot with
  | nil => rfl
  | cons p ps ih => simp [lineup, ih]

/-- One more joins at the end. -/
theorem lineup_concat (s : Scheduler) (slot : Counter) (ps : List Packet) (p : Packet) :
    s.lineup slot (ps ++ [p]) = s.lineup slot ps ++ [s.slotted (s.lineEnd slot ps) p] := by
  induction ps generalizing slot with
  | nil => rfl
  | cons x ps ih =>
    rw [List.cons_append, lineup, lineup, ih, List.cons_append]
    rfl

theorem toNat_following (h : (slot.since now).toNat + s.stride p < 2 ^ 32) :
    ((s.following slot p).since now).toNat = (slot.since now).toNat + s.stride p := by
  have hlead : (slot.since now).toNat + (s.airtime p).toNat + (s.policy.preDelay .classC).toNat +
      s.policy.jitDelay.toNat + s.policy.margin.toNat < 2 ^ 32 := by
    rw [stride] at h
    omega
  have hslot : ((s.following slot p).since now).toNat = (slot.since now).toNat +
      (s.airtime p).toNat + (s.policy.preDelay .classC).toNat + s.policy.jitDelay.toNat +
        s.policy.margin.toNat := lead_slotAfter hlead
  rw [hslot, stride]
  omega

/-- The strides add up, as long as they stay within a turn. -/
theorem toNat_lineEnd (h : (slot.since now).toNat + (ps.map s.stride).sum < 2 ^ 32) :
    ((s.lineEnd slot ps).since now).toNat = (slot.since now).toNat + (ps.map s.stride).sum := by
  induction ps generalizing slot with
  | nil => rfl
  | cons p ps ih =>
    rw [List.map_cons, List.sum_cons] at h
    have hnext : ((s.following slot p).since now).toNat = _ := toNat_following (by omega)
    rw [List.map_cons, List.sum_cons, lineEnd, List.foldl_cons]
    change ((s.lineEnd (s.following slot p) ps).since now).toNat = _
    rw [ih (by omega), hnext]
    omega

/-- Each is one of the downlinks in some slot. -/
theorem mem_lineup {e : Entry} (he : e ∈ s.lineup slot ps) : ∃ t, ∃ p ∈ ps, e = s.slotted t p := by
  induction ps generalizing slot with
  | nil => cases he
  | cons p ps ih =>
    rcases List.mem_cons.mp he with rfl | he
    · exact ⟨slot, p, List.mem_cons_self, rfl⟩
    · obtain ⟨t, x, hx, rfl⟩ := ih he
      exact ⟨t, x, List.mem_cons_of_mem p hx, rfl⟩

/-- Each comes no sooner than the first slot, and leaves time for one more before the slot behind
all. -/
theorem lead_of_mem_lineup (now : Counter)
    (h : (slot.since now).toNat + (ps.map s.stride).sum < 2 ^ 32)
    {e : Entry} (he : e ∈ s.lineup slot ps) :
    (slot.since now).toNat ≤ (e.lead now).toNat ∧
      (e.lead now).toNat + e.postDelay.toNat + (s.policy.preDelay .classC).toNat +
          s.policy.jitDelay.toNat + s.policy.margin.toNat ≤
        (slot.since now).toNat + (ps.map s.stride).sum := by
  induction ps generalizing slot with
  | nil => cases he
  | cons p ps ih =>
    rw [List.map_cons, List.sum_cons] at h ⊢
    have hnext : ((s.following slot p).since now).toNat = _ := toNat_following (by omega)
    rcases List.mem_cons.mp he with rfl | he
    · refine ⟨Nat.le_refl _, ?_⟩
      rw [stride, Entry.lead, slotted_target]
      change (slot.since now).toNat + (s.airtime p).toNat + _ + _ + _ ≤ _
      omega
    · obtain ⟨hlow, hhigh⟩ := ih (by omega) he
      exact ⟨by omega, by omega⟩

/-- A look-ahead lies between any two. -/
theorem ascending_lineup (hjit : 0 < s.policy.jitDelay.toNat)
    (h : (slot.since now).toNat + (ps.map s.stride).sum < 2 ^ 32) :
    (s.lineup slot ps).Pairwise fun a b => a.lead now < b.lead now := by
  induction ps generalizing slot with
  | nil => exact .nil
  | cons p ps ih =>
    rw [List.map_cons, List.sum_cons] at h
    have hnext : ((s.following slot p).since now).toNat = _ := toNat_following (by omega)
    have hstride : s.policy.jitDelay.toNat ≤ s.stride p := by
      rw [stride]
      omega
    refine List.pairwise_cons.mpr ⟨?_, ih (by omega)⟩
    intro e he
    obtain ⟨hlow, -⟩ := lead_of_mem_lineup now (by omega) he
    rw [UInt32.lt_iff_toNat_lt, Entry.lead, slotted_target]
    omega

/-- An admitted class C downlink takes its slot in a line. -/
theorem Admitted.eq_slotted {e : Entry} (h : s.Admitted q now p .classC e) :
    e = s.slotted e.target p := by
  have hpacket := h.packet_eq
  have hpost := h.postDelay
  rw [timeOnAir_of_entryRefusal? h.entry] at hpost
  rw [slotted, ← hpacket, ← h.preDelay]
  change e.postDelay = s.airtime p at hpost
  rw [← hpost, ← h.trafficClass]

/-! ## The walk along the line -/

/-- Where an entry is sent, another cannot be. -/
theorem overlaps_of_target_eq {e : Entry} {w : Window} {c : TrafficClass} (h : w.time = e.target) :
    s.overlaps e w c = true := by
  apply Policy.collides_of_time_eq
  rw [Policy.effective_time]
  exact h

/-- The walk goes on to the slot behind all. The induction is on the downlinks in the line. -/
theorem slotBehind_lineup (s : Scheduler) (post : Span) (start slot : Counter) (p : Packet)
    (ps : List Packet) :
    s.slotBehind (s.policy.preDelay .classC) post .classC start (s.lineup slot (p :: ps)) =
      s.lineEnd slot (p :: ps) := by
  induction ps generalizing start slot p with
  | nil => rfl
  | cons x ps ih =>
    have hoverlaps : s.overlaps (s.slotted (s.following slot p) x)
        ⟨s.following slot p, s.policy.preDelay .classC, post⟩ .classC = true :=
      overlaps_of_target_eq rfl
    rw [lineup, lineup, slotBehind_cons_cons]
    change (if s.overlaps _ ⟨s.following slot p, _, post⟩ _ = true then _ else _) = _
    rw [hoverlaps, if_pos rfl]
    exact ih _ (s.following slot p) x

/-- Among entries that line up from the time that is twice the look-ahead away, the search finds the
slot behind all. -/
theorem asapSlot_lineup {post : Span} (hq : q.entries = s.lineup (s.policy.asapTime now) ps) :
    s.asapSlot q now (s.policy.preDelay .classC) post .classC =
      s.lineEnd (s.policy.asapTime now) ps := by
  cases ps with
  | nil => simp [asapSlot, hq, lineup, lineEnd]
  | cons p ps =>
    have hblocked : (q.entries.all fun e => !s.overlaps e ⟨s.policy.asapTime now,
        s.policy.preDelay .classC, post⟩ .classC) = false := by
      rw [hq, lineup, List.all_cons, overlaps_of_target_eq rfl, Bool.not_true, Bool.false_and]
    rw [asapSlot, hblocked, if_neg Bool.false_ne_true, hq]
    exact s.slotBehind_lineup _ _ _ p ps

/-! ## The slot behind the line -/

/-- One more in the slot behind the line overlaps none of those in it. -/
theorem clear_lineup (now : Counter) (hjit : 0 < s.policy.jitDelay.toNat)
    (h : 2 * s.policy.jitDelay.toNat + ((ps ++ [p]).map s.stride).sum < 2 ^ 32) :
    ∀ e ∈ s.lineup (s.policy.asapTime now) ps, s.overlaps e
      ⟨s.lineEnd (s.policy.asapTime now) ps, s.policy.preDelay .classC, s.airtime p⟩ .classC =
        false := by
  intro e he
  rw [List.map_append, List.map_singleton, List.sum_append, List.sum_singleton, stride] at h
  have hasap : ((s.policy.asapTime now).since now).toNat = _ := lead_asapTime now (by omega)
  have hend : ((s.lineEnd (s.policy.asapTime now) ps).since now).toNat = _ :=
    toNat_lineEnd (by omega)
  obtain ⟨hlow, hhigh⟩ := lead_of_mem_lineup now (by omega) he
  have hsized : s.Sized e := by
    obtain ⟨t, x, -, rfl⟩ := mem_lineup he
    exact ⟨rfl, x, rfl⟩
  have hreach := UInt32.le_iff_toNat_le.mp hsized.reach_classC_le_preDelay
  apply overlaps_of_behind now <;> simp only [hend] <;> omega

/-- Seen from behind now, what lies ahead comes after a look back. -/
theorem toNat_distance_of_lead {lookback : Span} {t : Counter}
    (h : (t.since now).toNat + lookback.toNat < 2 ^ 32) :
    ((Vantage.lookingBack now lookback).distance t).toNat =
      (t.since now).toNat + lookback.toNat := by
  have hnow := UInt32.toNat_lt now.ticks
  have ht := UInt32.toNat_lt t.ticks
  have hback := Span.toNat_lt lookback
  rw [Vantage.distance, Vantage.lookingBack, Counter.toNat_since, Counter.toNat_before]
  rw [Counter.toNat_since] at h ⊢
  omega

/-- Sorting leaves the line as it is. -/
theorem sort_lineup (now : Counter) (hjit : 0 < s.policy.jitDelay.toNat)
    (h : s.policy.maxAdvance.toNat + 2 * s.policy.jitDelay.toNat + (ps.map s.stride).sum <
      2 ^ 32) :
    Vantage.sort (.lookingBack now s.policy.maxAdvance) Entry.target
      (s.lineup (s.policy.asapTime now) ps) = s.lineup (s.policy.asapTime now) ps := by
  have hasap : ((s.policy.asapTime now).since now).toNat = _ := lead_asapTime now (by omega)
  have hdistance : ∀ e ∈ s.lineup (s.policy.asapTime now) ps,
      ((Vantage.lookingBack now s.policy.maxAdvance).distance e.target).toNat =
        (e.lead now).toNat + s.policy.maxAdvance.toNat := by
    intro e he
    obtain ⟨-, hhigh⟩ := lead_of_mem_lineup now (by omega) he
    apply toNat_distance_of_lead
    change (e.lead now).toNat + _ < _
    omega
  have hascending : (s.lineup (s.policy.asapTime now) ps).Pairwise fun a b =>
      a.lead now < b.lead now := ascending_lineup hjit (by omega)
  apply Vantage.sort_of_pairwise
  refine List.Pairwise.imp_of_mem ?_ hascending
  intro a b ha hb hab
  rw [UInt32.lt_iff_toNat_lt] at hab
  rw [UInt32.le_iff_toNat_le, hdistance a ha, hdistance b hb]
  omega

/-- One more downlink takes the slot behind the line, and joins it. -/
theorem enqueue_lineup
    (hlookahead : s.policy.startDelay.toNat + s.policy.margin.toNat < s.policy.jitDelay.toNat)
    (hq : q.entries = s.lineup (s.policy.asapTime now) ps)
    (hroom : (ps ++ [p]).length ≤ s.capacity - s.reservedBeaconSlots)
    (hturn : s.policy.maxAdvance.toNat + 2 * s.policy.jitDelay.toNat +
      ((ps ++ [p]).map s.stride).sum < 2 ^ 32)
    (hformed : p.isWellFormed = true) (hmode : p.mode = .immediate) :
    (s.enqueue q now p .classC).result = .ok (s.lineEnd (s.policy.asapTime now) ps) ∧
      (s.enqueue q now p .classC).queue.entries =
        s.lineup (s.policy.asapTime now) (ps ++ [p]) := by
  have hspace : q.entries.length < s.capacity - s.reservedBeaconSlots := by
    rw [hq, length_lineup]
    rwa [List.length_append] at hroom
  have hentry : s.entryRefusal? { q with reference := now } p .classC = none :=
    entryRefusal?_of_room hspace hformed fun _ => rfl
  have hsum : ((ps ++ [p]).map s.stride).sum = (ps.map s.stride).sum + s.stride p := by simp
  have hasap : ((s.policy.asapTime now).since now).toNat = _ := lead_asapTime now (by omega)
  have hend : ((s.lineEnd (s.policy.asapTime now) ps).since now).toNat = _ :=
    toNat_lineEnd (by omega)
  have hlead : s.policy.minLead < (s.lineEnd (s.policy.asapTime now) ps).since now := by
    rw [UInt32.lt_iff_toNat_lt, hend, s.policy.toNat_minLead]
    omega
  have hclear : ∀ e ∈ q.entries, s.overlaps e ⟨s.lineEnd (s.policy.asapTime now) ps,
      s.policy.preDelay .classC, s.timeOnAir p⟩ .classC = false := by
    rw [hq, timeOnAir_of_entryRefusal? hentry]
    exact clear_lineup now (by omega) (by omega)
  have hok := enqueue_of_slot hentry hmode rfl (asapSlot_lineup hq) hlead hclear
  refine ⟨hok, ?_⟩
  obtain ⟨e, he, htarget, hentries, -⟩ := enqueue_eq_ok hok
  have hline : q.entries ++ [e] = s.lineup (s.policy.asapTime now) (ps ++ [p]) := by
    rw [lineup_concat, hq, he.eq_slotted, htarget]
  rw [hentries]
  change Vantage.sort (.lookingBack now s.policy.maxAdvance) Entry.target (q.entries ++ [e]) = _
  rw [hline]
  exact sort_lineup now (by omega) hturn

/-! ## Handing them in -/

/-- Class C downlinks handed in one after the other at one reading: the answers, and the queue as it
is then. -/
def submit (s : Scheduler) (now : Counter) (q : Queue) :
    List Packet → List (Except Rejection Counter) × Queue
  | [] => ([], q)
  | p :: ps =>
    let step := s.enqueue q now p .classC
    let rest := submit s now step.queue ps
    (step.result :: rest.1, rest.2)

/-- Behind a line of those before, they take one slot after the other. The induction is on those that
are still to come, each of which joins the line. -/
theorem submit_lineup (done : List Packet)
    (hlookahead : s.policy.startDelay.toNat + s.policy.margin.toNat < s.policy.jitDelay.toNat)
    (hq : q.entries = s.lineup (s.policy.asapTime now) done)
    (hps : ∀ p ∈ ps, p.isWellFormed = true ∧ p.mode = .immediate)
    (hroom : (done ++ ps).length ≤ s.capacity - s.reservedBeaconSlots)
    (hturn : s.policy.maxAdvance.toNat + 2 * s.policy.jitDelay.toNat +
      ((done ++ ps).map s.stride).sum < 2 ^ 32) :
    (s.submit now q ps).1 =
        (s.lineup (s.lineEnd (s.policy.asapTime now) done) ps).map (fun e => .ok e.target) ∧
      (s.submit now q ps).2.entries = s.lineup (s.policy.asapTime now) (done ++ ps) := by
  induction ps generalizing q done with
  | nil =>
    rw [List.append_nil]
    exact ⟨rfl, hq⟩
  | cons p ps ih =>
    have hsplit : done ++ p :: ps = (done ++ [p]) ++ ps := by simp
    rw [hsplit] at hroom hturn ⊢
    obtain ⟨hformed, hmode⟩ := hps p List.mem_cons_self
    have hlength : ((done ++ [p]) ++ ps).length = (done ++ [p]).length + ps.length :=
      List.length_append
    have hsum : (((done ++ [p]) ++ ps).map s.stride).sum =
        ((done ++ [p]).map s.stride).sum + (ps.map s.stride).sum := by
      rw [List.map_append, List.sum_append]
    obtain ⟨hok, hline⟩ :=
      enqueue_lineup hlookahead hq (by omega) (by omega) hformed hmode
    obtain ⟨hanswers, hentries⟩ :=
      ih (done ++ [p]) hline (fun x hx => hps x (List.mem_cons_of_mem p hx)) hroom hturn
    have hend : s.lineEnd (s.policy.asapTime now) (done ++ [p]) =
        s.following (s.lineEnd (s.policy.asapTime now) done) p := by
      rw [lineEnd, List.foldl_append]
      rfl
    refine ⟨?_, hentries⟩
    rw [submit, hok, hanswers, hend]
    rfl

/-! ## In submission order -/

/-- How much later the next one is sent, part by part. -/
theorem stride_eq
    (hlookahead : s.policy.startDelay.toNat + s.policy.margin.toNat < s.policy.jitDelay.toNat)
    (hjit : 2 * s.policy.jitDelay.toNat < 2 ^ 32) (p : Packet) :
    s.stride p = (s.airtime p).toNat + s.policy.startDelay.toNat + 2 * s.policy.jitDelay.toNat +
      s.policy.margin.toNat := by
  rw [stride, Policy.preDelay, Span.toNat_plus]
  omega

theorem asapTime_eq_ofTime (now : Counter) (h : 2 * s.policy.jitDelay.toNat < 2 ^ 32) :
    s.policy.asapTime now = .ofTime (now.ticks.toNat + 2 * s.policy.jitDelay.toNat) := by
  have htwo : (2 : Span).toNat = 2 := rfl
  apply Counter.ext_ticks
  rw [Policy.asapTime, Counter.toNat_after, Counter.toNat_ofTime, Span.toNat_times, htwo]
  omega

theorem following_eq_ofTime (slot : Counter) (h : s.stride p < 2 ^ 32) :
    s.following slot p = .ofTime (slot.ticks.toNat + s.stride p) := by
  rw [stride] at h
  apply Counter.ext_ticks
  rw [following, Policy.slotAfter, Counter.toNat_after, Counter.toNat_ofTime, stride]
  change (slot.ticks.toNat + ((((s.airtime p).plus _).plus _).plus _).toNat) % _ = _
  simp only [Span.toNat_plus]
  omega

/-- A line is its downlinks in its slots, in order. -/
theorem lineup_eq_zipWith (s : Scheduler) (slot : Counter) (ps : List Packet) :
    s.lineup slot ps = List.zipWith s.slotted ((s.lineup slot ps).map (·.target)) ps := by
  induction ps generalizing slot with
  | nil => rfl
  | cons p ps ih =>
    rw [lineup, List.map_cons, List.zipWith_cons_cons, ← ih]
    rfl

/-- Each slot but the first is the one right behind the downlink before. -/
theorem target_lineup_succ (s : Scheduler) (slot : Counter) {i : Nat} (hi : i + 1 < ps.length)
    (hline : i + 1 < (s.lineup slot ps).length) :
    (s.lineup slot ps)[i + 1].target = s.following (s.lineup slot ps)[i].target ps[i] := by
  induction ps generalizing slot i with
  | nil => exact absurd hi (Nat.not_lt_zero _)
  | cons p ps ih =>
    cases i with
    | zero =>
      cases ps with
      | nil => exact absurd hi (Nat.lt_irrefl _)
      | cons x ps => rfl
    | succ i => exact ih _ (Nat.lt_of_succ_lt_succ hi) (Nat.lt_of_succ_lt_succ hline)

end Scheduler

/-- **Immediate downlinks queue back to back.** Take an empty queue and a look-ahead that is longer
than the start of a frame and the margin, and hand in well-formed immediate downlinks of class C at
one reading, no more of them than data has room for. If what they take all together, and the look
back that the entries are sorted with, stays within a turn of the counter, then all of them are
accepted whatever their times on air: the first for the time that is twice the look-ahead away, and
each of the others as much later than the one before as that one's time on air, the start of a
frame, twice the look-ahead and the margin. They are queued in the order in which they were handed
in. -/
theorem immediate_backToBack (config : QueueConfig) (airtime : AirtimeModel) {q : Queue}
    (hempty : q.entries = []) (now : Counter) {ps : List Packet}
    (hlookahead : config.startDelay.toNat + config.margin.toNat < config.jitDelay.toNat)
    (hps : ∀ p ∈ ps, p.isWellFormed = true ∧ p.mode = .immediate)
    (hroom : ps.length ≤ config.capacity.toNat - config.reservedBeaconSlots.toNat)
    (hturn : config.maxAdvance.toNat + 2 * config.jitDelay.toNat +
      (ps.map fun p => (airtime p).toNat + config.startDelay.toNat + 2 * config.jitDelay.toNat +
        config.margin.toNat).sum < 2 ^ 32) :
    let s := Scheduler.ofConfig config airtime
    let submitted := s.submit now q ps
    ∃ (targets : List Counter) (_ : targets.length = ps.length),
      submitted.1 = targets.map .ok ∧
      (∀ _ : 0 < ps.length,
        targets[0] = .ofTime (now.ticks.toNat + 2 * config.jitDelay.toNat)) ∧
      (∀ (i : Nat) (_ : i + 1 < ps.length),
        targets[i + 1] = .ofTime (targets[i].ticks.toNat + ((airtime ps[i]).toNat +
          config.startDelay.toNat + 2 * config.jitDelay.toNat + config.margin.toNat))) ∧
      submitted.2.entries = List.zipWith s.slotted targets ps := by
  intro s submitted
  have hjit : 2 * s.policy.jitDelay.toNat < 2 ^ 32 := by
    change 2 * config.jitDelay.toNat < _
    omega
  have hstride : ∀ p, s.stride p = (airtime p).toNat + config.startDelay.toNat +
      2 * config.jitDelay.toNat + config.margin.toNat := Scheduler.stride_eq hlookahead hjit
  rw [List.map_congr_left fun p _ => (hstride p).symm] at hturn
  have hasap := Scheduler.asapTime_eq_ofTime now hjit
  obtain ⟨hanswers, hentries⟩ : _ ∧ submitted.2.entries = s.lineup (s.policy.asapTime now) ps :=
    Scheduler.submit_lineup [] hlookahead hempty hps hroom hturn
  have hlength : (s.lineup (s.policy.asapTime now) ps).length = ps.length := s.length_lineup _ ps
  refine ⟨(s.lineup (s.policy.asapTime now) ps).map (·.target), ?_, ?_, ?_, ?_, ?_⟩
  · rw [List.length_map, hlength]
  · rw [hanswers, List.map_map]
    rfl
  · intro hpos
    obtain ⟨p, rest, rfl⟩ := List.exists_cons_of_length_pos hpos
    exact hasap
  · intro i hi
    have hpart : s.stride ps[i] ≤ (ps.map s.stride).sum :=
      List.le_sum_of_mem (List.mem_map_of_mem (List.getElem_mem _))
    rw [← hstride, List.getElem_map, List.getElem_map, s.target_lineup_succ _ hi (by omega)]
    exact Scheduler.following_eq_ofTime _ (by omega)
  · rw [hentries]
    exact s.lineup_eq_zipWith _ ps

/-- Three frames of one, two and three bytes that take ten milliseconds for each byte. The counter
passes zero behind the first. -/
theorem immediate_backToBack_zero :
    let airtime : AirtimeModel := fun p => 10000 * .ofNat p.size
    let s := Scheduler.ofConfig {} airtime
    let wanted := fun payload => Packet.immediate 1 payload 869525000 (.loraDownlink 9 .khz125)
    let ps := [wanted [1], wanted [1, 2], wanted [1, 2, 3]]
    let targets : List Counter := [⟨4294960000⟩, ⟨85204⟩, ⟨187704⟩]
    (s.submit ⟨4294880000⟩ {} ps).1 = targets.map .ok ∧
      (s.submit ⟨4294880000⟩ {} ps).2.entries = List.zipWith s.slotted targets ps := by
  intro airtime s wanted ps targets
  have hps : ∀ p ∈ ps, p.isWellFormed = true ∧ p.mode = .immediate := by decide
  obtain ⟨slots, hlength, hanswers, hfirst, hnext, hentries⟩ :=
    immediate_backToBack {} airtime (q := {}) rfl ⟨4294880000⟩ (by decide) hps (by decide)
      (by decide +kernel)
  have hsame : (s.submit ⟨4294880000⟩ {} ps).1 = targets.map .ok := by decide +kernel
  have hslots : slots = targets :=
    List.map_injective_iff.mpr (fun _ _ => Except.ok.inj) (hanswers.symm.trans hsame)
  rw [hslots] at hentries
  refine ⟨hsame, ?_⟩
  -- otherwise both queues would be computed to be compared
  with_reducible exact hentries

end Downlink
