import Downlink.Proofs.Clock.Distance
import Downlink.Queue.Basic

/-!
# The order of a queue is the order in time

A queue sorts readings, not times. It takes them by how far past its vantage point they lie, one
maximum advance behind the reference, so it has them in the order of time as long as none comes
more than a turn of the counter after that point. Targets reach from one maximum advance behind the
reference to one ahead of it. A configuration that was checked therefore leaves room for its maximum
advance twice, and it leaves that room for the advance itself, since a product that was cut off
would not fit (`QueueConfig.toNat_maxAdvance`).

What is compared with is the merge sort of the library, which keeps the items of one time in the
order they had. The queue inserts its items one by one and gives the same list, whatever the times
are (`Vantage.sort_eq_mergeSort`).
-/

namespace Downlink

/-! ## Sorting by insertion -/

namespace Vantage

variable {α : Type} {v : Vantage} {time : α → Counter} {x : α}

/-- An item goes past all that lie before it. -/
theorem insert_append {before rest : List α}
    (h : ∀ y ∈ before, v.distance (time y) < v.distance (time x)) :
    v.insert time x (before ++ rest) = before ++ v.insert time x rest := by
  induction before with
  | nil => rfl
  | cons y ys ih =>
    obtain ⟨hy, hys⟩ := List.forall_mem_cons.mp h
    rw [List.cons_append, insert, if_neg (UInt32.not_le.mpr hy), ih hys, List.cons_append]

/-- It stays in front of all that do not. -/
theorem insert_eq_cons {rest : List α}
    (h : ∀ y ∈ rest, v.distance (time x) ≤ v.distance (time y)) :
    v.insert time x rest = x :: rest := by
  cases rest with
  | nil => rfl
  | cons y ys => exact if_pos (h y List.mem_cons_self)

/-- Seen from a vantage point, items are sorted stably by their distance. -/
theorem sort_eq_mergeSort (v : Vantage) (time : α → Counter) (xs : List α) :
    v.sort time xs = xs.mergeSort fun a b => v.distance (time a) ≤ v.distance (time b) := by
  have htrans : ∀ a b c : α, decide (v.distance (time a) ≤ v.distance (time b)) = true →
      decide (v.distance (time b) ≤ v.distance (time c)) = true →
      decide (v.distance (time a) ≤ v.distance (time c)) = true := by
    simp only [decide_eq_true_iff]
    intro a b c
    exact UInt32.le_trans
  have htotal : ∀ a b : α, (decide (v.distance (time a) ≤ v.distance (time b)) ||
      decide (v.distance (time b) ≤ v.distance (time a))) = true := by
    simp only [Bool.or_eq_true, decide_eq_true_iff]
    intro a b
    exact UInt32.le_total _ _
  induction xs with
  | nil => exact (List.mergeSort_nil ..).symm
  | cons x xs ih =>
    -- the merge sort puts `x` behind all that lie before it as well
    obtain ⟨before, rest, hcons, hsorted, hbefore⟩ := List.mergeSort_cons htrans htotal x xs
    have hpairwise := List.pairwise_mergeSort htrans htotal (x :: xs)
    rw [hcons] at hpairwise ⊢
    have hpast : ∀ y ∈ before, v.distance (time y) < v.distance (time x) := by
      intro y hy
      have hnot := hbefore y hy
      rw [Bool.not_eq_true', decide_eq_false_iff_not] at hnot
      exact UInt32.not_le.mp hnot
    have hfront : ∀ y ∈ rest, v.distance (time x) ≤ v.distance (time y) := by
      intro y hy
      have hmiddle := (List.pairwise_append.mp hpairwise).2.1
      exact of_decide_eq_true ((List.pairwise_cons.mp hmiddle).1 y hy)
    change v.insert time x (v.sort time xs) = _
    rw [ih, hsorted, insert_append hpast, insert_eq_cons hfront]

/-- How far past the vantage point a reading lies. A time that comes before the point seems to come
nearly a turn after it. -/
theorem toNat_distance_ofTime {n t : Nat} {lookback : Span} (h : n ≤ t + lookback.toNat + 2 ^ 32) :
    ((lookingBack (.ofTime n) lookback).distance (.ofTime t)).toNat =
      (t + lookback.toNat + 2 ^ 32 - n) % 2 ^ 32 := by
  have hlookback := Span.toNat_lt lookback
  rw [distance, lookingBack, Counter.toNat_since, Counter.toNat_before, Counter.toNat_ofTime,
    Counter.toNat_ofTime]
  omega

end Vantage

/-! ## The maximum advance -/

namespace QueueConfig

variable {config : QueueConfig}

/-- The sum and then the product may be cut off. The sum is only if it comes to a full turn, and then
the product is as well, or is nothing. -/
theorem maxAdvance_eq_times (config : QueueConfig) :
    config.maxAdvance = (Span.plus config.beaconsInQueue 1).times config.beaconPeriod := by
  have hbeacons := UInt32.toNat_lt config.beaconsInQueue
  apply UInt32.toNat_inj.mp
  rw [maxAdvance, Span.toNat_clamp, Span.toNat_times, Span.toNat_plus, UInt32.toNat_one]
  rcases Nat.lt_or_ge (config.beaconsInQueue.toNat + 1) (2 ^ 32) with hsum | hsum
  · rw [Nat.min_eq_left (Nat.le_sub_one_of_lt hsum)]
  · have hmost : config.beaconsInQueue.toNat + 1 = 2 ^ 32 := by omega
    rw [hmost, Nat.min_eq_right (Nat.sub_le ..)]
    omega

/-- The doubled advance of a configuration that was checked fits into the counter. -/
theorem twice_maxAdvance_lt (h : config.validate = .ok ()) :
    2 * config.maxAdvance.toNat < 2 ^ 32 := (validate_eq_ok_iff.mp h).2.2.1

/-- So the advance was not cut off. -/
theorem toNat_maxAdvance (h : config.validate = .ok ()) :
    config.maxAdvance.toNat = (config.beaconsInQueue.toNat + 1) * config.beaconPeriod.toNat := by
  have htwice := twice_maxAdvance_lt h
  rw [maxAdvance, Span.toNat_clamp] at htwice ⊢
  omega

/-- Nor was the sum in it, unless there is no period to take it times. -/
theorem toNat_beacons_plus_one (h : config.validate = .ok ()) (hperiod : config.beaconPeriod ≠ 0) :
    (Span.plus config.beaconsInQueue 1).toNat = config.beaconsInQueue.toNat + 1 := by
  have htwice := twice_maxAdvance_lt h
  have hone : 1 ≤ config.beaconPeriod.toNat := by
    rw [Nat.one_le_iff_ne_zero]
    intro hzero
    exact hperiod (UInt32.toNat_inj.mp hzero)
  have hle := Nat.le_mul_of_pos_right (config.beaconsInQueue.toNat + 1) hone
  rw [← toNat_maxAdvance h] at hle
  rw [Span.toNat_plus, UInt32.toNat_one]
  omega

end QueueConfig

/-! ## Chronological order -/

/-- Entries whose targets lie no further from the reference than one maximum advance are sorted by
the times of their targets, if the advance fits twice into the counter. -/
theorem Scheduler.entries_sorted_ofTime {s : Scheduler} {q : Queue} {n : Nat}
    {timed : List (Entry × Nat)} (hroom : 2 * s.policy.maxAdvance.toNat ≤ 2 ^ 32)
    (hreference : q.reference = .ofTime n) (hentries : q.entries = timed.map Prod.fst)
    (htarget : ∀ x ∈ timed, x.1.target = .ofTime x.2)
    (hnear : ∀ x ∈ timed, n ≤ x.2 + s.policy.maxAdvance.toNat ∧
      x.2 < n + s.policy.maxAdvance.toNat) :
    (s.sorted q).entries = (timed.mergeSort fun a b => a.2 ≤ b.2).map Prod.fst := by
  have hdistance : ∀ x ∈ timed, ((s.vantage q).distance x.1.target).toNat =
      x.2 + s.policy.maxAdvance.toNat - n := by
    intro x hx
    obtain ⟨hlow, hhigh⟩ := hnear x hx
    rw [vantage, hreference, htarget x hx, Vantage.toNat_distance_ofTime (by omega)]
    omega
  change (s.vantage q).sort Entry.target q.entries = _
  rw [Vantage.sort_eq_mergeSort, hentries]
  symm
  apply List.map_mergeSort
  intro a ha b hb
  obtain ⟨hlow, -⟩ := hnear a ha
  obtain ⟨hlow', -⟩ := hnear b hb
  rw [decide_eq_decide, UInt32.le_iff_toNat_le, hdistance a ha, hdistance b hb]
  omega

/-- **The order of a queue is chronological.** The maximum advance of a configuration that was
checked is the exact product of its period and one more than its beacons, and fits twice into the
counter. Neither step of computing it cuts anything off, but for the sum if the period is zero,
which makes no difference. If the reference of a queue is the reading at a time, and the targets of
its entries are those at times from one maximum advance before it up to, and not including, one
after it, then sorting the queue is sorting the entries stably by those times. -/
theorem sorted_chronological {config : QueueConfig} (hvalid : config.validate = .ok ())
    (airtime : AirtimeModel) :
    let s := Scheduler.ofConfig config airtime
    let advance := config.maxAdvance.toNat
    config.maxAdvance = (Span.plus config.beaconsInQueue 1).times config.beaconPeriod ∧
    (config.beaconPeriod ≠ 0 →
      (Span.plus config.beaconsInQueue 1).toNat = config.beaconsInQueue.toNat + 1) ∧
    advance = (config.beaconsInQueue.toNat + 1) * config.beaconPeriod.toNat ∧
    2 * advance < 2 ^ 32 ∧
    ∀ {q : Queue} {n : Nat} {timed : List (Entry × Nat)},
      q.reference = .ofTime n → q.entries = timed.map Prod.fst →
      (∀ x ∈ timed, x.1.target = .ofTime x.2) →
      (∀ x ∈ timed, n ≤ x.2 + advance ∧ x.2 < n + advance) →
      (s.sorted q).entries = (timed.mergeSort fun a b => a.2 ≤ b.2).map Prod.fst := by
  intro s advance
  have hroom : 2 * advance < 2 ^ 32 := QueueConfig.twice_maxAdvance_lt hvalid
  refine ⟨config.maxAdvance_eq_times, QueueConfig.toNat_beacons_plus_one hvalid,
    QueueConfig.toNat_maxAdvance hvalid, hroom, ?_⟩
  intro q n timed hreference hentries htarget hnear
  exact Scheduler.entries_sorted_ofTime (Nat.le_of_lt hroom) hreference hentries htarget hnear

/-- Five entries at a reference that the counter reads just after it passed zero: two lie behind it,
one of them at the very edge and both before the zero, and two have the same target and keep the
order they came in. -/
theorem sorted_chronological_zero :
    let s := Scheduler.ofConfig {} (.fixed 50000)
    let n := 2 ^ 32 + 1000
    let entry := fun (id : UInt64) (time : Nat) => (⟨.timestamped id [0x60] (.ofTime time) 869525000
      (.loraDownlink 9 .khz125), 41500, 50000, .classA⟩ : Entry)
    let timed := [(1, n + 511999999), (2, n + 400), (3, n - 2000), (4, n + 400),
      (5, n - 512000000)].map fun (id, time) => (entry id time, time)
    let q : Queue := { entries := timed.map Prod.fst, reference := .ofTime n }
    QueueConfig.validate {} = .ok () ∧
    (s.sorted q).entries = (timed.mergeSort fun a b => a.2 ≤ b.2).map Prod.fst ∧
    (s.sorted q).entries.map (·.packet.id) = [5, 3, 2, 4, 1] := by
  intro s n entry timed q
  have hvalid : QueueConfig.validate {} = .ok () := by decide
  obtain ⟨-, -, -, -, hsorted⟩ := sorted_chronological hvalid (.fixed 50000)
  refine ⟨hvalid, hsorted rfl rfl ?_ ?_, ?_⟩
  · decide
  · decide
  · decide

end Downlink
