import Downlink.Clock
import Mathlib.Algebra.Ring.Int.Defs
import Mathlib.Algebra.Ring.Nat

/-!
# Distances and unbounded time

Spans and readings are words of 32 bits. What the operations on them come to is said once in natural
numbers, and all arithmetic is done there.

A reading is a time, counted in microseconds without end, of which only the last 32 bits are left
(`Counter.ofTime`). The distance from one reading forward to another is the time that lies between
them as long as that is less than a turn; what has passed is nearly a turn ahead. The lemmas below
say both, for readings (`Counter.toNat_since_of_le`, `Counter.toNat_since_of_lt`) and for times
(`Counter.toNat_since_ofTime_of_le`, `Counter.toNat_since_ofTime_of_lt`). In a run that takes less
than a turn a reading tells its time (`Counter.timeFrom`).
-/

namespace Downlink

/-! ## In numbers -/

namespace Span

theorem toNat_lt (a : Span) : a.toNat < 2 ^ 32 := UInt32.toNat_lt a

@[simp] theorem toNat_clamp (n : Nat) : (clamp n).toNat = min n (2 ^ 32 - 1) := by
  have hsize : UInt32.size = 2 ^ 32 := rfl
  unfold clamp
  split
  · rw [UInt32.toNat_ofNat_of_lt' ‹n < UInt32.size›]; omega
  · simp only [longest, UInt32.reduceToNat]; omega

@[simp] theorem toNat_plus (a b : Span) :
    (a.plus b).toNat = min (a.toNat + b.toNat) (2 ^ 32 - 1) := toNat_clamp _

@[simp] theorem toNat_times (a b : Span) :
    (a.times b).toNat = min (a.toNat * b.toNat) (2 ^ 32 - 1) := toNat_clamp _

end Span

namespace Counter

theorem toNat_since (later earlier : Counter) :
    (later.since earlier).toNat =
      (2 ^ 32 - earlier.ticks.toNat + later.ticks.toNat) % 2 ^ 32 := by
  simp [since, UInt32.toNat_sub]

theorem toNat_after (base : Counter) (d : Span) :
    (base.after d).ticks.toNat = (base.ticks.toNat + d.toNat) % 2 ^ 32 := by
  simp [after, UInt32.toNat_add]

theorem toNat_before (base : Counter) (d : Span) :
    (base.before d).ticks.toNat = (2 ^ 32 - d.toNat + base.ticks.toNat) % 2 ^ 32 := by
  simp [before, UInt32.toNat_sub]

/-! ## Three readings -/

/-- What is left until a time after a part of it has passed. -/
theorem toNat_since_of_le {t a b : Counter}
    (h : (b.since a).toNat ≤ (t.since a).toNat) :
    (t.since b).toNat = (t.since a).toNat - (b.since a).toNat := by
  have ha := UInt32.toNat_lt a.ticks
  have hb := UInt32.toNat_lt b.ticks
  have ht := UInt32.toNat_lt t.ticks
  rw [toNat_since, toNat_since] at h
  rw [toNat_since, toNat_since, toNat_since]
  omega

/-- A time that has passed is nearly a turn ahead. -/
theorem toNat_since_of_lt {t a b : Counter}
    (h : (t.since a).toNat < (b.since a).toNat) :
    (t.since b).toNat = (t.since a).toNat + 2 ^ 32 - (b.since a).toNat := by
  have ha := UInt32.toNat_lt a.ticks
  have hb := UInt32.toNat_lt b.ticks
  have ht := UInt32.toNat_lt t.ticks
  rw [toNat_since, toNat_since] at h
  rw [toNat_since, toNat_since, toNat_since]
  omega

/-- Going on from a time may pass the point the distance is measured from. -/
theorem toNat_after_since_le (t a : Counter) (d : Span) :
    ((t.after d).since a).toNat ≤ (t.since a).toNat + d.toNat := by
  rw [toNat_since, toNat_since, toNat_after]
  omega

/-- It does not if it stays within a turn. -/
theorem toNat_after_since {t a : Counter} {d : Span}
    (h : (t.since a).toNat + d.toNat < 2 ^ 32) :
    ((t.after d).since a).toNat = (t.since a).toNat + d.toNat := by
  have ha := UInt32.toNat_lt a.ticks
  have ht := UInt32.toNat_lt t.ticks
  rw [toNat_since] at h
  rw [toNat_since, toNat_since, toNat_after]
  omega

/-- The time between two readings, however the counter was set at first. -/
theorem toNat_elapsed (start : Counter) {u n : Nat} (hun : u ≤ n) (hn : n < 2 ^ 32) :
    ((start.after (.ofNat n)).since (start.after (.ofNat u))).toNat = n - u := by
  have hs := UInt32.toNat_lt start.ticks
  rw [toNat_since, toNat_after, toNat_after, UInt32.toNat_ofNat',
    UInt32.toNat_ofNat']
  omega

/-! ## Unbounded time -/

/-- What the counter shows at a time. -/
def ofTime (time : Nat) : Counter := ⟨.ofNat time⟩

@[simp] theorem toNat_ofTime (time : Nat) : (ofTime time).ticks.toNat = time % 2 ^ 32 :=
  UInt32.toNat_ofNat'

/-- Every reading ahead of a time is the reading at some time after it, less than a turn away. -/
theorem ofTime_add_since (m : Nat) (t : Counter) :
    ofTime (m + (t.since (ofTime m)).toNat) = t := by
  have ht := UInt32.toNat_lt t.ticks
  apply ext_ticks
  rw [toNat_ofTime, toNat_since, toNat_ofTime]
  omega

/-- The time at which the counter shows a reading, the first one from `start` on. -/
def timeFrom (start : Nat) (t : Counter) : Nat := start + (t.since (ofTime start)).toNat

@[simp] theorem ofTime_timeFrom (start : Nat) (t : Counter) : ofTime (t.timeFrom start) = t :=
  ofTime_add_since start t

/-- A time that comes less than a turn after the start is told by its reading. -/
theorem timeFrom_ofTime {start time : Nat} (h : start ≤ time) (hturn : time < start + 2 ^ 32) :
    (ofTime time).timeFrom start = time := by
  rw [timeFrom, toNat_since, toNat_ofTime, toNat_ofTime]
  omega

/-- In a run shorter than half a turn a reading lies ahead, by no more than half a turn, just when
the time behind it does. -/
theorem since_between_iff (low : Nat) {start now time : Nat} (hstart : start ≤ now)
    (hnow : now < start + 2 ^ 31) (htime : start ≤ time) (hturn : time < start + 2 ^ 32) :
    low < ((ofTime time).since (ofTime now)).toNat ∧
        ((ofTime time).since (ofTime now)).toNat < 2 ^ 31 ↔
      now + low < time ∧ time < now + 2 ^ 31 := by
  rw [toNat_since, toNat_ofTime, toNat_ofTime]
  omega

/-- Going on from a time leads to the reading of a later one. -/
theorem ofTime_after (time : Nat) (d : Span) : (ofTime time).after d = ofTime (time + d.toNat) := by
  apply ext_ticks
  rw [toNat_after, toNat_ofTime, toNat_ofTime]
  omega

/-- How far ahead a time lies that is less than a turn away. -/
theorem toNat_since_ofTime_of_le {n t : Nat} (h : n ≤ t) (ht : t < n + 2 ^ 32) :
    ((ofTime t).since (ofTime n)).toNat = t - n := by
  rw [toNat_since, toNat_ofTime, toNat_ofTime]
  omega

/-- A time that passed less than a turn ago seems to lie nearly a turn ahead. -/
theorem toNat_since_ofTime_of_lt {n t : Nat} (h : t < n) (hn : n < t + 2 ^ 32) :
    ((ofTime t).since (ofTime n)).toNat = t + 2 ^ 32 - n := by
  rw [toNat_since, toNat_ofTime, toNat_ofTime]
  omega

end Counter

end Downlink
