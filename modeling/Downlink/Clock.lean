/-!
# The counter and its circle

A radio counts microseconds in 32 bits and starts over about every 71.6 minutes. A reading is
therefore a point on a circle of `2 ^ 32` ticks, and all that two readings tell is how far one must
go forward from the first to meet the second. Every time check of the scheduler is a statement
about such a distance, which is why none of them notices where the counter's zero lies.

Two kinds of quantity are kept apart here:

* **spans**, lengths of time, whose sums and products stop at the longest span instead of wrapping;
* **readings** (`Counter`), points of the circle, which only move forward or back by a span.

A `Vantage` turns the circle into a line by cutting it at a point, so that readings can be sorted.
-/

namespace Downlink

/-! ## Spans -/

/-- A length of time in microseconds, at most `2 ^ 32 - 1`. -/
abbrev Span := UInt32

namespace Span

/-- The longest span there is. -/
def longest : Span := 4294967295

/-- The span of `n` microseconds, or the longest span if `n` exceeds it. -/
def clamp (n : Nat) : Span := if n < UInt32.size then UInt32.ofNat n else longest

/-- The sum of two spans, stopping at the longest. -/
def plus (a b : Span) : Span := clamp (a.toNat + b.toNat)

/-- The product of a span with a count, stopping at the longest. -/
def times (a b : Span) : Span := clamp (a.toNat * b.toNat)

end Span

/-! ## Readings of the counter -/

/-- A reading of the radio's free-running counter. -/
structure Counter where
  /-- microseconds since the counter last passed zero -/
  ticks : UInt32
deriving DecidableEq, Repr, Inhabited

namespace Counter

/-- How far `later` lies ahead of `earlier`, going forward round the circle. -/
def since (later earlier : Counter) : Span := later.ticks - earlier.ticks

/-- The reading `d` ahead of `base`. -/
def after (base : Counter) (d : Span) : Counter := ⟨base.ticks + d⟩

/-- The reading `d` behind `base`. -/
def before (base : Counter) (d : Span) : Counter := ⟨base.ticks - d⟩

/-- Whether `time` lies at most `window` ahead of `reference`. -/
def within (time reference : Counter) (window : Span) : Bool := time.since reference ≤ window

theorem ext_ticks {a b : Counter} (h : a.ticks.toNat = b.ticks.toNat) : a = b := by
  obtain ⟨a⟩ := a
  obtain ⟨b⟩ := b
  exact congrArg Counter.mk (UInt32.toNat_inj.mp h)

@[simp] theorem since_self (t : Counter) : t.since t = 0 := by simp [since]

@[simp] theorem after_since (base : Counter) (d : Span) : (base.after d).since base = d := by
  rw [after, since, UInt32.add_comm, UInt32.add_sub_cancel]

@[simp] theorem after_since_self (later earlier : Counter) :
    earlier.after (later.since earlier) = later := by
  rw [after, since, UInt32.add_comm, UInt32.sub_add_cancel]

/-- Readings that lie equally far ahead of the same point are the same reading. -/
theorem since_inj {a b p : Counter} : a.since p = b.since p ↔ a = b := by
  constructor
  · intro h
    rw [← after_since_self a p, h, after_since_self]
  · rintro rfl; rfl

end Counter

/-! ## Seen from a vantage point -/

/-- A point of the circle from which readings are told apart by how far past it they lie. Whatever
happened within one turn of the counter after that point comes in the order in which it happened,
also when the counter passed zero meanwhile. -/
structure Vantage where
  /-- where the circle is cut open -/
  point : Counter
deriving DecidableEq, Repr

namespace Vantage

variable {α : Type}

/-- The vantage point `lookback` behind `now`. -/
def lookingBack (now : Counter) (lookback : Span) : Vantage := ⟨now.before lookback⟩

/-- How far past the vantage point a reading lies. -/
def distance (v : Vantage) (t : Counter) : Span := t.since v.point

/-- The order of two readings as seen from the vantage point. -/
def compare (v : Vantage) (a b : Counter) : Ordering := Ord.compare (v.distance a) (v.distance b)

/-- Puts `x` in front of the first item of the list that does not lie before it. -/
def insert (v : Vantage) (time : α → Counter) (x : α) : List α → List α
  | [] => [x]
  | y :: ys =>
    if v.distance (time x) ≤ v.distance (time y) then x :: y :: ys
    else y :: v.insert time x ys

/-- The items in the order of their times as seen from the vantage point; items at the same time
keep the order they had. Nearly sorted items, the usual case, cost one pass. -/
def sort (v : Vantage) (time : α → Counter) (items : List α) : List α :=
  items.foldr (v.insert time) []

theorem insert_perm (v : Vantage) (time : α → Counter) (x : α) (xs : List α) :
    (v.insert time x xs).Perm (x :: xs) := by
  induction xs with
  | nil => exact .refl _
  | cons y ys ih =>
    unfold insert
    split
    · exact .refl _
    · exact (List.Perm.cons y ih).trans (.swap ..)

/-- Sorting loses nothing and adds nothing. -/
theorem sort_perm (v : Vantage) (time : α → Counter) (xs : List α) :
    (v.sort time xs).Perm xs := by
  induction xs with
  | nil => exact .refl _
  | cons x xs ih => exact (v.insert_perm time x _).trans (ih.cons x)

@[simp] theorem mem_sort {v : Vantage} {time : α → Counter} {x : α} {xs : List α} :
    x ∈ v.sort time xs ↔ x ∈ xs := (v.sort_perm time xs).mem_iff

@[simp] theorem length_sort (v : Vantage) (time : α → Counter) (xs : List α) :
    (v.sort time xs).length = xs.length := (v.sort_perm time xs).length_eq

theorem pairwise_insert {v : Vantage} {time : α → Counter} {x : α} {xs : List α}
    (h : xs.Pairwise fun a b => v.distance (time a) ≤ v.distance (time b)) :
    (v.insert time x xs).Pairwise fun a b => v.distance (time a) ≤ v.distance (time b) := by
  induction xs with
  | nil => simp [insert]
  | cons y ys ih =>
    obtain ⟨hy, hys⟩ := List.pairwise_cons.mp h
    unfold insert
    split
    next hxy =>
      refine List.pairwise_cons.mpr ⟨fun z hz => ?_, h⟩
      rcases List.mem_cons.mp hz with rfl | hz
      · exact hxy
      · exact UInt32.le_trans hxy (hy z hz)
    next hxy =>
      refine List.pairwise_cons.mpr ⟨fun z hz => ?_, ih hys⟩
      rcases List.mem_cons.mp ((v.insert_perm time x ys).mem_iff.mp hz) with rfl | hz
      · exact UInt32.le_of_lt (UInt32.not_le.mp hxy)
      · exact hy z hz

/-- A sorted list never steps back towards the vantage point. -/
theorem pairwise_sort (v : Vantage) (time : α → Counter) (xs : List α) :
    (v.sort time xs).Pairwise fun a b => v.distance (time a) ≤ v.distance (time b) := by
  induction xs with
  | nil => exact .nil
  | cons x xs ih => exact pairwise_insert ih

end Vantage

end Downlink
