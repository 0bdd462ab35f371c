import Downlink.Airtime
import Mathlib.Algebra.Ring.Int.Defs
import Mathlib.Algebra.Ring.Nat

/-!
# Arithmetic that notices where it leaves the range

A sum, a difference or a product of words of 64 bits starts over at the end of the range and says
nothing. The operations below are those of the numbers the words stand for, and answer nothing where
the number that comes out is not a word. They go on from what other such operations answered, so
that one of them that leaves the range spoils the whole computation.

A computation `Yields` a word and a number if it answers the word and the number is what the word
stands for. The lemmas go through an expression from the inside out. At each operation they ask for
the range, and they name the word that the operation on words has, so what they say of the whole is
that nothing in it starts over.
-/

namespace Downlink

/-! ## Signed words -/

namespace SignedWord

/-- The signed word that stands for a number, if one does. -/
def ofInt? (n : Int) : Option Int64 := if -2 ^ 63 ≤ n ∧ n < 2 ^ 63 then some (.ofInt n) else none

/-- What an operation on numbers comes to, if both sides have come to something. -/
def lift? (op : Int → Int → Int) (x y : Option Int64) : Option Int64 := do
  ofInt? (op (← x).toInt (← y).toInt)

/-- The sum. -/
def add? : Option Int64 → Option Int64 → Option Int64 := lift? (· + ·)

/-- The difference. -/
def sub? : Option Int64 → Option Int64 → Option Int64 := lift? (· - ·)

/-- The product. -/
def mul? : Option Int64 → Option Int64 → Option Int64 := lift? (· * ·)

/-- The quotient, rounded towards zero. There is none of a division by nothing. -/
def div? (x y : Option Int64) : Option Int64 := if y = some 0 then none else lift? Int.tdiv x y

/-- The number itself, or one if it is less. -/
def atLeastOne? (x : Option Int64) : Option Int64 := do
  let w ← x
  return if w ≤ 1 then 1 else w

/-- The signed word that stands for the same number as another word. -/
def ofWord? (x : Option UInt64) : Option Int64 := do ofInt? (← x).toNat

/-- A computation answers a word, which stands for the number. -/
structure Yields (x : Option Int64) (w : Int64) (n : Int) : Prop where
  /-- it answers the word -/
  answer : x = some w
  /-- the word stands for the number -/
  toInt : w.toInt = n

variable {x y : Option Int64} {a b : Int64} {n k : Int}

/-- The number that a word stands for is in the range. -/
theorem yields_ofInt? (h : a.toInt = n) : Yields (ofInt? n) a n := by
  have hrange : -2 ^ 63 ≤ n ∧ n < 2 ^ 63 := h ▸ ⟨a.le_toInt, a.toInt_lt⟩
  refine ⟨?_, h⟩
  rw [ofInt?, if_pos hrange, ← h, Int64.ofInt_toInt]

/-- What is in the range does not start over. -/
theorem eq_of_bmod {m : Int} (h : m = n.bmod (2 ^ 64)) (hlow : -2 ^ 63 ≤ n) (hhigh : n < 2 ^ 63) :
    m = n := by
  rw [h]
  exact Int.bmod_eq_of_le (by omega) (by omega)

theorem Yields.add (hx : Yields x a n) (hy : Yields y b k) (hlow : -2 ^ 63 ≤ n + k)
    (hhigh : n + k < 2 ^ 63) : Yields (add? x y) (a + b) (n + k) := by
  obtain ⟨rfl, rfl⟩ := hx
  obtain ⟨rfl, rfl⟩ := hy
  exact yields_ofInt? (eq_of_bmod (Int64.toInt_add a b) hlow hhigh)

theorem Yields.sub (hx : Yields x a n) (hy : Yields y b k) (hlow : -2 ^ 63 ≤ n - k)
    (hhigh : n - k < 2 ^ 63) : Yields (sub? x y) (a - b) (n - k) := by
  obtain ⟨rfl, rfl⟩ := hx
  obtain ⟨rfl, rfl⟩ := hy
  exact yields_ofInt? (eq_of_bmod (Int64.toInt_sub a b) hlow hhigh)

theorem Yields.mul (hx : Yields x a n) (hy : Yields y b k) (hlow : -2 ^ 63 ≤ n * k)
    (hhigh : n * k < 2 ^ 63) : Yields (mul? x y) (a * b) (n * k) := by
  obtain ⟨rfl, rfl⟩ := hx
  obtain ⟨rfl, rfl⟩ := hy
  exact yields_ofInt? (eq_of_bmod (Int64.toInt_mul a b) hlow hhigh)

theorem Yields.div (hx : Yields x a n) (hy : Yields y b k) (hk : k ≠ 0)
    (hlow : -2 ^ 63 ≤ n.tdiv k) (hhigh : n.tdiv k < 2 ^ 63) :
    Yields (div? x y) (a / b) (n.tdiv k) := by
  obtain ⟨rfl, rfl⟩ := hx
  obtain ⟨rfl, rfl⟩ := hy
  have hb : some b ≠ some 0 := by
    rintro ⟨⟩
    exact hk rfl
  rw [div?, if_neg hb]
  exact yields_ofInt? (eq_of_bmod (Int64.toInt_div a b) hlow hhigh)

theorem Yields.atLeastOne (hx : Yields x a n) :
    Yields (atLeastOne? x) (if a ≤ 1 then 1 else a) (max 1 n) := by
  obtain ⟨rfl, rfl⟩ := hx
  have hle : a ≤ 1 ↔ a.toInt ≤ 1 := Int64.le_iff_toInt_le
  refine ⟨rfl, ?_⟩
  split
  next h => exact (Int.max_eq_left (hle.mp h)).symm
  next h => exact (Int.max_eq_right (Int.le_of_lt (Int.not_le.mp (mt hle.mpr h)))).symm

end SignedWord

/-! ## Words -/

namespace Word

/-- The word that stands for a number, if one does. -/
def ofNat? (n : Nat) : Option UInt64 := if n < 2 ^ 64 then some (.ofNat n) else none

/-- What an operation on numbers comes to, if both sides have come to something. -/
def lift? (op : Nat → Nat → Nat) (x y : Option UInt64) : Option UInt64 := do
  ofNat? (op (← x).toNat (← y).toNat)

/-- The sum. -/
def add? : Option UInt64 → Option UInt64 → Option UInt64 := lift? (· + ·)

/-- The product. -/
def mul? : Option UInt64 → Option UInt64 → Option UInt64 := lift? (· * ·)

/-- The word that stands for the same number as a signed one. None does for a negative number. -/
def ofSigned? (x : Option Int64) : Option UInt64 := do
  if 0 ≤ (← x).toInt then ofNat? (← x).toInt.toNat else none

/-- A computation answers a word, which stands for the number. -/
structure Yields (x : Option UInt64) (w : UInt64) (n : Nat) : Prop where
  /-- it answers the word -/
  answer : x = some w
  /-- the word stands for the number -/
  toNat : w.toNat = n

variable {x y : Option UInt64} {a b : UInt64} {n k : Nat}

/-- A word that is given. -/
theorem Yields.given (a : UInt64) : Yields (some a) a a.toNat := ⟨rfl, rfl⟩

/-- The number that a word stands for is in the range. -/
theorem yields_ofNat? (h : a.toNat = n) : Yields (ofNat? n) a n := by
  have hrange : n < 2 ^ 64 := h ▸ a.toNat_lt
  refine ⟨?_, h⟩
  rw [ofNat?, if_pos hrange, ← h, UInt64.ofNat_toNat]

theorem Yields.add (hx : Yields x a n) (hy : Yields y b k) (h : n + k < 2 ^ 64) :
    Yields (add? x y) (a + b) (n + k) := by
  obtain ⟨rfl, rfl⟩ := hx
  obtain ⟨rfl, rfl⟩ := hy
  exact yields_ofNat? ((UInt64.toNat_add a b).trans (Nat.mod_eq_of_lt h))

theorem Yields.mul (hx : Yields x a n) (hy : Yields y b k) (h : n * k < 2 ^ 64) :
    Yields (mul? x y) (a * b) (n * k) := by
  obtain ⟨rfl, rfl⟩ := hx
  obtain ⟨rfl, rfl⟩ := hy
  exact yields_ofNat? ((UInt64.toNat_mul a b).trans (Nat.mod_eq_of_lt h))

end Word

/-! ## From one to the other -/

theorem Word.Yields.toSigned {x : Option UInt64} {a : UInt64} {n : Nat} (hx : Word.Yields x a n)
    (h : n < 2 ^ 63) : SignedWord.Yields (SignedWord.ofWord? x) a.toInt64 n := by
  obtain ⟨rfl, rfl⟩ := hx
  have ha : a.toInt64 = Int64.ofNat a.toNat := by
    rw [← UInt64.toInt64_ofNat', UInt64.ofNat_toNat]
  rw [SignedWord.ofWord?, Option.bind_eq_bind, Option.bind_some]
  apply SignedWord.yields_ofInt?
  rw [ha]
  exact Int64.toInt_ofNat_of_lt h

theorem SignedWord.Yields.toWord {x : Option Int64} {a : Int64} {n : Int}
    (hx : SignedWord.Yields x a n) (h : 0 ≤ n) :
    Word.Yields (Word.ofSigned? x) a.toUInt64 n.toNat := by
  obtain ⟨rfl, rfl⟩ := hx
  have hword : Word.ofSigned? (some a) = Word.ofNat? a.toInt.toNat := if_pos h
  rw [hword]
  apply Word.yields_ofNat?
  rw [Int64.toNat_toUInt64_of_le (Int64.le_iff_toInt_le.mpr h), Int64.toNat_toInt]

end Downlink
