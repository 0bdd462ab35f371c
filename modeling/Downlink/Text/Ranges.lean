/-!
# Ranges of characters

A kind of character is given by the ranges of code points it covers, in ascending order.
-/

namespace Downlink.Text

/-- A kind of character, as the first and the last code point of each of its ranges. -/
abbrev Ranges := List (Nat × Nat)

namespace Ranges

/-- Whether one of the ranges holds a character. -/
def covers (rs : Ranges) (c : Char) : Bool := rs.any fun r => r.1 ≤ c.toNat && c.toNat ≤ r.2

/-- Whether the ranges ascend with room between any two. -/
def ascending : Ranges → Bool
  | [] => true
  | [r] => r.1 ≤ r.2
  | r :: s :: rest => r.1 ≤ r.2 && r.2 + 1 < s.1 && ascending (s :: rest)

/-- The number of code points in the ranges. -/
def size (rs : Ranges) : Nat := rs.foldr (fun r n => r.2 + 1 - r.1 + n) 0

theorem covers_iff {rs : Ranges} {c : Char} :
    rs.covers c = true ↔ ∃ r ∈ rs, r.1 ≤ c.toNat ∧ c.toNat ≤ r.2 := by
  simp [covers]

end Ranges

end Downlink.Text
