/-!
# JSON values

A JSON value as it was written. Numbers keep their sign, digits and scale, because `1`, `1.0` and
`-0` are not accepted in the same places. A string literal may name half of a surrogate pair without
the other half; such a literal is well formed and yet stands for no text, so the text of a string is
optional. Objects keep their members in order, repeated names included.
-/

namespace Downlink

namespace Json

/-! ## Numbers -/

/-- A number: its digits, times a power of ten where it was written with a point or an exponent. -/
structure Number where
  /-- whether a minus sign stands in front -/
  negative : Bool
  /-- all digits, as one number -/
  digits : Nat
  /-- the exponent of ten to scale the digits by; none for a plain integer -/
  scale : Option Int
deriving DecidableEq, Repr

/-- `n` rounded to 53 significant bits, a tie going to the even neighbour. -/
def roundToDouble (n : Nat) : Nat :=
  let shift := n.log2 + 1 - 53
  let q := n >>> shift
  let r := n - q <<< shift
  let up := 1 <<< shift < 2 * r || (1 <<< shift == 2 * r && q % 2 == 1)
  (if up then q + 1 else q) <<< shift

/-- Drops trailing digits until the rest fits into 64 bits. Gives the rest and how many went. -/
def leadingDigits (n : Nat) : Nat × Nat :=
  if n < UInt64.size then (n, 0)
  else
    let r := leadingDigits (n / 10)
    (r.1, r.2 + 1)
termination_by n
decreasing_by
  have hsize : UInt64.size = 18446744073709551616 := rfl
  omega

/-- Whether the number lies beyond every finite double. The digits that fit into 64 bits and the
power of ten are rounded each by itself, and then their product is. -/
def Number.isBeyondDoubles (n : Number) : Bool :=
  let (digits, dropped) := leadingDigits n.digits
  let e : Int := n.scale.getD 0 + dropped
  if digits = 0 || e < 0 then false
  else if 308 < e then true
  else Nat.pow 2 1024 - Nat.pow 2 970 ≤ roundToDouble digits * roundToDouble (Nat.pow 10 e.toNat)

/-! ## Values -/

/-- The text of a string literal, if it stands for one. -/
abbrev Text := Option String

/-- A value without parts. -/
inductive Atom where
  | null
  | bool (b : Bool)
  | number (n : Number)
  | string (t : Text)
deriving DecidableEq, Repr

end Json

/-- A JSON value. -/
inductive Json where
  /-- a value without parts -/
  | atom (a : Json.Atom)
  /-- a list of values -/
  | array (items : List Json)
  /-- named values, in order -/
  | object (members : List (Json.Text × Json))
deriving Repr, Inhabited

namespace Json

/-! ## Building values -/

/-- The absent value. -/
def null : Json := .atom .null

/-- A truth value. -/
def ofBool (b : Bool) : Json := .atom (.bool b)

/-- A natural number. -/
def ofNat (n : Nat) : Json := .atom (.number ⟨false, n, none⟩)

/-- An integer. -/
def ofInt (i : Int) : Json := .atom (.number ⟨i < 0, i.natAbs, none⟩)

/-- A text. -/
def ofString (s : String) : Json := .atom (.string (some s))

/-- An object with the given members. -/
def ofMembers (members : List (String × Json)) : Json :=
  .object (members.map fun m => (some m.1, m.2))

end Json

end Downlink
