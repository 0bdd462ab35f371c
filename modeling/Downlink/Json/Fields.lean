import Downlink.Json.Basic

/-!
# Reading records from JSON

A record is written as an object with its fields as members, in any order, or as a list of its
fields in their order. `Json.fields?` gives the value of a field by name either way, if there is
one; what a missing field means is left to each record. Members with other names are not looked at,
but every name must be a text, and a field must not be given twice.

Numbers are read as words only if they are plain integers in range: a point, an exponent or a
negative zero is not accepted.
-/

namespace Downlink

namespace Json

/-! ## Plain values -/

/-- A truth value. -/
def bool? : Json → Option Bool
  | .atom (.bool b) => some b
  | _ => none

/-- A plain integer. Zero has no sign. -/
def int? : Json → Option Int
  | .atom (.number ⟨false, n, none⟩) => some n
  | .atom (.number ⟨true, n + 1, none⟩) => some (-(n + 1 : Int))
  | _ => none

/-- A plain integer from `low` up to, but not including, `high`. -/
def intWithin? (low high : Int) (v : Json) : Option Int :=
  v.int?.bind fun i => if low ≤ i ∧ i < high then some i else none

/-- A word of 8 bits. -/
def uint8? (v : Json) : Option UInt8 := (v.intWithin? 0 UInt8.size).map fun i => .ofNat i.toNat

/-- A word of 16 bits. -/
def uint16? (v : Json) : Option UInt16 := (v.intWithin? 0 UInt16.size).map fun i => .ofNat i.toNat

/-- A word of 32 bits. -/
def uint32? (v : Json) : Option UInt32 := (v.intWithin? 0 UInt32.size).map fun i => .ofNat i.toNat

/-- A word of 64 bits. -/
def uint64? (v : Json) : Option UInt64 := (v.intWithin? 0 UInt64.size).map fun i => .ofNat i.toNat

/-- A signed word of 8 bits. -/
def int8? (v : Json) : Option Int8 := (v.intWithin? (-128) 128).map .ofInt

/-- A signed word of 32 bits. -/
def int32? (v : Json) : Option Int32 := (v.intWithin? (-2147483648) 2147483648).map .ofInt

/-- A list of words of 8 bits. -/
def bytes? : Json → Option (List UInt8)
  | .array items => items.mapM uint8?
  | _ => none

/-- A value that may be absent. -/
def option? {α : Type} (read : Json → Option α) : Json → Option (Option α)
  | .atom .null => some none
  | v => (read v).map some

/-- One of several named values. It is written as its name, or as an object with that name as its
only member, whose value is then absent; `isAbsent` says which values count as that. -/
def named? {α : Type} (isAbsent : Json → Bool) (values : List (String × α)) : Json → Option α
  | .atom (.string (some name)) => values.lookup name
  | .object [(some name, v)] => if isAbsent v then values.lookup name else none
  | _ => none

/-- Whether this is the absent value. -/
def isNull : Json → Bool
  | .atom .null => true
  | _ => false

/-! ## Records -/

/-- The value of a member. -/
def member? (members : List (Text × Json)) (name : String) : Option Json :=
  (members.find? fun m => m.1 == some name).map (·.2)

/-- How often a name occurs among the members. -/
def occurrences (members : List (Text × Json)) (name : String) : Nat :=
  members.countP fun m => m.1 == some name

/-- Access to the fields of a record by name. -/
def fields? (names : List String) : Json → Option (String → Option Json)
  | .atom _ => none
  | .array items =>
    if items.length ≤ names.length then some fun name => items[names.idxOf name]? else none
  | .object members =>
    if members.all (·.1.isSome) && names.all fun name => occurrences members name ≤ 1 then
      some (member? members)
    else none

/-- A field that must be given. -/
def required {α : Type} (field : Option Json) (read : Json → Option α) : Option α :=
  field.bind read

/-- A field that has a default. -/
def defaulted {α : Type} (field : Option Json) (read : Json → Option α) (default : α) : Option α :=
  match field with
  | none => some default
  | some v => read v

/-! ## Values that are held back

Where the shape of a record depends on one of its members, the others are held back until that one
is known. What is held back must be in order as far as it goes: every literal stands for a text,
every number lies within the doubles, and nothing is nested too deeply.
-/

/-- The levels of containers that a value may have around what is held back, itself included. -/
def maxHeldLevel : Nat := 127

mutual

/-- Whether a value at a level can be held back; the outermost container of a text is at level 1. -/
def isHoldable (level : Nat) : Json → Bool
  | .atom (.string t) => t.isSome
  | .atom (.number n) => !n.isBeyondDoubles
  | .atom _ => true
  | .array items => level ≤ maxHeldLevel && areHoldable (level + 1) items
  | .object members => level ≤ maxHeldLevel && membersAreHoldable (level + 1) members

/-- Whether all values of a list at a level can be held back. -/
def areHoldable (level : Nat) : List Json → Bool
  | [] => true
  | v :: vs => v.isHoldable level && areHoldable level vs

/-- Whether all members of an object can be held back. -/
def membersAreHoldable (level : Nat) : List (Text × Json) → Bool
  | [] => true
  | (name, v) :: ms => name.isSome && v.isHoldable level && membersAreHoldable level ms

end

/-- Whether a held back value counts as absent where a named value is written as an object. -/
def isHeldAbsent : Json → Bool
  | .atom .null => true
  | .object [] => true
  | _ => false

end Json

end Downlink
