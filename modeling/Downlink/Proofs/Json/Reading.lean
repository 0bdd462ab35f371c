import Downlink.Proofs.Json.Parse
import Downlink.Proofs.Json.Rearranged
import Mathlib.Algebra.Ring.Nat

/-!
# Reading values in any arrangement

Words, truth values and lists of bytes are read as what was written. A reader that gives the same
for every rearrangement of a value (`ReadsAs`) gives it for every text that says the value, in
whatever order the members stand and whatever blanks are between the tokens (`Says.parse`). For a
record such a reader is made of those for its fields: a field that must be given is read if it is,
and one that has a default is read or has it.
-/

namespace Downlink

namespace Json

variable {α : Type} {read : Json → Option α} {x d : α} {v : Json} {found : Option Json}

/-! ## Plain values -/

theorem int?_ofInt (i : Int) : (ofInt i).int? = some i := by
  cases i with
  | ofNat n => rfl
  | negSucc n =>
    have hsign : decide (Int.negSucc n < 0) = true := decide_eq_true (Int.negSucc_lt_zero n)
    rw [ofInt, hsign]
    rfl

theorem intWithin?_ofNat {n high : Nat} (h : n < high) :
    (ofNat n).intWithin? 0 high = some (n : Int) := by
  have hint : (ofNat n).int? = some (n : Int) := rfl
  rw [intWithin?, hint, Option.bind_some, if_pos (by omega)]

theorem intWithin?_ofInt {i low high : Int} (hlow : low ≤ i) (hhigh : i < high) :
    (ofInt i).intWithin? low high = some i := by
  rw [intWithin?, int?_ofInt, Option.bind_some, if_pos ⟨hlow, hhigh⟩]

theorem uint8?_ofNat (n : UInt8) : uint8? (ofNat n.toNat) = some n := by
  rw [uint8?, intWithin?_ofNat n.toNat_lt, Option.map_some, Int.toNat_natCast, UInt8.ofNat_toNat]

theorem uint16?_ofNat (n : UInt16) : uint16? (ofNat n.toNat) = some n := by
  rw [uint16?, intWithin?_ofNat n.toNat_lt, Option.map_some, Int.toNat_natCast, UInt16.ofNat_toNat]

theorem uint32?_ofNat (n : UInt32) : uint32? (ofNat n.toNat) = some n := by
  rw [uint32?, intWithin?_ofNat n.toNat_lt, Option.map_some, Int.toNat_natCast, UInt32.ofNat_toNat]

theorem uint64?_ofNat (n : UInt64) : uint64? (ofNat n.toNat) = some n := by
  rw [uint64?, intWithin?_ofNat n.toNat_lt, Option.map_some, Int.toNat_natCast, UInt64.ofNat_toNat]

theorem int8?_ofInt (i : Int8) : int8? (ofInt i.toInt) = some i := by
  have hwithin : (ofInt i.toInt).intWithin? (-128) 128 = some i.toInt :=
    intWithin?_ofInt i.le_toInt i.toInt_lt
  rw [int8?, hwithin, Option.map_some, Int8.ofInt_toInt]

theorem int32?_ofInt (i : Int32) : int32? (ofInt i.toInt) = some i := by
  have hwithin : (ofInt i.toInt).intWithin? (-2147483648) 2147483648 = some i.toInt :=
    intWithin?_ofInt i.le_toInt i.toInt_lt
  rw [int32?, hwithin, Option.map_some, Int32.ofInt_toInt]

theorem bool?_ofBool (b : Bool) : bool? (ofBool b) = some b := rfl

theorem option?_ofNat {n : Nat} (h : read (ofNat n) = some x) :
    option? read (ofNat n) = some (some x) := by
  change (read (ofNat n)).map some = _
  rw [h, Option.map_some]

theorem bytes?_ofNat (bytes : List UInt8) :
    bytes? (.array (bytes.map fun b => ofNat b.toNat)) = some bytes := by
  rw [bytes?]
  induction bytes with
  | nil => rfl
  | cons b bytes ih =>
    rw [List.map_cons, List.mapM_cons, uint8?_ofNat, ih]
    rfl

/-- Numbers that a double holds exactly are rounded to themselves. -/
theorem roundToDouble_of_lt {n : Nat} (h : n < 2 ^ 53) : roundToDouble n = n := by
  have hshift : n.log2 + 1 - 53 = 0 := by
    rcases Nat.eq_zero_or_pos n with rfl | hpos
    · rfl
    · have := (Nat.log2_lt (Nat.ne_of_gt hpos)).mpr h
      omega
  simp [roundToDouble, hshift]

theorem isHoldable_ofNat {n level : Nat} (h : n < 2 ^ 53) : (ofNat n).isHoldable level := by
  have hleading : leadingDigits n = (n, 0) := by
    rw [leadingDigits, if_pos (Nat.lt_trans h (by decide))]
  have hone : roundToDouble (Nat.pow 10 (Int.toNat (0 + (0 : Nat)))) = 1 := by decide
  have hlarge : 2 ^ 53 ≤ Nat.pow 2 1024 - Nat.pow 2 970 := by decide +kernel
  have hbelow : ¬Nat.pow 2 1024 - Nat.pow 2 970 ≤ n * 1 := by omega
  simp only [ofNat, isHoldable, Number.isBeyondDoubles, hleading, Option.getD_none, hone,
    roundToDouble_of_lt h, hbelow]
  simp

/-! ## Values in any arrangement -/

/-- The value is read as `x`, however it is rearranged. -/
def ReadsAs (read : Json → Option α) (v : Json) (x : α) : Prop :=
  ∀ w, Rearranged v w → read w = some x

theorem readsAs_atom {a : Atom} (h : read (.atom a) = some x) : ReadsAs read (.atom a) x := by
  intro w hw
  rw [hw.eq_of_atom, h]

theorem required_of_given (h : Given v found) (hread : ReadsAs read v x) :
    required found read = some x := by
  obtain ⟨w, rfl, hw⟩ := h
  exact hread w hw

theorem readsAs_bytes (bytes : List UInt8) :
    ReadsAs bytes? (.array (bytes.map fun b => ofNat b.toNat)) bytes := by
  intro w hw
  have hatoms : ∀ v ∈ bytes.map fun b => ofNat b.toNat, ∃ a, v = .atom a := by
    intro v hv
    obtain ⟨b, -, rfl⟩ := List.mem_map.mp hv
    exact ⟨_, rfl⟩
  rw [hw.eq_of_atoms hatoms, bytes?_ofNat]

/-- A member that stays is read, and one that was left out has its default. -/
theorem defaulted_of_givenIf {kept : Bool} (h : GivenIf kept v found) (hread : ReadsAs read v x) :
    defaulted found read d = some (if kept then x else d) := by
  cases kept with
  | true =>
    obtain ⟨w, rfl, hw⟩ := h
    exact hread w hw
  | false =>
    obtain rfl : found = none := h
    rfl

/-! ## Texts in any arrangement -/

/-- The text consists of the tokens of the value or of a rearrangement of it, with any blanks around
them. -/
def Says (v : Json) (text : String) : Prop := ∃ w, Rearranged v w ∧ w.Spelled text

theorem says_compact (v : Json) : v.Says v.compact := ⟨v, .refl v, spelled_compact v⟩

theorem says_indented (v : Json) : v.Says v.indented := ⟨v, .refl v, spelled_indented v⟩

/-- A reader that does not mind the arrangement reads every text that says the value. -/
theorem Says.parse {text : String} (h : v.Says text) (hread : ReadsAs read v x) :
    (parse text).bind read = some x := by
  obtain ⟨w, hw, hspelled⟩ := h
  rw [parse_of_spelled hspelled, Option.bind_some, hread w hw]

/-! ## Values that are held back -/

/-- An atom that can be held back, at any level. -/
def Held (v : Json) : Prop := ∃ a, v = .atom a ∧ ∀ level, v.isHoldable level

theorem held_ofNat {n : Nat} (h : n < 2 ^ 53) : Held (ofNat n) :=
  ⟨_, rfl, fun _ => isHoldable_ofNat h⟩

theorem held_ofString (s : String) : Held (ofString s) := ⟨_, rfl, fun _ => rfl⟩

theorem held_ofBool (b : Bool) : Held (ofBool b) := ⟨_, rfl, fun _ => rfl⟩

/-- Members that are such atoms can be held back, however they are rearranged. -/
theorem membersAreHoldable_of_held {ms : List (String × Json)} {members : List (Text × Json)}
    (h : Rearranged (ofMembers ms) (.object members)) (hms : ms.Forall fun m => Held m.2)
    (level : Nat) : membersAreHoldable level members := by
  have hall : ∀ m ∈ members, m.1.isSome ∧ m.2.isHoldable level := by
    rintro ⟨name, w⟩ hm
    obtain ⟨v, hv, hvw⟩ := h.exists_written_of_mem hm
    obtain ⟨m, hmem, heq⟩ := List.mem_map.mp hv
    obtain ⟨rfl, rfl⟩ := Prod.mk.inj heq
    obtain ⟨a, ha, hheld⟩ := List.forall_iff_forall_mem.mp hms m hmem
    rw [ha] at hvw hheld
    rw [hvw.eq_of_atom]
    exact ⟨rfl, hheld level⟩
  clear h
  induction members with
  | nil => rfl
  | cons m members ih =>
    rw [List.forall_mem_cons] at hall
    simp [membersAreHoldable, hall.1, ih hall.2]

end Json

end Downlink
