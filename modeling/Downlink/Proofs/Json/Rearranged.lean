import Downlink.Json.Fields
import Mathlib.Data.List.Forall2
import Mathlib.Data.List.Nodup

/-!
# Values that say the same

The members of an object have names, so their order does not matter, and a member that has a default
may be left out. `Rearranged v w` says that `w` is `v` with the members of its objects in another
order, at any depth, and `Json.prune` leaves members out, at any depth.

An object whose members have different names gives access to its fields however it was rearranged:
where a member was written, it is found, itself rearranged (`Rearranged.fields?`), and where it was
left out, nothing is (`Rearranged.fields?_prune`).
-/

namespace Downlink

namespace Json

/-! ## Rearranging -/

mutual

/-- One value is another with the members of its objects, at any depth, in another order. -/
inductive Rearranged : Json → Json → Prop where
  /-- there is nothing to rearrange -/
  | atom (a : Atom) : Rearranged (.atom a) (.atom a)
  /-- each value of a list by itself, the list in order -/
  | array {items items' : List Json} (h : List.Forall₂ Rearranged items items') :
    Rearranged (.array items) (.array items')
  /-- each member by itself, and then all of them in any order -/
  | object {members middle members' : List (Text × Json)}
    (h : List.Forall₂ RearrangedMember members middle) (hperm : middle.Perm members') :
    Rearranged (.object members) (.object members')

/-- One member is another with its value rearranged. -/
inductive RearrangedMember : Text × Json → Text × Json → Prop where
  /-- the name stays -/
  | mk (name : Text) {v w : Json} (h : Rearranged v w) : RearrangedMember (name, v) (name, w)

end

variable {v w : Json} {items : List Json} {members members' : List (Text × Json)}

theorem Rearranged.eq_of_atom {a : Atom} (h : Rearranged (.atom a) w) : w = .atom a := by
  cases h
  rfl

/-- Lists of atoms stay as they are. -/
theorem Rearranged.eq_of_atoms (h : Rearranged (.array items) w)
    (hatoms : ∀ v ∈ items, ∃ a, v = .atom a) : w = .array items := by
  cases h with
  | @array _ items' h =>
    congr 1
    induction h with
    | nil => rfl
    | cons hv _ ih =>
      rw [List.forall_mem_cons] at hatoms
      obtain ⟨⟨a, rfl⟩, hrest⟩ := hatoms
      rw [hv.eq_of_atom, ih hrest]

mutual

/-- A value is a rearrangement of itself. -/
theorem Rearranged.refl : ∀ v : Json, Rearranged v v
  | .atom a => .atom a
  | .array items => .array (rearranged_items items)
  | .object members => .object (rearranged_members members) (.refl _)

theorem rearranged_items : ∀ vs : List Json, List.Forall₂ Rearranged vs vs
  | [] => .nil
  | v :: vs => .cons (.refl v) (rearranged_items vs)

theorem rearranged_members : ∀ ms : List (Text × Json), List.Forall₂ RearrangedMember ms ms
  | [] => .nil
  | (name, v) :: ms => .cons (.mk name (.refl v)) (rearranged_members ms)

end

/-- What is in one of two lists that correspond has its counterpart in the other. -/
theorem exists_of_forall₂ {α β : Type} {R : α → β → Prop} {as : List α} {bs : List β}
    (h : List.Forall₂ R as bs) {a : α} (ha : a ∈ as) : ∃ b ∈ bs, R a b := by
  obtain ⟨i, rfl⟩ := List.get_of_mem ha
  have hi : i.val < bs.length := h.length_eq ▸ i.isLt
  exact ⟨bs.get ⟨i, hi⟩, List.get_mem .., h.get i.isLt hi⟩

namespace Rearranged

theorem eq_object (h : Rearranged (.object members) w) : ∃ members', w = .object members' := by
  cases h
  exact ⟨_, rfl⟩

/-- The names stay the same, but for their order. -/
theorem perm_names (h : Rearranged (.object members) (.object members')) :
    (members.map (·.1)).Perm (members'.map (·.1)) := by
  cases h with
  | @object _ middle _ h hperm =>
    have hnames : List.Forall₂ (· = ·) (members.map (·.1)) (middle.map (·.1)) :=
      List.rel_map (fun _ _ hm => by cases hm; rfl) h
    rw [List.forall₂_eq_eq_eq] at hnames
    rw [hnames]
    exact hperm.map _

/-- Each member is there, with its value rearranged. -/
theorem exists_of_mem (h : Rearranged (.object members) (.object members')) {name : Text}
    (hv : (name, v) ∈ members) : ∃ w, (name, w) ∈ members' ∧ Rearranged v w := by
  cases h with
  | object h hperm =>
    obtain ⟨m, hm, hmember⟩ := exists_of_forall₂ h hv
    cases hmember with
    | mk _ h => exact ⟨_, hperm.mem_iff.mp hm, h⟩

/-- Nothing is there but members with their values rearranged. -/
theorem exists_written_of_mem (h : Rearranged (.object members) (.object members')) {name : Text}
    (hw : (name, w) ∈ members') : ∃ v, (name, v) ∈ members ∧ Rearranged v w := by
  cases h with
  | object h hperm =>
    have hflip : List.Forall₂ (flip RearrangedMember) _ members := List.Forall₂.flip h
    obtain ⟨m, hm, hmember⟩ := exists_of_forall₂ hflip (hperm.mem_iff.mpr hw)
    cases hmember with
    | mk _ h => exact ⟨_, hm, h⟩

/-- Some of the members by themselves, chosen by their names. -/
theorem filter (h : Rearranged (.object members) (.object members')) (p : Text → Bool) :
    Rearranged (.object (members.filter (p ·.1))) (.object (members'.filter (p ·.1))) := by
  cases h with
  | @object _ middle _ h hperm =>
    refine .object ?_ (hperm.filter _)
    exact List.rel_filter (fun _ _ hm => by cases hm; exact Iff.rfl) h

/-- An object with a single member that is an atom stays as it is. -/
theorem eq_singleton {name : Text} {a : Atom}
    (h : Rearranged (.object [(name, .atom a)]) (.object members')) :
    members' = [(name, .atom a)] := by
  cases h with
  | object h hperm =>
    cases h with
    | cons hm hnil =>
      cases hnil
      cases hm with
      | mk _ hv =>
        rw [hv.eq_of_atom] at hperm
        exact hperm.singleton_eq.symm

end Rearranged

/-! ## Access to fields -/

theorem occurrences_le_one (hnames : (members.map (·.1)).Nodup) (name : String) :
    occurrences members name ≤ 1 := by
  have hcount : occurrences members name = (members.map (·.1)).count (some name) := by
    rw [occurrences, List.count_eq_countP, List.countP_map]
    rfl
  rw [hcount]
  exact List.nodup_iff_count_le_one.mp hnames _

/-- A member is found by its name. -/
theorem member?_of_mem (hnames : (members.map (·.1)).Nodup) {name : String}
    (hv : (some name, v) ∈ members) : member? members name = some v := by
  obtain ⟨before, after, hsplit⟩ := List.append_of_mem hv
  rw [hsplit, List.map_append, List.map_cons] at hnames
  have hbefore : ∀ m ∈ before, ¬(m.1 == some name) = true := by
    intro m hm hname
    rw [beq_iff_eq] at hname
    have hmem : some name ∈ before.map (·.1) := List.mem_map.mpr ⟨m, hm, hname⟩
    exact (List.nodup_append.mp hnames).2.2 _ hmem _ List.mem_cons_self rfl
  rw [member?, hsplit, List.find?_append, List.find?_eq_none.mpr hbefore]
  simp

theorem member?_of_not_mem {name : String} (h : some name ∉ members.map (·.1)) :
    member? members name = none := by
  have hnone : ∀ m ∈ members, ¬(m.1 == some name) = true := by
    intro m hm hname
    exact h (List.mem_map.mpr ⟨m, hm, beq_iff_eq.mp hname⟩)
  rw [member?, List.find?_eq_none.mpr hnone, Option.map_none]

variable {ms : List (String × Json)}

/-- What is found where a value was written: the value, rearranged. -/
def Given (v : Json) (found : Option Json) : Prop := ∃ w, found = some w ∧ Rearranged v w

/-- **Access to a rearranged object.** If the names of the members differ, every member is found by
its name, however they were rearranged, and nothing else is. -/
theorem Rearranged.fields? (names : List String) (h : Rearranged (ofMembers ms) w)
    (hnames : (ms.map (·.1)).Nodup) :
    ∃ field, w.fields? names = some field ∧ (ms.Forall fun m => Given m.2 (field m.1)) ∧
      ∀ name ∉ ms.map (·.1), field name = none := by
  obtain ⟨members', rfl⟩ := h.eq_object
  have hperm := h.perm_names
  have hwritten : (ms.map fun m => (some m.1, m.2)).map (·.1) = (ms.map (·.1)).map some := by
    rw [List.map_map, List.map_map]
    rfl
  rw [hwritten] at hperm
  have hdiffer : (members'.map (·.1)).Nodup :=
    hperm.nodup_iff.mp (hnames.map fun _ _ => Option.some.inj)
  have hall : (members'.all (·.1.isSome) && names.all fun name => occurrences members' name ≤ 1) =
      true := by
    rw [Bool.and_eq_true, List.all_eq_true, List.all_eq_true]
    refine ⟨fun m hm => ?_, fun name _ => decide_eq_true (occurrences_le_one hdiffer name)⟩
    have := hperm.mem_iff.mpr (List.mem_map_of_mem hm)
    obtain ⟨name, -, hname⟩ := List.mem_map.mp this
    rw [← hname]
    rfl
  refine ⟨member? members', by rw [Json.fields?, if_pos hall], ?_, ?_⟩
  · rw [List.forall_iff_forall_mem]
    intro m hm
    obtain ⟨w, hw, hv⟩ := h.exists_of_mem (List.mem_map.mpr ⟨m, hm, rfl⟩)
    exact ⟨w, member?_of_mem hdiffer hw, hv⟩
  · intro name hname
    refine member?_of_not_mem fun hmem => hname ?_
    simpa using hperm.mem_iff.mpr hmem

/-! ## Leaving members out -/

/-- What is kept in the value of a member. -/
def within (name : String) (keep : List String → Bool) (path : List String) : Bool :=
  keep (name :: path)

mutual

/-- A value without some members of its objects, at any depth. Members are named by their path from
the outermost object; `keep` says which ones stay. Lists stay as they are. -/
def prune (keep : List String → Bool) : Json → Json
  | .atom a => .atom a
  | .array items => .array items
  | .object members => .object (pruneMembers keep members)

/-- The members that stay, themselves pruned. -/
def pruneMembers (keep : List String → Bool) : List (Text × Json) → List (Text × Json)
  | [] => []
  | (none, v) :: ms => (none, v) :: pruneMembers keep ms
  | (some name, v) :: ms =>
    if keep [name] then (some name, v.prune (within name keep)) :: pruneMembers keep ms
    else pruneMembers keep ms

end

mutual

/-- Where everything stays the value does. -/
theorem prune_all : ∀ v : Json, (v.prune fun _ => true) = v
  | .atom _ => rfl
  | .array _ => rfl
  | .object members => congrArg Json.object (pruneMembers_all members)

theorem pruneMembers_all : ∀ ms : List (Text × Json), pruneMembers (fun _ => true) ms = ms
  | [] => rfl
  | (none, v) :: ms => congrArg (List.cons (none, v)) (pruneMembers_all ms)
  | (some name, v) :: ms => by
    have hv : v.prune (within name fun _ => true) = v := prune_all v
    rw [pruneMembers, if_pos rfl, hv, pruneMembers_all ms]

end

theorem prune_ofMembers (keep : List String → Bool) (ms : List (String × Json)) :
    (ofMembers ms).prune keep = ofMembers
      ((ms.filter fun m => keep [m.1]).map fun m => (m.1, m.2.prune (within m.1 keep))) := by
  rw [ofMembers, ofMembers, prune]
  congr 1
  induction ms with
  | nil => rfl
  | cons m ms ih =>
    rw [List.map_cons, pruneMembers, ih]
    by_cases hkeep : keep [m.1]
    · rw [if_pos hkeep, List.filter_cons_of_pos (by exact hkeep)]
      rfl
    · rw [if_neg hkeep, List.filter_cons_of_neg (by exact hkeep)]

/-- What is found where a value was written or left out: the value, pruned and rearranged, or
nothing. -/
def GivenIf (kept : Bool) (v : Json) (found : Option Json) : Prop :=
  if kept then Given v found else found = none

/-- **Access to a pruned object.** Every member that stays is found by its name, and no other. -/
theorem Rearranged.fields?_prune (names : List String) {keep : List String → Bool}
    (h : Rearranged ((ofMembers ms).prune keep) w) (hnames : (ms.map (·.1)).Nodup) :
    ∃ field, w.fields? names = some field ∧
      ms.Forall fun m => GivenIf (keep [m.1]) (m.2.prune (within m.1 keep)) (field m.1) := by
  rw [prune_ofMembers] at h
  have hkept : ((ms.filter fun m => keep [m.1]).map fun m =>
      (m.1, m.2.prune (within m.1 keep))).map (·.1) =
        (ms.map (·.1)).filter fun name => keep [name] := by
    rw [List.map_map, List.filter_map]
    rfl
  obtain ⟨field, hfield, hgiven, hnothing⟩ :=
    h.fields? names (by rw [hkept]; exact hnames.filter _)
  rw [List.forall_iff_forall_mem] at hgiven
  rw [hkept] at hnothing
  refine ⟨field, hfield, List.forall_iff_forall_mem.mpr fun m hm => ?_⟩
  by_cases hkeep : keep [m.1]
  · rw [GivenIf, if_pos hkeep]
    have hstays : m ∈ ms.filter fun m => keep [m.1] := List.mem_filter.mpr ⟨hm, hkeep⟩
    exact hgiven _ (List.mem_map_of_mem hstays)
  · rw [GivenIf, if_neg hkeep]
    refine hnothing m.1 fun hmem => hkeep ?_
    exact (List.mem_filter.mp hmem).2

end Json

end Downlink
