/-!
# Traffic classes

A downlink belongs to one of three classes of device traffic or is a beacon. The class decides how
much of the radio's time a downlink claims around its target and which rules it meets on its way
into the queue; the three predicates below are all the rules ever ask about it.

`PerClass` holds one value for each class, as the statistics do.
-/

namespace Downlink

/-- The kind of a downlink. -/
inductive TrafficClass where
  /-- a reply in one of the two receive windows that follow an uplink -/
  | classA
  /-- a downlink in a ping slot, which is aligned on the beacon period -/
  | classB
  /-- a downlink to a device that always listens, possibly wanted at once -/
  | classC
  /-- the timing beacon of the whole network -/
  | beacon
deriving DecidableEq, Repr, Inhabited

namespace TrafficClass

/-- All classes, data first. -/
def all : List TrafficClass := [.classA, .classB, .classC, .beacon]

/-- The place of a class in `all`. -/
def index : TrafficClass → Nat
  | .classA => 0
  | .classB => 1
  | .classC => 2
  | .beacon => 3

/-- The name of a class wherever it is written. -/
def label : TrafficClass → String
  | .classA => "class_a"
  | .classB => "class_b"
  | .classC => "class_c"
  | .beacon => "beacon"

/-- Classes are ordered as they stand in `all`. -/
def compare (a b : TrafficClass) : Ordering := Ord.compare a.index b.index

/-- Whether this is the beacon. -/
def isBeacon : TrafficClass → Bool
  | .beacon => true
  | _ => false

/-- Whether a target too far ahead is refused. Class C targets are chosen by the server or by the
search for a free slot, and beacons by the gateway itself, so only A and B are bounded. -/
def isAdvanceBounded : TrafficClass → Bool
  | .classA | .classB => true
  | .classC | .beacon => false

/-- Whether this class may come closer to a queued beacon than the beacon guard. -/
def mayApproachBeacon : TrafficClass → Bool
  | .classA | .classC => true
  | .classB | .beacon => false

theorem mem_all (c : TrafficClass) : c ∈ all := by cases c <;> decide

@[simp] theorem isBeacon_iff {c : TrafficClass} : c.isBeacon = true ↔ c = .beacon := by
  cases c <;> decide

theorem isAdvanceBounded_iff {c : TrafficClass} :
    c.isAdvanceBounded = true ↔ c = .classA ∨ c = .classB := by
  cases c <;> decide

theorem mayApproachBeacon_iff {c : TrafficClass} :
    c.mayApproachBeacon = true ↔ c = .classA ∨ c = .classC := by
  cases c <;> decide

end TrafficClass

/-! ## One value for each class -/

/-- A value for each traffic class. -/
structure PerClass (α : Type) where
  /-- the value of class A -/
  classA : α
  /-- the value of class B -/
  classB : α
  /-- the value of class C -/
  classC : α
  /-- the value of the beacon -/
  beacon : α
deriving DecidableEq, Repr, Inhabited

namespace PerClass

variable {α β : Type}

/-- The table whose value at each class is given by `f`. -/
def ofFn (f : TrafficClass → α) : PerClass α := ⟨f .classA, f .classB, f .classC, f .beacon⟩

/-- The value of a class. -/
def get (t : PerClass α) : TrafficClass → α
  | .classA => t.classA
  | .classB => t.classB
  | .classC => t.classC
  | .beacon => t.beacon

/-- The table with the value of one class changed by `f`. -/
def modify (t : PerClass α) (c : TrafficClass) (f : α → α) : PerClass α :=
  match c with
  | .classA => { t with classA := f t.classA }
  | .classB => { t with classB := f t.classB }
  | .classC => { t with classC := f t.classC }
  | .beacon => { t with beacon := f t.beacon }

/-- The values in the order of the classes. -/
def toList (t : PerClass α) : List α := TrafficClass.all.map t.get

/-- The sum of a count over all classes. -/
def total (t : PerClass UInt64) : UInt64 := t.toList.foldl (· + ·) 0

@[simp] theorem get_ofFn (f : TrafficClass → α) (c : TrafficClass) : (ofFn f).get c = f c := by
  cases c <;> rfl

@[simp] theorem get_modify_self (t : PerClass α) (c : TrafficClass) (f : α → α) :
    (t.modify c f).get c = f (t.get c) := by
  cases c <;> rfl

theorem get_modify_of_ne (t : PerClass α) {c d : TrafficClass} (f : α → α) (h : d ≠ c) :
    (t.modify c f).get d = t.get d := by
  cases c <;> cases d <;> first | rfl | exact absurd rfl h

/-- A table is its values. -/
theorem ext_get {t u : PerClass α} (h : ∀ c, t.get c = u.get c) : t = u := by
  obtain ⟨a, b, c, d⟩ := t
  obtain ⟨a', b', c', d'⟩ := u
  have ha : a = a' := h .classA
  have hb : b = b' := h .classB
  have hc : c = c' := h .classC
  have hd : d = d' := h .beacon
  rw [ha, hb, hc, hd]

end PerClass

end Downlink
