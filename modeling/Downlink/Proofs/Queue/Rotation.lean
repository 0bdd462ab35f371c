import Downlink.Proofs.Queue.Request

/-!
# Rotating the counter

Turning the whole circle by `c` moves every reading `c` ahead. No distance between two readings
changes by that, and distances are all a queue looks at, so an operation on rotated data gives its
rotated answer. Each definition has one lemma that says so, from the windows up to the operations,
and each lemma rests on those of the definitions used.

A model of times on air may look at the target, and then the answers may change. What is said here
is said for those that look at nothing but the frame (`AirtimeModel.FrameOnly`), as the modem does.
-/

namespace Downlink

/-! ## Readings and windows -/

namespace Counter

@[simp] theorem after_since_after (a b : Counter) (c : Span) :
    (a.after c).since (b.after c) = a.since b := by
  change a.ticks + c - (b.ticks + c) = a.ticks - b.ticks
  grind

theorem after_right_comm (t : Counter) (c d : Span) :
    (t.after c).after d = (t.after d).after c := by
  apply congrArg Counter.mk
  change t.ticks + c + d = t.ticks + d + c
  grind

theorem before_after (t : Counter) (c d : Span) :
    (t.after c).before d = (t.before d).after c := by
  apply congrArg Counter.mk
  change t.ticks + c - d = t.ticks - d + c
  grind

end Counter

/-- The window on the rotated circle. -/
def Window.rotate (c : Span) (w : Window) : Window := { w with time := w.time.after c }

namespace Policy

variable (p : Policy) (c : Span)

theorem effective_rotate (w : Window) (queued incoming : TrafficClass) :
    p.effective (w.rotate c) queued incoming = (p.effective w queued incoming).rotate c := by
  simp only [effective]
  split <;> rfl

theorem collides_rotate (a b : Window) :
    p.collides (a.rotate c) (b.rotate c) = p.collides a b := by
  simp only [collides, Window.rotate, Counter.after_since_after]

theorem asapTime_rotate (now : Counter) :
    p.asapTime (now.after c) = (p.asapTime now).after c := now.after_right_comm c _

theorem slotAfter_rotate (w : Window) (pre : Span) :
    p.slotAfter (w.rotate c) pre = (p.slotAfter w pre).after c := w.time.after_right_comm c _

end Policy

/-- The order of the items does not depend on the readings themselves, only on how far past the
vantage point they lie. -/
theorem Vantage.sort_map {α β : Type} {v v' : Vantage} {time : α → Counter}
    {time' : β → Counter} (f : α → β)
    (hf : ∀ x, v'.distance (time' (f x)) = v.distance (time x)) (xs : List α) :
    v'.sort time' (xs.map f) = (v.sort time xs).map f := by
  have hinsert : ∀ (x : α) (ys : List α),
      v'.insert time' (f x) (ys.map f) = (v.insert time x ys).map f := by
    intro x ys
    induction ys with
    | nil => rfl
    | cons y ys ih =>
      rw [List.map_cons, insert, insert, hf, hf, ih]
      split <;> rfl
  induction xs with
  | nil => rfl
  | cons x xs ih =>
    change v'.insert time' (f x) (v'.sort time' (xs.map f)) = _
    rw [ih, hinsert]
    rfl

/-! ## Downlinks and entries -/

/-- The model of times on air looks at nothing but what is sent: the settings and the bytes. -/
def AirtimeModel.FrameOnly (airtime : AirtimeModel) : Prop :=
  ∀ p p' : Packet, p.modulation = p'.modulation → p.payload = p'.payload → airtime p = airtime p'

/-- The modem's times are such a model. -/
theorem AirtimeModel.frameOnly_modem : AirtimeModel.modem.FrameOnly := by
  intro p p' hmodulation hpayload
  rw [modem, modem, Packet.size, Packet.size, hmodulation, hpayload]

/-- So is one time for all. -/
theorem AirtimeModel.frameOnly_fixed (d : Span) : (AirtimeModel.fixed d).FrameOnly :=
  fun _ _ _ _ => rfl

/-- The packet with its target rotated. -/
def Packet.rotate (c : Span) (p : Packet) : Packet := { p with target := p.target.after c }

/-- A packet as it is handed in: while it is immediate, it has no target to rotate. -/
def Packet.rotateTimed (c : Span) (p : Packet) : Packet :=
  match p.mode with
  | .immediate => p
  | .timestamped => p.rotate c

/-- The entry with its target rotated. -/
def Entry.rotate (c : Span) (e : Entry) : Entry := { e with packet := e.packet.rotate c }

/-- The rejection with the target of the packet rotated, if it has one. -/
def Rejection.rotate (c : Span) (r : Rejection) : Rejection :=
  { r with packet := r.packet.rotateTimed c }

/-- The queue on the rotated circle. -/
def Queue.rotate (c : Span) (q : Queue) : Queue :=
  { q with entries := q.entries.map (Entry.rotate c), reference := q.reference.after c }

theorem Queue.length_rotate (c : Span) (q : Queue) :
    (q.rotate c).entries.length = q.entries.length := List.length_map ..

theorem Queue.isEmpty_rotate (c : Span) (q : Queue) :
    (q.rotate c).entries.isEmpty = q.entries.isEmpty := List.isEmpty_map ..

theorem Queue.getElem_rotate (c : Span) (q : Queue) {i : Nat} (h : i < q.entries.length)
    (h' : i < (q.rotate c).entries.length) :
    (q.rotate c).entries[i] = q.entries[i].rotate c := List.getElem_map ..

@[simp] theorem Entry.lead_rotate (c : Span) (e : Entry) (now : Counter) :
    (e.rotate c).lead (now.after c) = e.lead now := Counter.after_since_after ..

theorem Packet.mode_rotateTimed (c : Span) (p : Packet) : (p.rotateTimed c).mode = p.mode := by
  rw [rotateTimed]
  split <;> rfl

theorem Packet.isWellFormed_rotateTimed (c : Span) (p : Packet) :
    (p.rotateTimed c).isWellFormed = p.isWellFormed := by
  rw [rotateTimed]
  split <;> rfl

theorem AirtimeModel.FrameOnly.rotateTimed {airtime : AirtimeModel} (h : airtime.FrameOnly)
    (c : Span) (p : Packet) : airtime (p.rotateTimed c) = airtime p := by
  rw [Packet.rotateTimed]
  split
  · rfl
  · exact h _ _ rfl rfl

namespace Scheduler

variable (s : Scheduler) (c : Span) (q : Queue) (now : Counter)

/-! ## The order of a queue -/

theorem sorted_rotate : s.sorted (q.rotate c) = (s.sorted q).rotate c := by
  have hsort : (s.vantage (q.rotate c)).sort Entry.target (q.entries.map (Entry.rotate c)) =
      ((s.vantage q).sort Entry.target q.entries).map (Entry.rotate c) := by
    refine Vantage.sort_map _ (fun e => ?_) _
    change (e.target.after c).since ((q.reference.after c).before s.policy.maxAdvance) =
      e.target.since (q.reference.before s.policy.maxAdvance)
    rw [Counter.before_after, Counter.after_since_after]
  change Queue.mk ((s.vantage (q.rotate c)).sort Entry.target (q.entries.map (Entry.rotate c)))
    q.beaconCount (q.reference.after c) q.stats = _
  rw [hsort]
  rfl

theorem push_rotate (e : Entry) : s.push (q.rotate c) (e.rotate c) = (s.push q e).rotate c := by
  rw [push, push, ← sorted_rotate]
  simp only [Queue.rotate, List.map_append, List.map_cons, List.map_nil]
  rfl

theorem removeAt_rotate (i : Nat) (h : i < q.entries.length)
    (h' : i < (q.rotate c).entries.length) :
    s.removeAt (q.rotate c) i h' =
      ((s.removeAt q i h).1.rotate c, (s.removeAt q i h).2.rotate c) := by
  simp only [removeAt, q.getElem_rotate c h, ← sorted_rotate]
  simp only [Queue.rotate, List.map_set, List.map_dropLast, List.getLast_map]
  rfl

/-! ## Admission -/

theorem overlaps_rotate (e : Entry) (w : Window) (k : TrafficClass) :
    s.overlaps (e.rotate c) (w.rotate c) k = s.overlaps e w k := by
  change s.policy.collides (w.rotate c) (s.policy.effective (e.window.rotate c) _ k) = _
  rw [Policy.effective_rotate, Policy.collides_rotate]
  rfl

/-- The walk for a free slot. The induction is on the entries still ahead; the slot is carried
along. -/
theorem slotBehind_rotate (pre post : Span) (k : TrafficClass) (slot : Counter)
    (es : List Entry) :
    s.slotBehind pre post k (slot.after c) (es.map (Entry.rotate c)) =
      (s.slotBehind pre post k slot es).after c := by
  induction es generalizing slot with
  | nil => rfl
  | cons e rest ih =>
    have hslot : s.policy.slotAfter (e.rotate c).window pre =
        (s.policy.slotAfter e.window pre).after c := s.policy.slotAfter_rotate c e.window pre
    cases rest with
    | nil => exact hslot
    | cons next rest =>
      have hover : s.overlaps (next.rotate c)
          ⟨(s.policy.slotAfter e.window pre).after c, pre, post⟩ k =
          s.overlaps next ⟨s.policy.slotAfter e.window pre, pre, post⟩ k :=
        s.overlaps_rotate c next ⟨_, pre, post⟩ k
      rw [List.map_cons, List.map_cons, slotBehind_cons_cons, slotBehind_cons_cons, hslot, hover,
        ← List.map_cons, ih]
      split <;> rfl

theorem asapSlot_rotate (pre post : Span) (k : TrafficClass) :
    s.asapSlot (q.rotate c) (now.after c) pre post k = (s.asapSlot q now pre post k).after c := by
  have hover : ∀ e, s.overlaps (Entry.rotate c e) ⟨(s.policy.asapTime now).after c, pre, post⟩ k =
      s.overlaps e ⟨s.policy.asapTime now, pre, post⟩ k :=
    fun e => s.overlaps_rotate c e ⟨_, pre, post⟩ k
  simp only [asapSlot, Queue.rotate, s.policy.asapTime_rotate, List.all_map, Function.comp_def,
    hover, slotBehind_rotate]
  split <;> rfl

theorem resolve_rotate (p : Packet) (pre post : Span) (k : TrafficClass) :
    s.resolve (q.rotate c) (now.after c) (p.rotateTimed c) pre post k =
      (s.resolve q now p pre post k).rotate c := by
  rcases hmode : p.mode with - | -
  · -- handed in as it is, but the slot it gets is the rotated one
    have hp : p.rotateTimed c = p := by rw [Packet.rotateTimed, hmode]
    simp only [resolve, hp, hmode, asapSlot_rotate]
    rfl
  · have hp : p.rotateTimed c = p.rotate c := by rw [Packet.rotateTimed, hmode]
    have hmode' : (p.rotate c).mode = .timestamped := hmode
    simp only [resolve, hp, hmode, hmode']

/-- What was resolved has a target. -/
theorem mode_resolve (p : Packet) (pre post : Span) (k : TrafficClass) :
    (s.resolve q now p pre post k).mode = .timestamped := by
  rcases hmode : p.mode with - | - <;> simp only [resolve, hmode]

theorem entryRefusal?_rotate (p : Packet) (k : TrafficClass) :
    s.entryRefusal? (q.rotate c) (p.rotateTimed c) k = s.entryRefusal? q p k := by
  simp only [entryRefusal?, isFull, dataLimit, Queue.rotate, List.length_map,
    Packet.isWellFormed_rotateTimed, Packet.mode_rotateTimed]
  rfl

theorem targetRefusal?_rotate (w : Window) (k : TrafficClass) :
    s.targetRefusal? (q.rotate c) (now.after c) (w.rotate c) k = s.targetRefusal? q now w k := by
  have hfind : ((q.rotate c).entries.find? fun e => s.overlaps e (w.rotate c) k) =
      (q.entries.find? fun e => s.overlaps e w k).map (Entry.rotate c) := by
    simp only [Queue.rotate, List.find?_map, Function.comp_def, overlaps_rotate]
  simp only [targetRefusal?, hfind, Option.map_map]
  simp only [Window.rotate, Counter.after_since_after]
  rfl

theorem admission_rotate (hair : s.airtime.FrameOnly) (p : Packet) (k : TrafficClass) :
    s.admission (q.rotate c) (now.after c) (p.rotateTimed c) k =
      ((s.admission q now p k).map (Entry.rotate c)).mapError (Rejection.rotate c) := by
  have htime : s.timeOnAir (p.rotateTimed c) = s.timeOnAir p := by
    rw [timeOnAir, timeOnAir, Packet.isWellFormed_rotateTimed, hair.rotateTimed]
  rw [admission, admission, htime, entryRefusal?_rotate]
  rcases s.entryRefusal? q p k with _ | reason
  · have htarget (pre post : Span) : s.targetRefusal? (q.rotate c) (now.after c)
        ⟨((s.resolve q now p pre post k).rotate c).target, pre, post⟩ k =
        s.targetRefusal? q now ⟨(s.resolve q now p pre post k).target, pre, post⟩ k :=
      s.targetRefusal?_rotate c q now ⟨_, pre, post⟩ k
    simp only [resolve_rotate, htarget]
    split
    · simp only [Except.map, Except.mapError, Rejection.rotate, Packet.rotateTimed, mode_resolve]
    · rfl
  · rfl

/-! ## Selection -/

theorem findStale_rotate :
    (q.rotate c).entries.findIdx? (s.isStale (now.after c)) =
      q.entries.findIdx? (s.isStale now) := by
  simp only [Queue.rotate, List.findIdx?_map, Function.comp_def, isStale, Entry.lead_rotate]
  rfl

/-- The stale entries are the same ones, and they go in the same order. -/
theorem dropStale_rotate :
    s.dropStale (now.after c) (q.rotate c) =
      ((s.dropStale now q).1.map (Entry.rotate c), (s.dropStale now q).2.rotate c) := by
  induction q using dropStale.induct s now with
  | case1 q h =>
    rw [dropStale_of_none h, dropStale_of_none ((s.findStale_rotate c q now).trans h)]
    rfl
  | case2 q i h hi gone ih =>
    have hi' : i < (q.rotate c).entries.length := by
      rw [Queue.length_rotate]
      exact hi
    rw [dropStale_of_some h hi, dropStale_of_some ((s.findStale_rotate c q now).trans h) hi',
      removeAt_rotate s c q i hi hi', ih, q.getElem_rotate c hi]
    rfl

theorem due?_rotate : s.due? (q.rotate c) (now.after c) = s.due? q now := by
  simp only [due?, Queue.rotate, List.findIdx?_map, List.all_map, Function.comp_def,
    Entry.lead_rotate]

theorem countStale_rotate (gone : List Entry) :
    countStale (q.rotate c) (gone.map (Entry.rotate c)) = (countStale q gone).rotate c := by
  simp only [countStale, List.foldl_map]
  rfl

/-! ## The operations -/

/-- The rotated queue hears of the rotated time. -/
theorem rotate_hear : { q.rotate c with reference := now.after c } =
    Queue.rotate c { q with reference := now } := rfl

theorem enqueue_rotate (hair : s.airtime.FrameOnly) (p : Packet) (k : TrafficClass) :
    (s.enqueue (q.rotate c) (now.after c) (p.rotateTimed c) k).result =
        ((s.enqueue q now p k).result.map (·.after c)).mapError (Rejection.rotate c) ∧
      (s.enqueue (q.rotate c) (now.after c) (p.rotateTimed c) k).queue =
        (s.enqueue q now p k).queue.rotate c := by
  have hadm := s.admission_rotate c { q with reference := now } now hair p k
  rw [enqueue, enqueue, rotate_hear, hadm]
  rcases s.admission { q with reference := now } now p k with r | e
  · exact ⟨rfl, rfl⟩
  · refine ⟨rfl, ?_⟩
    simp only [Except.map, Except.mapError, push_rotate]
    rfl

theorem dequeue_rotate (i : Nat) :
    (s.dequeue (q.rotate c) i).result = (s.dequeue q i).result.map (Entry.rotate c) ∧
      (s.dequeue (q.rotate c) i).queue = (s.dequeue q i).queue.rotate c := by
  have hlen := q.length_rotate c
  rw [dequeue, dequeue, q.isEmpty_rotate c]
  by_cases hcap : s.capacity ≤ i
  · rw [if_pos hcap, if_pos hcap]
    exact ⟨rfl, rfl⟩
  rw [if_neg hcap, if_neg hcap]
  by_cases hq : q.entries.isEmpty = true
  · rw [if_pos hq, if_pos hq]
    exact ⟨rfl, rfl⟩
  rw [if_neg hq, if_neg hq]
  by_cases hi : i < q.entries.length
  · rw [dif_pos hi, dif_pos (hlen.symm ▸ hi), removeAt_rotate s c q i hi]
    exact ⟨rfl, rfl⟩
  · rw [dif_neg hi, dif_neg (hlen.symm ▸ hi)]
    exact ⟨rfl, rfl⟩

theorem peek_rotate :
    (s.peek (q.rotate c) (now.after c)).result = (s.peek q now).result ∧
      (s.peek (q.rotate c) (now.after c)).queue = (s.peek q now).queue.rotate c := by
  rw [peek, peek, q.isEmpty_rotate c]
  by_cases hq : q.entries.isEmpty = true
  · rw [if_pos hq, if_pos hq]
    exact ⟨rfl, rfl⟩
  · rw [if_neg hq, if_neg hq]
    simp only [rotate_hear, dropStale_rotate, due?_rotate, countStale_rotate, and_self]

theorem takeDue_rotate :
    (s.takeDue (q.rotate c) (now.after c)).result =
        (s.takeDue q now).result.map (Option.map (Entry.rotate c)) ∧
      (s.takeDue (q.rotate c) (now.after c)).queue = (s.takeDue q now).queue.rotate c := by
  have hempty : (q.rotate c).entries = [] ↔ q.entries = [] := List.map_eq_nil_iff
  rcases s.takeDue_cases q now with ⟨hq, hres, hqueue⟩ | ⟨hq, gone, left, hdrop, -, h⟩ <;>
    rcases s.takeDue_cases (q.rotate c) (now.after c) with
      ⟨hq', hres', hqueue'⟩ | ⟨hq', gone', left', hdrop', -, h'⟩
  · rw [hres, hqueue, hres', hqueue']
    exact ⟨rfl, rfl⟩
  · exact absurd (hempty.mpr hq) hq'
  · exact absurd (hempty.mp hq') hq
  -- both queues are parted alike, so the same entry is due in both
  have hparts := s.dropStale_rotate c { q with reference := now } now
  rw [← rotate_hear, hdrop', hdrop] at hparts
  obtain ⟨rfl, rfl⟩ := Prod.mk.inj hparts
  rw [due?_rotate] at h'
  rcases h with ⟨hdue, hres, hqueue⟩ | ⟨i, hi, hdue, hres, hqueue⟩ <;>
    rcases h' with ⟨hdue', hres', hqueue'⟩ | ⟨i', hi', hdue', hres', hqueue'⟩
  · rw [hres, hqueue, hres', hqueue', countStale_rotate]
    exact ⟨rfl, rfl⟩
  · rw [hdue] at hdue'
    cases hdue'
  · rw [hdue] at hdue'
    cases hdue'
  · obtain rfl : i = i' := Option.some.inj (hdue.symm.trans hdue')
    rw [hres, hqueue, hres', hqueue', removeAt_rotate s c left i hi, countStale_rotate,
      left.getElem_rotate c hi]
    exact ⟨rfl, rfl⟩

end Scheduler

end Downlink
