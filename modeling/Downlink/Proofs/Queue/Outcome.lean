import Downlink.Proofs.Queue.Contents

/-!
# How a downlink fares

A downlink that is handed in fares in one of two ways: it is accepted for a target, or it is refused
for a reason (`Scheduler.outcome`). Which it is hangs on two checks, one of the downlink by itself
and one of the target it aims at, and on nothing else (`Scheduler.outcome_eq`). Both checks look at
the entries and at the number of beacons, so how two downlinks fare at different times, or in a
different order, can be compared without going through the operation.
-/

namespace Downlink

namespace Scheduler

variable {s : Scheduler} {q : Queue} {now : Counter} {p : Packet} {c : TrafficClass}

/-! ## The downlink by itself -/

/-- There is room for a downlink of the class: the queue is not full, and data leaves free what is
kept for beacons. -/
def HasRoom (s : Scheduler) (q : Queue) (c : TrafficClass) : Prop :=
  q.entries.length < s.capacity ∧
    (c = .beacon ∨ s.reservedBeaconSlots = 0 ∨ q.entries.length < s.dataLimit q)

/-- Nothing by itself speaks against a downlink if there is room, it is well formed, and it is
immediate only in class C. -/
theorem entryRefusal?_eq_none_iff : s.entryRefusal? q p c = none ↔
    s.HasRoom q c ∧ p.isWellFormed = true ∧ (p.mode = .immediate → c = .classC) := by
  constructor
  · intro h
    have hformed := isWellFormed_of_entryRefusal? h
    rw [entryRefusal?] at h
    split at h
    · cases h
    next hfull =>
    split at h
    · cases h
    next hvalid =>
    split at h
    · cases h
    next hdata =>
    refine ⟨⟨?_, ?_⟩, hformed, ?_⟩
    · simpa [isFull] using hfull
    · simpa [Nat.pos_iff_ne_zero, imp_iff_not_or, or_assoc] using hdata
    · simpa [hformed] using hvalid
  · rintro ⟨⟨hlength, hdata⟩, hformed, hmode⟩
    rw [← TrafficClass.isBeacon_iff] at hdata
    exact entryRefusal?_eq_none (decide_eq_false (Nat.not_le.mpr hlength)) hformed hmode hdata

/-- The queue is full for a downlink if there is no room at all, or if the downlink is data that
could be queued and the limit on data is reached. -/
theorem entryRefusal?_eq_full_iff :
    s.entryRefusal? q p c = some .full ↔
      s.capacity ≤ q.entries.length ∨
        (p.isWellFormed = true ∧ (p.mode = .immediate → c = .classC)) ∧ c.isBeacon = false ∧
          0 < s.reservedBeaconSlots ∧ s.dataLimit q ≤ q.entries.length := by
  have hform : (!p.isWellFormed || (p.mode = .immediate && c ≠ .classC)) = false ↔
      p.isWellFormed = true ∧ (p.mode = .immediate → c = .classC) := by
    simp
  -- the tests in their order: whether there is room, whether it is valid, whether there is room
  -- for data
  rw [entryRefusal?, isFull, ← hform]
  split
  next hfull => exact iff_of_true rfl (.inl (of_decide_eq_true hfull))
  next hroom =>
    rw [decide_eq_true_iff] at hroom
    rw [or_iff_right hroom]
    split
    next hinvalid =>
      exact iff_of_false (by simp) fun h => Bool.false_ne_true (h.1.symm.trans hinvalid)
    next hvalid =>
      rw [Bool.not_eq_true] at hvalid
      rw [and_iff_right hvalid]
      split
      next hdata => simpa [and_assoc] using hdata
      next hdata => simpa [and_assoc] using hdata

/-- A downlink that is well formed, and immediate only in class C, is refused by itself when there
is no room for it, and then because the queue is full. -/
theorem entryRefusal?_of_not_hasRoom (hformed : p.isWellFormed = true)
    (hmode : p.mode = .immediate → c = .classC) (hroom : ¬s.HasRoom q c) :
    s.entryRefusal? q p c = some .full := by
  rw [entryRefusal?_eq_full_iff]
  by_cases hfull : s.capacity ≤ q.entries.length
  · exact .inl hfull
  · rw [HasRoom, and_iff_right (Nat.not_le.mp hfull), not_or, not_or, ← TrafficClass.isBeacon_iff,
      Bool.not_eq_true, Nat.not_lt] at hroom
    exact .inr ⟨⟨hformed, hmode⟩, hroom.1, Nat.pos_of_ne_zero hroom.2.1, hroom.2.2⟩

/-! ## The target -/

/-- What a downlink aims at when it is handed in: its own target, or the slot that the search finds
if it is immediate. -/
def aim (s : Scheduler) (q : Queue) (now : Counter) (p : Packet) (c : TrafficClass) : Counter :=
  (s.resolve q now p (s.policy.preDelay c) (s.policy.postDelay c (s.timeOnAir p)) c).target

theorem aim_of_timestamped (h : p.mode = .timestamped) : s.aim q now p c = p.target := by
  rw [aim, resolve, h]

theorem aim_of_immediate (h : p.mode = .immediate) : s.aim q now p c =
    s.asapSlot q now (s.policy.preDelay c) (s.policy.postDelay c (s.timeOnAir p)) c := by
  rw [aim, resolve, h]

/-- No target is refused for what speaks against a downlink by itself. -/
theorem ne_of_targetRefusal? {w : Window} {reason : Refusal}
    (h : s.targetRefusal? q now w c = some reason) : reason ≠ .full ∧ reason ≠ .invalid := by
  rcases reason_of_targetRefusal? h with rfl | ⟨rfl, -⟩ | rfl | rfl <;> simp

/-- How a downlink that has room fares with a target. -/
def targetOutcome (s : Scheduler) (q : Queue) (now target : Counter) (c : TrafficClass)
    (timeOnAir : Span) : Except Refusal Counter :=
  match s.targetRefusal? q now (s.policy.window target c timeOnAir) c with
  | some reason => .error reason
  | none => .ok target

/-! ## Both -/

/-- How a downlink fares that is handed in: it gets a target, or it is refused for a reason. -/
def outcome (s : Scheduler) (q : Queue) (now : Counter) (p : Packet) (c : TrafficClass) :
    Except Refusal Counter :=
  (s.enqueue q now p c).result.mapError (·.reason)

theorem outcome_eq (s : Scheduler) (q : Queue) (now : Counter) (p : Packet) (c : TrafficClass) :
    s.outcome q now p c =
      match s.entryRefusal? q p c with
      | some reason => .error reason
      | none => s.targetOutcome q now (s.aim q now p c) c (s.timeOnAir p) := by
  -- neither check looks at the time last heard of
  have hentry : s.entryRefusal? { q with reference := now } p c = s.entryRefusal? q p c := rfl
  have htarget : s.targetRefusal? { q with reference := now } now
      ⟨(s.resolve { q with reference := now } now p (s.policy.preDelay c)
        (s.policy.postDelay c (s.timeOnAir p)) c).target, s.policy.preDelay c,
        s.policy.postDelay c (s.timeOnAir p)⟩ c =
      s.targetRefusal? q now (s.policy.window (s.aim q now p c) c (s.timeOnAir p)) c := rfl
  simp only [outcome, enqueue, admission, hentry, htarget, targetOutcome]
  cases s.entryRefusal? q p c with
  | some reason => rfl
  | none =>
    cases s.targetRefusal? q now (s.policy.window (s.aim q now p c) c (s.timeOnAir p)) c with
    | some reason => rfl
    | none => rfl

/-- A downlink is accepted for a target just when that is how it fares. -/
theorem enqueue_eq_ok_iff {target : Counter} :
    (s.enqueue q now p c).result = .ok target ↔ s.outcome q now p c = .ok target := by
  rw [outcome]
  cases (s.enqueue q now p c).result <;> simp [Except.mapError]

/-- A downlink is given back for a reason just when it is refused for that. -/
theorem enqueue_eq_error_iff {reason : Refusal} :
    (∃ back, (s.enqueue q now p c).result = .error ⟨reason, back⟩) ↔
      s.outcome q now p c = .error reason := by
  rw [outcome]
  cases (s.enqueue q now p c).result with
  | ok target => simp [Except.mapError]
  | error r =>
    obtain ⟨reason', back⟩ := r
    simp [Except.mapError]

/-- A downlink is accepted for what it aims at, if there is room for it and the target stands. -/
theorem outcome_eq_ok_iff {target : Counter} : s.outcome q now p c = .ok target ↔
    s.entryRefusal? q p c = none ∧ s.aim q now p c = target ∧
      s.targetRefusal? q now (s.policy.window target c (s.timeOnAir p)) c = none := by
  rw [outcome_eq]
  cases s.entryRefusal? q p c with
  | some reason => exact ⟨nofun, nofun⟩
  | none =>
    simp only [targetOutcome, true_and]
    constructor
    · intro h
      split at h
      · cases h
      next hnone =>
        obtain rfl := Except.ok.inj h
        exact ⟨rfl, hnone⟩
    · rintro ⟨rfl, hnone⟩
      rw [hnone]

/-- A downlink that is refused by itself fares so whatever it aims at. -/
theorem outcome_of_entryRefusal? {reason : Refusal} (h : s.entryRefusal? q p c = some reason) :
    s.outcome q now p c = .error reason := by
  rw [outcome_eq, h]

/-- Any other fares as its target does. -/
theorem outcome_of_entry (h : s.entryRefusal? q p c = none) :
    s.outcome q now p c = s.targetOutcome q now (s.aim q now p c) c (s.timeOnAir p) := by
  rw [outcome_eq, h]

/-- A downlink fares as one for which the queue is full just when it is that by itself. Its target
has nothing to do with it. -/
theorem outcome_eq_full_iff :
    s.outcome q now p c = .error .full ↔ s.entryRefusal? q p c = some .full := by
  rcases hentry : s.entryRefusal? q p c with - | reason
  · rw [outcome_of_entry hentry, targetOutcome]
    refine iff_of_false ?_ (by simp)
    intro h
    split at h
    next reason htarget =>
      exact (ne_of_targetRefusal? htarget).1 (Except.error.inj h)
    next => cases h
  · rw [outcome_of_entryRefusal? hentry, Except.error.injEq, Option.some.injEq]

/-! ## With a target of its own -/

/-- A downlink that is handed in is accepted. -/
def Accepts (s : Scheduler) (q : Queue) (now : Counter) (p : Packet) (c : TrafficClass) : Prop :=
  ∃ target, (s.enqueue q now p c).result = .ok target

instance (s : Scheduler) (q : Queue) (now : Counter) (p : Packet) (c : TrafficClass) :
    Decidable (s.Accepts q now p c) :=
  match h : (s.enqueue q now p c).result with
  | .ok target => isTrue ⟨target, h⟩
  | .error _ => isFalse fun ⟨_, htarget⟩ => nomatch h.symm.trans htarget

/-- What of a downlink and its target does not depend on the queue: a radio could send it, there is
time left for that, and it is not too early if its class is bounded. -/
def Timely (s : Scheduler) (now : Counter) (p : Packet) (c : TrafficClass) : Prop :=
  p.isWellFormed = true ∧ s.policy.minLead < p.target.since now ∧
    (c.isAdvanceBounded = true → p.target.since now ≤ s.policy.maxAdvance)

/-- The entry that a downlink with a target of its own becomes. -/
def timed (s : Scheduler) (p : Packet) (c : TrafficClass) : Entry :=
  ⟨p, s.policy.preDelay c, s.policy.postDelay c (s.timeOnAir p), c⟩

theorem Admitted.eq_timed {e : Entry} (h : s.Admitted q now p c e)
    (hmode : p.mode = .timestamped) : e = s.timed p c := by
  obtain ⟨packet, pre, post, trafficClass⟩ := e
  obtain rfl : packet = p := by
    have hpacket := h.packet
    rwa [resolve, hmode] at hpacket
  obtain rfl : pre = _ := h.preDelay
  obtain rfl : post = _ := h.postDelay
  obtain rfl : trafficClass = _ := h.trafficClass
  rfl

/-- It is accepted if there is room, it comes in time, and it overlaps nothing that is queued. -/
theorem accepts_iff (hmode : p.mode = .timestamped) : s.Accepts q now p c ↔
    s.HasRoom q c ∧ s.Timely now p c ∧
      ∀ e ∈ q.entries, s.overlaps e (s.timed p c).window c = false := by
  simp only [Accepts, enqueue_eq_ok_iff, outcome_eq_ok_iff, aim_of_timestamped hmode,
    entryRefusal?_eq_none_iff, hmode, targetRefusal?_eq_none]
  constructor
  · rintro ⟨_, ⟨hroom, hformed, -⟩, rfl, hlate, hearly, hclear⟩
    exact ⟨hroom, ⟨hformed, hlate, hearly⟩, hclear⟩
  · rintro ⟨hroom, ⟨hformed, hlate, hearly⟩, hclear⟩
    exact ⟨p.target, ⟨hroom, hformed, nofun⟩, rfl, hlate, hearly, hclear⟩

end Scheduler

end Downlink
