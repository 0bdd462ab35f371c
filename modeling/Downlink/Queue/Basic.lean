import Downlink.Airtime
import Downlink.Notice
import Downlink.Timing

/-!
# The queue and its entries

A queue holds the downlinks accepted for one radio, sorted by target. Since targets lie on a circle,
"sorted" means: as seen from a point one maximum advance behind the time the queue last heard of,
its **reference**. Entries that are put in or taken out leave a sorted queue behind; a reference
that moves in between does not sort by itself.

What never changes while a queue is in use is kept apart in a `Scheduler`, and every operation of a
queue is one of its scheduler's functions: it takes the queue as it is and gives back a `Step`, the
queue as it is then, with the answer and the notices.
-/

namespace Downlink

/-! ## Entries -/

/-- A downlink in the queue with the time it takes from the radio. -/
structure Entry where
  /-- the downlink, its target resolved -/
  packet : Packet
  /-- how long before its target it takes the radio -/
  preDelay : Span
  /-- how long after its target it takes the radio -/
  postDelay : Span
  /-- its class -/
  trafficClass : TrafficClass
deriving DecidableEq, Repr

namespace Entry

/-- When it is to be sent. -/
def target (e : Entry) : Counter := e.packet.target

/-- The time it takes from the radio. -/
def window (e : Entry) : Window := ⟨e.target, e.preDelay, e.postDelay⟩

/-- How far ahead of `now` its target lies. A target that has passed is nearly a turn ahead. -/
def lead (e : Entry) (now : Counter) : Span := e.target.since now

end Entry

/-! ## The queue -/

/-- What is queued, and what is remembered along with it. -/
structure Queue where
  /-- the entries in queue order -/
  entries : List Entry := []
  /-- how many of them are beacons -/
  beaconCount : Nat := 0
  /-- the time last heard of -/
  reference : Counter := ⟨0⟩
  /-- what became of the downlinks so far -/
  stats : Stats := {}
deriving DecidableEq, Repr, Inhabited

/-- Empties the queue. What became of earlier downlinks is still known. -/
def Queue.clear (q : Queue) : Queue := { stats := q.stats }

/-- The queue after an operation, the answer, and what was logged. -/
structure Step (α : Type) where
  /-- the answer -/
  result : α
  /-- the queue as it is now -/
  queue : Queue
  /-- what was logged, in order -/
  notices : List Notice := []

/-- What stays the same while a queue is in use. -/
structure Scheduler where
  /-- the constants of the time checks -/
  policy : Policy
  /-- the entries the queue can hold -/
  capacity : Nat
  /-- the entries that only beacons may take once the queue fills up -/
  reservedBeaconSlots : Nat
  /-- where times on air come from -/
  airtime : AirtimeModel

namespace Scheduler

/-- The scheduler of a configured queue. -/
def ofConfig (c : QueueConfig) (airtime : AirtimeModel) : Scheduler :=
  { policy := .ofConfig c, capacity := c.capacity.toNat
    reservedBeaconSlots := c.reservedBeaconSlots.toNat, airtime }

variable (s : Scheduler)

/-- Whether no entry fits into the queue any more. -/
def isFull (q : Queue) : Bool := s.capacity ≤ q.entries.length

/-- The point from which the entries are sorted. -/
def vantage (q : Queue) : Vantage := .lookingBack q.reference s.policy.maxAdvance

/-- The queue with its entries sorted by target. -/
def sorted (q : Queue) : Queue :=
  { q with entries := (s.vantage q).sort Entry.target q.entries }

/-- Puts an entry in. -/
def push (q : Queue) (e : Entry) : Queue :=
  s.sorted { q with
    entries := q.entries ++ [e]
    beaconCount := if e.trafficClass.isBeacon then q.beaconCount + 1 else q.beaconCount }

/-- Takes the entry at an index out. The last entry moves into its place before the queue is sorted
again, so an index that was found earlier means nothing afterwards. -/
def removeAt (q : Queue) (i : Nat) (h : i < q.entries.length) : Entry × Queue :=
  let e := q.entries[i]
  let last := q.entries.getLast (List.ne_nil_of_length_pos (Nat.zero_lt_of_lt h))
  (e, s.sorted { q with
    entries := q.entries.dropLast.set i last
    beaconCount := if e.trafficClass.isBeacon then q.beaconCount - 1 else q.beaconCount })

@[simp] theorem length_push (q : Queue) (e : Entry) :
    (s.push q e).entries.length = q.entries.length + 1 := by
  simp [push, sorted]

theorem length_removeAt (q : Queue) (i : Nat) (h : i < q.entries.length) :
    (s.removeAt q i h).2.entries.length + 1 = q.entries.length := by
  simp only [removeAt, sorted, Vantage.length_sort, List.length_set, List.length_dropLast]
  omega

end Scheduler

end Downlink
