import Downlink.TrafficClass

/-!
# Refusals and statistics

What can go wrong with a request to a queue, and the counts kept of what became of the downlinks of
each class. Counts are words of 64 bits that start over after the largest.
-/

namespace Downlink

/-! ## Refusals -/

/-- Why a queue did not do what it was asked to. -/
inductive Refusal where
  /-- a malformed packet, a class that cannot be immediate, or an index out of range -/
  | invalid
  /-- no slot is left for this packet -/
  | full
  /-- nothing is queued -/
  | empty
  /-- too little time is left to program the radio -/
  | tooLate
  /-- the target lies implausibly far ahead -/
  | tooEarly
  /-- the packet overlaps queued data -/
  | collisionPacket
  /-- the packet overlaps a queued beacon -/
  | collisionBeacon
deriving DecidableEq, Repr, Inhabited

/-- The wording of a refusal. -/
def Refusal.message : Refusal → String
  | .invalid => "invalid request"
  | .full => "queue is full"
  | .empty => "queue is empty"
  | .tooLate => "too late to schedule packet"
  | .tooEarly => "too early to schedule packet"
  | .collisionPacket => "collides with a queued packet"
  | .collisionBeacon => "collides with a queued beacon"

/-! ## Counts -/

/-- How often packets of a class were refused, for each reason. -/
structure RefusalCounts where
  /-- malformed packets -/
  invalid : UInt64 := 0
  /-- no slot left -/
  full : UInt64 := 0
  /-- too little time left -/
  tooLate : UInt64 := 0
  /-- too far ahead -/
  tooEarly : UInt64 := 0
  /-- overlapping data -/
  collisionPacket : UInt64 := 0
  /-- overlapping a beacon -/
  collisionBeacon : UInt64 := 0
deriving DecidableEq, Repr, Inhabited

namespace RefusalCounts

/-- Counts one refusal. An empty queue refuses no packet and is not counted. -/
def record (n : RefusalCounts) : Refusal → RefusalCounts
  | .invalid => { n with invalid := n.invalid + 1 }
  | .full => { n with full := n.full + 1 }
  | .tooLate => { n with tooLate := n.tooLate + 1 }
  | .tooEarly => { n with tooEarly := n.tooEarly + 1 }
  | .collisionPacket => { n with collisionPacket := n.collisionPacket + 1 }
  | .collisionBeacon => { n with collisionBeacon := n.collisionBeacon + 1 }
  | .empty => n

/-- The count of one reason; an empty queue has none. -/
def get (n : RefusalCounts) : Refusal → UInt64
  | .invalid => n.invalid
  | .full => n.full
  | .tooLate => n.tooLate
  | .tooEarly => n.tooEarly
  | .collisionPacket => n.collisionPacket
  | .collisionBeacon => n.collisionBeacon
  | .empty => 0

/-- All refusals. -/
def total (n : RefusalCounts) : UInt64 :=
  n.invalid + n.full + n.tooLate + n.tooEarly + n.collisionPacket + n.collisionBeacon

end RefusalCounts

/-- What became of the downlinks of each class. -/
structure Stats where
  /-- accepted into the queue -/
  enqueued : PerClass UInt64 := .ofFn fun _ => 0
  /-- refused, by reason -/
  rejected : PerClass RefusalCounts := .ofFn fun _ => {}
  /-- dropped because their slot had passed -/
  staleDropped : PerClass UInt64 := .ofFn fun _ => 0
  /-- handed to the radio -/
  transmitted : PerClass UInt64 := .ofFn fun _ => 0
  /-- due, but not taken by the radio -/
  txFailed : PerClass UInt64 := .ofFn fun _ => 0
deriving DecidableEq, Repr, Inhabited

namespace Stats

/-- Counts an accepted downlink. -/
def recordEnqueued (s : Stats) (c : TrafficClass) : Stats :=
  { s with enqueued := s.enqueued.modify c (· + 1) }

/-- Counts a refused downlink. -/
def recordRejected (s : Stats) (c : TrafficClass) (reason : Refusal) : Stats :=
  { s with rejected := s.rejected.modify c (·.record reason) }

/-- Counts a downlink that missed its slot. -/
def recordStale (s : Stats) (c : TrafficClass) : Stats :=
  { s with staleDropped := s.staleDropped.modify c (· + 1) }

/-- Counts a downlink handed to the radio. -/
def recordTransmitted (s : Stats) (c : TrafficClass) : Stats :=
  { s with transmitted := s.transmitted.modify c (· + 1) }

/-- Counts a downlink the radio did not take. -/
def recordTxFailed (s : Stats) (c : TrafficClass) : Stats :=
  { s with txFailed := s.txFailed.modify c (· + 1) }

/-- All accepted downlinks. -/
def totalEnqueued (s : Stats) : UInt64 := s.enqueued.total

/-- All refused downlinks. -/
def totalRejected (s : Stats) : UInt64 :=
  (PerClass.ofFn fun c => (s.rejected.get c).total).total

/-- All downlinks handed to the radio. -/
def totalTransmitted (s : Stats) : UInt64 := s.transmitted.total

end Stats

end Downlink
