import Downlink.Queue.Basic

/-!
# Admission

A downlink enters the queue in three stages. First it is looked at by itself: is there room, is it
well formed, may it be immediate? Then, if it is immediate, it gets a target: the first slot the
search finds. Last, the target is checked: is there still time to program the radio, is it not
implausibly far ahead, does nothing that is queued overlap it?

A downlink that fails comes back with the first reason found, and with the target it had then, so
that it can be handed in again.
-/

namespace Downlink

/-- A refused downlink, given back to the sender. -/
structure Rejection where
  /-- why it was refused -/
  reason : Refusal
  /-- the downlink, with a target if one was already found -/
  packet : Packet
deriving DecidableEq, Repr

/-- The wording of a rejection. -/
def Rejection.message (r : Rejection) : String := "downlink rejected: " ++ r.reason.message

namespace Scheduler

variable (s : Scheduler)

/-! ## The downlink by itself -/

/-- The entries the queue may hold before data is refused: beacons that are queued already use up
the slots kept for them. -/
def dataLimit (q : Queue) : Nat :=
  min (s.capacity - s.reservedBeaconSlots + q.beaconCount) s.capacity

/-- Why a downlink cannot enter the queue, whatever its target. -/
def entryRefusal? (q : Queue) (p : Packet) (c : TrafficClass) : Option Refusal :=
  if s.isFull q then some .full
  else if !p.isWellFormed || (p.mode = .immediate && c ≠ .classC) then some .invalid
  else if !c.isBeacon && 0 < s.reservedBeaconSlots && s.dataLimit q ≤ q.entries.length then
    some .full
  else none

/-! ## A slot for an immediate downlink -/

/-- Whether a queued entry stands in the way of a window that a downlink of class `incoming` would
take. -/
def overlaps (e : Entry) (w : Window) (incoming : TrafficClass) : Bool :=
  s.policy.collides w (s.policy.effective e.window e.trafficClass incoming)

/-- Walks through the entries and takes the first slot right behind an entry that does not overlap
the next one, or the slot behind the last. `slot` is the answer where there is no entry. -/
def slotBehind (pre post : Span) (c : TrafficClass) (slot : Counter) : List Entry → Counter
  | [] => slot
  | e :: rest =>
    let slot := s.policy.slotAfter e.window pre
    match rest with
    | [] => slot
    | next :: _ =>
      if s.overlaps next ⟨slot, pre, post⟩ c then slotBehind pre post c slot rest else slot

/-- The target for an immediate downlink: twice the look-ahead from now if nothing stands in the
way, else a slot behind some entry. -/
def asapSlot (q : Queue) (now : Counter) (pre post : Span) (c : TrafficClass) : Counter :=
  let slot := s.policy.asapTime now
  if q.entries.all fun e => !s.overlaps e ⟨slot, pre, post⟩ c then slot
  else s.slotBehind pre post c slot q.entries

/-- The downlink with its target: its own, or a free slot if it is immediate. -/
def resolve (q : Queue) (now : Counter) (p : Packet) (pre post : Span) (c : TrafficClass) :
    Packet :=
  match p.mode with
  | .timestamped => p
  | .immediate => { p with target := s.asapSlot q now pre post c, mode := .timestamped }

/-! ## The target -/

/-- Why a downlink cannot be sent at its target. Of several entries it overlaps, the first in the
queue tells the reason. -/
def targetRefusal? (q : Queue) (now : Counter) (w : Window) (c : TrafficClass) :
    Option Refusal :=
  let lead := w.time.since now
  if lead ≤ s.policy.minLead then some .tooLate
  else if c.isAdvanceBounded && s.policy.maxAdvance < lead then some .tooEarly
  else (q.entries.find? fun e => s.overlaps e w c).map fun e =>
    if e.trafficClass.isBeacon then .collisionBeacon else .collisionPacket

/-! ## Both -/

/-- The time on air of a submitted downlink. The model is only asked about well-formed ones. -/
def timeOnAir (p : Packet) : Span := if p.isWellFormed then s.airtime p else 0

/-- The entry a downlink becomes, or the downlink given back with the reason. -/
def admission (q : Queue) (now : Counter) (p : Packet) (c : TrafficClass) :
    Except Rejection Entry :=
  let pre := s.policy.preDelay c
  let post := s.policy.postDelay c (s.timeOnAir p)
  match s.entryRefusal? q p c with
  | some reason => .error ⟨reason, p⟩
  | none =>
    let p := s.resolve q now p pre post c
    match s.targetRefusal? q now ⟨p.target, pre, post⟩ c with
    | some reason => .error ⟨reason, p⟩
    | none => .ok ⟨p, pre, post, c⟩

/-- Hands a downlink in at `now`. It is accepted, and the answer is its target, or it is given
back. The queue hears of the time either way. -/
def enqueue (q : Queue) (now : Counter) (p : Packet) (c : TrafficClass) :
    Step (Except Rejection Counter) :=
  let q := { q with reference := now }
  match s.admission q now p c with
  | .ok e =>
    let q := s.push q e
    { result := .ok e.target
      queue := { q with stats := q.stats.recordEnqueued c }
      notices := [.enqueued c e.target (e.lead now) e.postDelay q.entries.length] }
  | .error r =>
    { result := .error r
      queue := { q with stats := q.stats.recordRejected c r.reason }
      notices := [.rejected c r.packet.target now r.reason] }

end Scheduler

end Downlink
