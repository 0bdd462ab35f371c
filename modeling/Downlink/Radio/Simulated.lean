import Downlink.Airtime
import Downlink.Radio.Basic

/-!
# The simulated radio

A radio that has room for one frame at a time. A frame waits from the moment it is programmed until
its target, and is on air from there until its end; all three are judged by how long after the
programming they come, so that a frame whose target had already passed counts as started at once. A
frame that still waits is replaced by the next one, a frame on air is not.

It remembers the latest frames only, and counts those that were not replaced.
-/

namespace Downlink

/-- A frame the radio took. -/
structure Frame where
  /-- the id of its packet -/
  id : UInt64
  /-- when it starts -/
  target : Counter
  /-- when it has left the air -/
  finish : Counter
  /-- when the radio took it -/
  programmed : Counter
deriving DecidableEq, Repr

namespace Frame

/-- How long after its programming the frame comes to a reading, which is no time at all for a
reading that lies in the past. -/
def offset (f : Frame) (t : Counter) : Span :=
  let d := t.since f.programmed
  if 2147483647 < d then 0 else d

/-- What the radio does with the frame at `now`. -/
def statusAt (f : Frame) (now : Counter) : TxStatus :=
  let elapsed := now.since f.programmed
  if elapsed < f.offset f.target then .scheduled
  else if elapsed < f.offset f.finish then .emitting
  else .free

end Frame

/-- A radio in simulation. -/
structure SimulatedRadio where
  /-- the reading of its counter -/
  clock : Counter
  /-- where times on air come from -/
  airtime : AirtimeModel
  /-- the latest frames, oldest first -/
  history : List Frame := []
  /-- counts the frames, those left out that were replaced while they waited -/
  counted : UInt64 := 0

namespace SimulatedRadio

/-- How many frames are remembered. -/
def historyCapacity : Nat := 1024

/-- How many frames it counted. -/
def framesSent (r : SimulatedRadio) : Nat := r.counted.toNat

/-- What it is doing at `now`, which its latest frame decides. -/
def statusAt (r : SimulatedRadio) (now : Counter) : TxStatus :=
  match r.history.getLast? with
  | none => .free
  | some f => f.statusAt now

/-- The radio without the frame that is about to be replaced. -/
def withdraw (r : SimulatedRadio) : SimulatedRadio :=
  { r with history := r.history.dropLast, counted := r.counted - 1 }

/-- Remembers a frame, and forgets the oldest if there is no room. -/
def record (r : SimulatedRadio) (f : Frame) : SimulatedRadio :=
  let kept := if r.history.length = historyCapacity then r.history.drop 1 else r.history
  { r with history := kept ++ [f], counted := r.counted + 1 }

/-- The frame a packet becomes if the radio takes it now. -/
def frame (r : SimulatedRadio) (p : Packet) : Frame :=
  ⟨p.id, p.target, p.target.after (r.airtime p), r.clock⟩

/-- Takes a packet unless a frame is on air. -/
def send (r : SimulatedRadio) (p : Packet) : Except RadioError Unit × SimulatedRadio :=
  match r.statusAt r.clock with
  | .emitting => (.error .busy, r)
  | .scheduled => (.ok (), r.withdraw.record (r.frame p))
  | .free => (.ok (), r.record (r.frame p))

instance : Radio SimulatedRadio where
  now := clock
  status := fun r => r.statusAt r.clock
  send := send

end SimulatedRadio

end Downlink
