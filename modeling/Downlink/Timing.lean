import Downlink.Config
import Downlink.TrafficClass

/-!
# Timing policy

A scheduled downlink occupies the radio for a **window**: from some time before its target, when the
hardware is armed, until some time after it, when the frame has left the air. The policy says how
long these two times are for each class, how late and how early a downlink may be asked for, and
when two windows, kept apart by a margin, overlap.

A beacon's window begins with a long guard. Towards classes A and C a beacon that is already queued
gives the guard up (`Policy.effective`), so they may come as close to it as the hardware allows.
-/

namespace Downlink

/-- The time that a transmission takes from the radio. -/
structure Window where
  /-- the target -/
  time : Counter
  /-- how long before the target the radio is taken -/
  pre : Span
  /-- how long after the target the radio is taken -/
  post : Span
deriving DecidableEq, Repr

/-- The constants of all time checks. -/
structure Policy where
  /-- time the radio needs to start a frame -/
  startDelay : Span
  /-- how far ahead of its target an entry is due -/
  jitDelay : Span
  /-- gap kept between two transmissions -/
  margin : Span
  /-- how far ahead a bounded class may be scheduled -/
  maxAdvance : Span
  /-- quiet time before a beacon -/
  beaconGuard : Span
  /-- time that is kept for a beacon itself -/
  beaconReserved : Span
deriving DecidableEq, Repr

namespace Policy

/-- The policy of a configured queue. -/
def ofConfig (c : QueueConfig) : Policy :=
  { startDelay := c.startDelay, jitDelay := c.jitDelay, margin := c.margin
    maxAdvance := c.maxAdvance, beaconGuard := c.beaconGuard, beaconReserved := c.beaconReserved }

variable (p : Policy)

/-! ## Windows -/

/-- How long before its target a downlink of the class takes the radio. -/
def preDelay : TrafficClass → Span
  | .classA | .classB | .classC => p.startDelay.plus p.jitDelay
  | .beacon => (p.startDelay.plus p.beaconGuard).plus p.jitDelay

/-- How long after its target it takes the radio: data for its time on air, a beacon for the time
kept for beacons. -/
def postDelay (c : TrafficClass) (timeOnAir : Span) : Span :=
  match c with
  | .classA | .classB | .classC => timeOnAir
  | .beacon => p.beaconReserved

/-- The window of a downlink. -/
def window (time : Counter) (c : TrafficClass) (timeOnAir : Span) : Window :=
  ⟨time, p.preDelay c, p.postDelay c timeOnAir⟩

/-- The window of a queued downlink as one of class `incoming` meets it: a beacon gives up its
guard to the classes that may approach it. -/
def effective (queued : Window) (queuedClass incoming : TrafficClass) : Window :=
  if queuedClass.isBeacon && incoming.mayApproachBeacon then { queued with pre := p.startDelay }
  else queued

/-- Whether two windows overlap or come closer than the margin. Going round the circle from one
target to the other, the first frame must have ended and the margin have passed before the second
one's window begins, whichever way round one goes. The sums are exact. -/
def collides (a b : Window) : Bool :=
  (a.time.since b.time).toNat ≤ a.pre.toNat + b.post.toNat + p.margin.toNat ||
    (b.time.since a.time).toNat ≤ b.pre.toNat + a.post.toNat + p.margin.toNat

/-! ## Times -/

/-- The lead that a downlink must exceed if the radio is still to be programmed. -/
def minLead : Span := (p.startDelay.plus p.margin).plus p.jitDelay

/-- The target of an immediate downlink when nothing stands in its way. -/
def asapTime (now : Counter) : Counter := now.after (p.jitDelay.times 2)

/-- The target right behind `previous` for a downlink that takes the radio `pre` before it. -/
def slotAfter (previous : Window) (pre : Span) : Counter :=
  previous.time.after (((previous.post.plus pre).plus p.jitDelay).plus p.margin)

end Policy

end Downlink
