import Downlink.Beacon
import Downlink.Queue.Admission

/-!
# Synthetic traffic

Three producers fill a queue the way a network server would: replies to uplinks, which are due one
receive delay later, pushes to devices that always listen, and beacons. A producer that is switched
off by the profile never takes a turn.

A turn is what a producer does between two looks at the counter. The beacon producer starts its
planner at the first look and plans from the second on.
-/

namespace Downlink

/-- The rates and radio settings of synthetic traffic. -/
structure TrafficProfile where
  /-- time between two uplinks that are replied to, in milliseconds; none if zero -/
  classAInterval : UInt64 := 400
  /-- time between two immediate pushes, in milliseconds; none if zero -/
  classCInterval : UInt64 := 1500
  /-- time from an uplink to the reply, in microseconds -/
  rx1Delay : Span := 1000000
  /-- bytes in a downlink -/
  payloadSize : UInt64 := 16
  /-- the spreading factor of data -/
  spreadingFactor : UInt8 := 9
  /-- the centre of the channel in hertz -/
  frequency : UInt32 := 869525000
  /-- whether beacons are sent -/
  beacons : Bool := true
deriving DecidableEq, Repr, Inhabited

/-- The producers of traffic. -/
inductive Producer where
  /-- plans beacons -/
  | beacons
  /-- replies to uplinks -/
  | replies
  /-- pushes at once -/
  | pushes
deriving DecidableEq, Repr

namespace Producer

/-- All producers, in the order of their names. -/
def all : List Producer := [.beacons, .replies, .pushes]

/-- The name of a producer. -/
def label : Producer → String
  | .beacons => "Beacon-Planner"
  | .replies => "ClassA-Producer"
  | .pushes => "ClassC-Producer"

end Producer

/-- The time between two turns of a producer, in microseconds. Beacons are looked after ten times a
second. -/
def TrafficProfile.interval (profile : TrafficProfile) : Producer → Nat
  | .replies => profile.classAInterval.toNat * 1000
  | .pushes => profile.classCInterval.toNat * 1000
  | .beacons => 100000

/-- Synthetic traffic for one queue. -/
structure Traffic where
  /-- the rates and settings -/
  profile : TrafficProfile
  /-- time from one beacon to the next -/
  beaconPeriod : Span
  /-- how many beacons are planned ahead -/
  beaconsAhead : UInt32
  /-- the planner, once there is one -/
  planner : Option BeaconPlanner := none
deriving DecidableEq, Repr

namespace Traffic

/-- The bytes in the payload of a beacon. -/
def beaconPayloadSize : Nat := 17

/-- The producers that the profile leaves switched on. -/
def producers (t : Traffic) : List Producer :=
  Producer.all.filter fun
    | .beacons => t.profile.beacons && t.beaconPeriod != 0
    | .replies => t.profile.classAInterval != 0
    | .pushes => t.profile.classCInterval != 0

/-- The settings of data downlinks. -/
def modulation (t : Traffic) : Modulation := .loraDownlink t.profile.spreadingFactor .khz125

/-- The reply to an uplink received at `now`. -/
def reply (t : Traffic) (now : Counter) (id : UInt64) : Packet :=
  .timestamped id (List.replicate t.profile.payloadSize.toNat 0x60) (now.after t.profile.rx1Delay)
    t.profile.frequency t.modulation

/-- A push to a device that always listens. -/
def push (t : Traffic) (id : UInt64) : Packet :=
  .immediate id (List.replicate t.profile.payloadSize.toNat 0xA0) t.profile.frequency t.modulation

/-- The beacon of a slot. -/
def beacon (t : Traffic) (slot : Counter) (id : UInt64) : Packet :=
  .timestamped id (List.replicate beaconPayloadSize 0) slot t.profile.frequency
    (.loraBeacon 9 .khz125)

/-- The downlinks that a producer hands in when it sees the counter at `now`, numbered from `nextId`
on, and the traffic afterwards. -/
def produce (t : Traffic) (now : Counter) (nextId : UInt64) :
    Producer → List (Packet × TrafficClass) × Traffic
  | .replies => ([(t.reply now nextId, .classA)], t)
  | .pushes => ([(t.push nextId, .classC)], t)
  | .beacons =>
    match t.planner with
    | none => ([], { t with planner := some (.new now t.beaconPeriod t.beaconsAhead) })
    | some planner =>
      let (slots, planner) := planner.due now
      (slots.mapIdx fun i slot => (t.beacon slot (nextId + .ofNat i), .beacon),
        { t with planner := some planner })

/-- Hands downlinks to a queue one after another. It does not matter here whether they are
accepted. -/
def submit (s : Scheduler) (q : Queue) (now : Counter) :
    List (Packet × TrafficClass) → Queue × List Notice
  | [] => (q, [])
  | (p, c) :: ps =>
    let first := s.enqueue q now p c
    let rest := submit s first.queue now ps
    (rest.1, first.notices ++ rest.2)

/-- What a producer's turn came to; the answer is the traffic afterwards. -/
structure Turn extends Step Traffic where
  /-- the id of the next packet -/
  nextId : UInt64

/-- The turn of a producer that sees the counter at `now`. Its packets are numbered from `nextId`
on. -/
def turn (s : Scheduler) (t : Traffic) (q : Queue) (now : Counter) (p : Producer)
    (nextId : UInt64 := 0) : Turn :=
  let (packets, t) := t.produce now nextId p
  let (q, notices) := submit s q now packets
  { result := t, queue := q, notices, nextId := nextId + .ofNat packets.length }

end Traffic

end Downlink
