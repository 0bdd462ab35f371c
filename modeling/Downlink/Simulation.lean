import Downlink.Radio.Simulated
import Downlink.Station
import Downlink.Traffic

/-!
# A gateway in simulation

A station with a simulated radio, and the traffic that fills its queue. Time comes from outside:
`Simulation.advance` is told how long the simulation has been running, sets the counter accordingly,
gives every producer whose interval has passed a turn, and ticks until nothing is due.
-/

namespace Downlink

/-- A simulated gateway. -/
structure Simulation where
  /-- how the queue is run -/
  scheduler : Scheduler
  /-- what the counter showed at first -/
  start : Counter
  /-- what fills the queue -/
  traffic : Traffic
  /-- the producers, each with the running time at which it has its next turn -/
  turns : List (Producer × Nat)
  /-- the id of the next packet -/
  nextId : UInt64 := 0
  /-- the queue and its radio -/
  station : Station SimulatedRadio

namespace Simulation

/-- A gateway whose counter shows `start`. Every producer has its first turn at once. -/
def new (config : QueueConfig) (profile : TrafficProfile) (start : Counter) : Simulation :=
  let traffic : Traffic := ⟨profile, config.beaconPeriod, config.beaconsInQueue, none⟩
  { scheduler := .ofConfig config .modem, start, traffic
    turns := traffic.producers.map fun p => (p, 0)
    station := { radio := { clock := start, airtime := .modem } } }

/-- What became of the downlinks so far. -/
def stats (g : Simulation) : Stats := g.station.queue.stats

/-- The gateway with its counter at `now`. -/
def setClock (g : Simulation) (now : Counter) : Simulation :=
  { g with station := { g.station with radio := { g.station.radio with clock := now } } }

/-- The gateway after a producer's turn, and what was logged. -/
def turn (g : Simulation) (p : Producer) : Simulation × List Notice :=
  let turn := g.traffic.turn g.scheduler g.station.queue g.station.radio.clock p g.nextId
  let station := { g.station with queue := turn.queue }
  ({ g with traffic := turn.result, nextId := turn.nextId, station }, turn.notices)

/-- Gives a turn to each of the producers that waited until `elapsed`, and notes when each has its
next one. -/
def takeTurns (g : Simulation) (elapsed : Nat) : List (Producer × Nat) → Simulation × List Notice
  | [] => ({ g with turns := [] }, [])
  | (p, due) :: rest =>
    let (g, first) := if due ≤ elapsed then g.turn p else (g, [])
    let next := if due ≤ elapsed then elapsed + g.traffic.profile.interval p else due
    let (g, others) := takeTurns g elapsed rest
    ({ g with turns := (p, next) :: g.turns }, first ++ others)

/-- The gateway after running for `elapsed` microseconds, and what was logged meanwhile. -/
def advance (g : Simulation) (elapsed : Nat) : Simulation × List Notice :=
  let now := g.start.after (.ofNat elapsed)
  let (g, produced) := (g.setClock now).takeTurns elapsed g.turns
  let settled := g.station.settle g.scheduler now
  ({ g with station := settled.station.drainEvents.2 }, produced ++ settled.notices)

end Simulation

end Downlink
