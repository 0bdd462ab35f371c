import Downlink.Queue.Admission
import Downlink.Queue.Selection
import Downlink.Text.Quoted

/-!
# The station: a queue drained into a radio

A station joins one queue and one radio. At each **tick** it takes the entry that is due, hands it
to the radio unless a frame is on air, and publishes an event that tells what came of it. A tick
that finds nothing due publishes nothing.

Events wait in a channel of bounded size until an observer drains it. An event that finds the
channel full is lost to the observer and only counted; the tick itself still answers with it.
-/

namespace Downlink

/-! ## Events -/

/-- What became of a downlink that was due. -/
inductive Outcome where
  /-- programmed into a free radio -/
  | sent
  /-- programmed in place of a frame that was still waiting -/
  | sentOverwriting
  /-- lost, because a frame was on air -/
  | busy
  /-- lost, because the radio refused it -/
  | failed (cause : RadioError)
deriving DecidableEq, Repr

/-- Whether the radio took the downlink. -/
def Outcome.isSent : Outcome → Bool
  | .sent | .sentOverwriting => true
  | .busy | .failed _ => false

/-- How an outcome is written, with the radio's words if it refused. -/
def Outcome.label : Outcome → String
  | .sent => "Sent"
  | .sentOverwriting => "SentOverwriting"
  | .busy => "Busy"
  | .failed cause => "Failed(" ++ Text.quoted cause.message ++ ")"

/-- The report on a downlink that was due. -/
structure Event where
  /-- the id of its packet -/
  id : UInt64
  /-- its class -/
  trafficClass : TrafficClass
  /-- when it was to be sent -/
  target : Counter
  /-- when it was handed on -/
  dispatched : Counter
  /-- what became of it -/
  outcome : Outcome
deriving DecidableEq, Repr

/-! ## Handing a downlink to a radio -/

variable {ρ : Type} [Radio ρ]

/-- What came of handing a downlink to a radio. -/
structure Delivery (ρ : Type) where
  /-- what became of the downlink -/
  outcome : Outcome
  /-- the radio as it is now -/
  radio : ρ
  /-- what was logged -/
  notices : List Notice

/-- Has the radio take a packet, which is `onSuccess` if it does. -/
def Delivery.send (radio : ρ) (p : Packet) (onSuccess : Outcome) : Delivery ρ :=
  match Radio.send radio p with
  | (.ok (), radio) => ⟨onSuccess, radio, []⟩
  | (.error cause, radio) => ⟨.failed cause, radio, [.failed cause p.target]⟩

/-- Hands a due downlink to a radio, which is not bothered while a frame is on air. -/
def Delivery.attempt (radio : ρ) (e : Entry) : Delivery ρ :=
  match Radio.status radio with
  | .emitting => ⟨.busy, radio, [.lost e.trafficClass e.target]⟩
  | .scheduled =>
    let d := Delivery.send radio e.packet .sentOverwriting
    { d with notices := .overwriting :: d.notices }
  | .free => Delivery.send radio e.packet .sent

/-! ## The station -/

/-- A queue and the radio it is drained into. -/
structure Station (ρ : Type) where
  /-- the queue -/
  queue : Queue := {}
  /-- the radio -/
  radio : ρ
  /-- the events that no observer has drained yet, oldest first -/
  events : List Event := []
  /-- how many events found the channel full -/
  droppedEvents : UInt64 := 0

/-- What a tick came to. -/
structure Tick (ρ : Type) where
  /-- the event, if a downlink was due -/
  event : Option Event
  /-- the station as it is now -/
  station : Station ρ
  /-- what was logged, in order -/
  notices : List Notice

/-- What several ticks came to. -/
structure Series (ρ : Type) where
  /-- the events, in order -/
  events : List Event
  /-- the station as it is now -/
  station : Station ρ
  /-- what was logged, in order -/
  notices : List Notice

namespace Station

/-- How many events wait at most. -/
def channelCapacity : Nat := 1024

/-- Publishes an event. -/
def publish (st : Station ρ) (e : Event) : Station ρ :=
  if st.events.length < channelCapacity then { st with events := st.events ++ [e] }
  else { st with droppedEvents := st.droppedEvents + 1 }

/-- Hands all waiting events to an observer. -/
def drainEvents (st : Station ρ) : List Event × Station ρ :=
  (st.events, { st with events := [] })

/-- Hands a downlink that was taken from the queue at `now` to the radio, counts it and publishes
the event. -/
def dispatch (st : Station ρ) (now : Counter) (e : Entry) : Tick ρ :=
  let d := Delivery.attempt st.radio e
  let event : Event := ⟨e.packet.id, e.trafficClass, e.target, now, d.outcome⟩
  let stats :=
    if d.outcome.isSent then st.queue.stats.recordTransmitted e.trafficClass
    else st.queue.stats.recordTxFailed e.trafficClass
  let done : List Notice :=
    if d.outcome.isSent then [.programmed e.trafficClass e.target (e.lead now) e.packet.size]
    else []
  { event := some event
    station := publish { st with queue := { st.queue with stats := stats }, radio := d.radio } event
    notices := d.notices ++ done }

/-- One tick at `now`. -/
def tick (s : Scheduler) (st : Station ρ) (now : Counter) : Tick ρ :=
  let taken := s.takeDue st.queue now
  let st := { st with queue := taken.queue }
  match taken.result with
  | .ok (some e) =>
    let t := st.dispatch now e
    { t with notices := taken.notices ++ t.notices }
  | _ => { event := none, station := st, notices := taken.notices }

/-- One tick at the time the radio's counter shows. -/
def tickNow (s : Scheduler) (st : Station ρ) : Tick ρ := st.tick s (Radio.now st.radio)

/-- At most `n` ticks at `now`, up to the first that finds nothing due. -/
def ticks (s : Scheduler) (now : Counter) : Nat → Station ρ → Series ρ
  | 0, st => { events := [], station := st, notices := [] }
  | n + 1, st =>
    let t := st.tick s now
    match t.event with
    | none => { events := [], station := t.station, notices := t.notices }
    | some e =>
      let rest := ticks s now n t.station
      { rest with events := e :: rest.events, notices := t.notices ++ rest.notices }

/-- Ticks at `now` until nothing is due. Each tick with an event leaves one entry less, so one tick
more than there are entries is enough. -/
def settle (s : Scheduler) (now : Counter) (st : Station ρ) : Series ρ :=
  ticks s now (st.queue.entries.length + 1) st

/-- What becomes of the downlinks and of the station in the ticks that settle it. -/
def round (s : Scheduler) (now : Counter) (st : Station ρ) : List Event × Station ρ :=
  let series := st.settle s now
  (series.events, series.station)

end Station

end Downlink
