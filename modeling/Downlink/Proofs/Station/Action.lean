import Downlink.Proofs.Queue.Request
import Downlink.Station

/-!
# Runs of a station

What can happen to a station, as data: someone asks its queue for something, its dispatcher ticks,
an observer drains the events, or its radio changes by itself. The radio of a station may be any,
and between two ticks it may do whatever it likes, so a run fixes what it is found to be.

An `Observation` is all that can be seen of a station after an action. The reference of the queue is
not among it; nothing that a queue offers tells its value.
-/

namespace Downlink

variable {ρ : Type}

/-- What can happen to a station. -/
inductive Action (ρ : Type) where
  /-- the queue is asked for something -/
  | ask (r : Request)
  /-- the dispatcher ticks at a given time -/
  | tick (now : Counter)
  /-- the dispatcher ticks at the time the radio's counter shows -/
  | tickNow
  /-- an observer takes the waiting events -/
  | drain
  /-- the radio has become another -/
  | radio (r : ρ)

/-- What comes back from an action. -/
inductive Reply where
  /-- the answer of the queue -/
  | answered (a : Answer)
  /-- the event, if a downlink was due -/
  | ticked (event : Option Event)
  /-- the events that waited -/
  | drained (events : List Event)
  /-- nothing -/
  | none
deriving DecidableEq

/-- What can be seen of a station after an action. -/
structure Observation (ρ : Type) where
  /-- what came back -/
  reply : Reply
  /-- the entries in queue order -/
  entries : List Entry
  /-- how many of them are beacons -/
  beaconCount : Nat
  /-- what became of the downlinks so far -/
  stats : Stats
  /-- the radio -/
  radio : ρ
  /-- the events that wait -/
  events : List Event
  /-- how many events found the channel full -/
  droppedEvents : UInt64

namespace Station

/-! ## What a tick does -/

@[simp] theorem publish_queue (st : Station ρ) (e : Event) : (st.publish e).queue = st.queue := by
  rw [publish]
  split <;> rfl

@[simp] theorem publish_radio (st : Station ρ) (e : Event) : (st.publish e).radio = st.radio := by
  rw [publish]
  split <;> rfl

variable [Radio ρ]

/-- A tick that finds a downlink due hands it to the radio, reports what came of that and counts
it once. -/
theorem tick_of_due {s : Scheduler} {st : Station ρ} {now : Counter} {e : Entry}
    (h : (s.takeDue st.queue now).result = .ok (some e)) :
    (st.tick s now).event =
        some ⟨e.packet.id, e.trafficClass, e.target, now, (Delivery.attempt st.radio e).outcome⟩ ∧
      (st.tick s now).station.queue =
        { (s.takeDue st.queue now).queue with
          stats := if (Delivery.attempt st.radio e).outcome.isSent = true
            then (s.takeDue st.queue now).queue.stats.recordTransmitted e.trafficClass
            else (s.takeDue st.queue now).queue.stats.recordTxFailed e.trafficClass } ∧
      (st.tick s now).station.radio = (Delivery.attempt st.radio e).radio := by
  simp only [tick, h]
  exact ⟨rfl, publish_queue .., publish_radio ..⟩

/-- A tick that finds nothing due changes only the queue. -/
theorem tick_of_not_due {s : Scheduler} {st : Station ρ} {now : Counter}
    (h : ∀ e, (s.takeDue st.queue now).result ≠ .ok (some e)) :
    (st.tick s now).event = none ∧
      (st.tick s now).station = { st with queue := (s.takeDue st.queue now).queue } := by
  simp only [tick, and_self]

/-! ## Actions -/

/-- Lets an action happen. -/
def perform (s : Scheduler) (st : Station ρ) : Action ρ → Reply × Station ρ
  | .ask r => (.answered (s.perform st.queue r).result,
      { st with queue := (s.perform st.queue r).queue })
  | .tick now => (.ticked (st.tick s now).event, (st.tick s now).station)
  | .tickNow => (.ticked (st.tickNow s).event, (st.tickNow s).station)
  | .drain => (.drained st.drainEvents.1, st.drainEvents.2)
  | .radio r => (.none, { st with radio := r })

/-- What can be seen when an action left the station like this. -/
def observe (st : Station ρ) (reply : Reply) : Observation ρ :=
  { reply, entries := st.queue.entries, beaconCount := st.queue.beaconCount
    stats := st.queue.stats, radio := st.radio, events := st.events
    droppedEvents := st.droppedEvents }

/-- What can be seen after each action of a run. -/
def trace (s : Scheduler) (st : Station ρ) : List (Action ρ) → List (Observation ρ)
  | [] => []
  | a :: as =>
    let (reply, st) := st.perform s a
    st.observe reply :: st.trace s as

end Station

end Downlink
