import Downlink.Proofs.Queue.Counts
import Downlink.Proofs.Station.Action
import Downlink.Radio.Scripted

/-!
# What becomes of the events

A dispatch leaves four traces: the event that the tick answers with, the same event in the channel
or one more that found no room there, a count of the class, and a packet that the radio was asked to
send. This module ties them to each other.

A `Journal` is kept of what comes back from a station while it runs. It knows the events that ticks
answered with, each with whether the channel was full then, and the events that observers received.
The journal is exact (`Journal.Exact`) if those received and those that wait are the events that
found room, in the order of the ticks, and the others are counted. Every activity keeps it exact.

The radio of a station may be any, so what it was asked cannot be read off it. A `Probe` is a radio
that writes this down and leaves the work to another. A tick does the same with it as without
(`Station.tick_probed`).
-/

namespace Downlink

variable {ρ : Type}

/-- The count that goes up with an event. -/
def Event.count (e : Event) : Count :=
  if e.outcome.isSent then .transmitted e.trafficClass else .txFailed e.trafficClass

/-- It is that of the downlinks that were taken if the radio took this one. -/
theorem Event.count_eq_transmitted_iff (e : Event) :
    e.count = .transmitted e.trafficClass ↔ e.outcome.isSent = true := by
  rw [count]
  split <;> simp [*]

/-- It is that of the downlinks that failed if it did not. -/
theorem Event.count_eq_txFailed_iff (e : Event) :
    e.count = .txFailed e.trafficClass ↔ e.outcome.isSent = false := by
  rw [count]
  split <;> simp [*]

/-! ## What a tick publishes and counts -/

/-- Taking what is due counts nothing but stale entries. -/
theorem Scheduler.get_stats_takeDue (s : Scheduler) (q : Queue) (now : Counter) {x : Count}
    (hx : ∀ c, x ≠ .staleDropped c) : (s.takeDue q now).queue.stats.get x = q.stats.get x := by
  rcases s.takeDue_cases q now with
    ⟨-, -, hqueue⟩ | ⟨-, gone, left, -, hparted, ⟨-, -, hqueue⟩ | ⟨i, hi, -, -, hqueue⟩⟩
  · rw [hqueue]
  · rw [hqueue, get_countStale_of_ne left gone hx, hparted.stats]
  · rw [hqueue, ← hparted.stats]
    exact get_countStale_of_ne left gone hx

namespace Station

/-- The channel does not look at the queue or the radio. -/
theorem publish_with (st : Station ρ) (q : Queue) (r : ρ) (e : Event) :
    { st with queue := q, radio := r }.publish e =
      { st.publish e with queue := q, radio := r } := by
  simp only [publish]
  split <;> rfl

variable [Radio ρ] {s : Scheduler} {st : Station ρ} {now : Counter}

/-- A tick answers with nothing and leaves the channel alone, or it publishes the event it answers
with. The queue counts that event and nothing else but stale entries. -/
theorem tick_channel (s : Scheduler) (st : Station ρ) (now : Counter) :
    ((st.tick s now).event = none ∧ ∃ q, (st.tick s now).station = { st with queue := q } ∧
        ∀ x, (∀ c, x ≠ .staleDropped c) → q.stats.get x = st.queue.stats.get x) ∨
      ∃ e q r, (st.tick s now).event = some e ∧
        (st.tick s now).station = { st.publish e with queue := q, radio := r } ∧
        ∀ x, (∀ c, x ≠ .staleDropped c) →
          q.stats.get x = st.queue.stats.get x + if x = e.count then 1 else 0 := by
  by_cases hdue : ∃ e, (s.takeDue st.queue now).result = .ok (some e)
  · obtain ⟨e, hdue⟩ := hdue
    right
    simp only [tick, hdue, dispatch]
    refine ⟨_, _, _, rfl, publish_with st _ _ _, ?_⟩
    intro x hx
    rw [Stats.get_recordOutcome, s.get_stats_takeDue st.queue now hx]
    rfl
  · left
    obtain ⟨hevent, hstation⟩ := tick_of_not_due (not_exists.mp hdue)
    exact ⟨hevent, _, hstation, fun x hx => s.get_stats_takeDue st.queue now hx⟩

/-- A tick counts its event once, and nothing else but stale entries. -/
theorem get_stats_tick (s : Scheduler) (st : Station ρ) (now : Counter) {x : Count}
    (hx : ∀ c, x ≠ .staleDropped c) :
    (st.tick s now).station.queue.stats.get x = st.queue.stats.get x +
      if (st.tick s now).event.map Event.count = some x then 1 else 0 := by
  rcases st.tick_channel s now with ⟨hevent, q, hstation, hq⟩ | ⟨e, q, r, hevent, hstation, hq⟩
  · simp only [hevent, hstation, hq x hx, Option.map_none, reduceCtorEq, if_false, UInt64.add_zero]
  · simp only [hevent, hstation, hq x hx, Option.map_some, Option.some_inj, eq_comm]

/-- So it tells of an event whether the radio took the downlink. -/
theorem isSent_iff_counted {e : Event} (h : (st.tick s now).event = some e) :
    (e.outcome.isSent = true ↔ (st.tick s now).station.queue.stats.transmitted.get e.trafficClass =
      st.queue.stats.transmitted.get e.trafficClass + 1) ∧
    (e.outcome.isSent = false ↔ (st.tick s now).station.queue.stats.txFailed.get e.trafficClass =
      st.queue.stats.txFailed.get e.trafficClass + 1) := by
  have hgrows : ∀ (x : Count), (∀ c, x ≠ .staleDropped c) → (e.count = x ↔
      (st.tick s now).station.queue.stats.get x = st.queue.stats.get x + 1) := by
    intro x hx
    rw [get_stats_tick s st now hx, h, Option.map_some]
    by_cases hcount : e.count = x <;> simp [hcount]
  rw [← e.count_eq_transmitted_iff, ← e.count_eq_txFailed_iff]
  exact ⟨hgrows (.transmitted e.trafficClass) nofun, hgrows (.txFailed e.trafficClass) nofun⟩

end Station

/-! ## What comes back -/

/-- An observer takes at most `n` of the waiting events, oldest first. -/
def Station.receive (st : Station ρ) (n : Nat) : List Event × Station ρ :=
  (st.events.take n, { st with events := st.events.drop n })

/-- An event that a tick answered with. -/
structure Report where
  /-- the event -/
  event : Event
  /-- whether the channel was full when it was published -/
  full : Bool

/-- A station together with what came back from it. -/
structure Journal (ρ : Type) where
  /-- the station as it is now -/
  station : Station ρ
  /-- what the ticks answered with, in order -/
  reports : List Report := []
  /-- the events that observers received, in order -/
  received : List Event := []

namespace Journal

/-- Writes down what came back when something left the station like this. -/
def note (j : Journal ρ) (st : Station ρ) : Reply → Journal ρ
  | .ticked (some e) =>
    { j with
      station := st
      reports := j.reports ++ [⟨e, j.station.events.length = Station.channelCapacity⟩] }
  | .drained events => { j with station := st, received := j.received ++ events }
  | .ticked none | .answered _ | .none => { j with station := st }

/-- The events that were received and those that wait are the ones that found room in the channel,
in the order of the ticks. The others are counted, in words that start over after the largest. -/
structure Exact (j : Journal ρ) : Prop where
  /-- the channel holds no more than it can -/
  bounded : j.station.events.length ≤ Station.channelCapacity
  /-- what found room was received or waits -/
  carried : j.received ++ j.station.events = (j.reports.filter (!·.full)).map (·.event)
  /-- what did not is counted -/
  dropped : j.station.droppedEvents = UInt64.ofNat (j.reports.countP (·.full))

variable {j : Journal ρ} {st : Station ρ}

/-- Nothing has come back from a new station. -/
theorem exact_new (radio : ρ) : Exact { station := { radio } : Journal ρ } :=
  ⟨Nat.zero_le _, rfl, rfl⟩

/-- What goes on outside the channel does not matter. -/
theorem Exact.outside (h : j.Exact) (hevents : st.events = j.station.events)
    (hdropped : st.droppedEvents = j.station.droppedEvents) : Exact { j with station := st } where
  bounded := hevents ▸ h.bounded
  carried := hevents ▸ h.carried
  dropped := hdropped ▸ h.dropped

/-- Those who take from the front of the channel receive what comes next. -/
theorem Exact.receive (h : j.Exact) (n : Nat) :
    (j.note (j.station.receive n).2 (.drained (j.station.receive n).1)).Exact where
  bounded := by
    change (j.station.events.drop n).length ≤ _
    rw [List.length_drop]
    exact Nat.le_trans (Nat.sub_le ..) h.bounded
  carried := by
    change (j.received ++ j.station.events.take n) ++ j.station.events.drop n = _
    rw [List.append_assoc, List.take_append_drop]
    exact h.carried
  dropped := h.dropped

/-- An event that finds room goes to the end of the channel. -/
theorem Exact.publish_of_room (h : j.Exact) {e : Event}
    (hroom : j.station.events.length < Station.channelCapacity)
    (hevents : st.events = j.station.events ++ [e])
    (hdropped : st.droppedEvents = j.station.droppedEvents) :
    (j.note st (.ticked (some e))).Exact := by
  have hnot : decide (j.station.events.length = Station.channelCapacity) = false :=
    decide_eq_false (Nat.ne_of_lt hroom)
  constructor
  case bounded =>
    change st.events.length ≤ _
    rw [hevents, List.length_append]
    exact hroom
  case carried =>
    simp only [note, hevents, hnot, List.filter_append, List.map_append, ← List.append_assoc,
      h.carried]
    rfl
  case dropped =>
    simp only [note, hdropped, hnot, List.countP_append, h.dropped]
    rfl

/-- One that finds none is counted. -/
theorem Exact.publish_of_full (h : j.Exact) {e : Event}
    (hfull : j.station.events.length = Station.channelCapacity)
    (hevents : st.events = j.station.events)
    (hdropped : st.droppedEvents = j.station.droppedEvents + 1) :
    (j.note st (.ticked (some e))).Exact := by
  have hyes : decide (j.station.events.length = Station.channelCapacity) = true :=
    decide_eq_true hfull
  constructor
  case bounded =>
    change st.events.length ≤ _
    rw [hevents]
    exact h.bounded
  case carried =>
    simp only [note, hevents, hyes, List.filter_append, List.map_append, h.carried]
    exact (List.append_nil _).symm
  case dropped =>
    simp only [note, hdropped, hyes, List.countP_append, h.dropped, UInt64.ofNat_add]
    rfl

/-- Either way an event that is published is accounted for. -/
theorem Exact.publish (h : j.Exact) {e : Event} (hevents : st.events = (j.station.publish e).events)
    (hdropped : st.droppedEvents = (j.station.publish e).droppedEvents) :
    (j.note st (.ticked (some e))).Exact := by
  rcases Nat.lt_or_eq_of_le h.bounded with hroom | hfull
  · rw [Station.publish, if_pos hroom] at hevents hdropped
    exact h.publish_of_room hroom hevents hdropped
  · rw [Station.publish, if_neg (Nat.not_lt_of_ge (Nat.le_of_eq hfull.symm))] at hevents hdropped
    exact h.publish_of_full hfull hevents hdropped

end Journal

/-! ## Runs -/

/-- What can happen to a station whose observers may take a part of the waiting events. -/
inductive Activity (ρ : Type) where
  /-- an action -/
  | act (a : Action ρ)
  /-- an observer takes at most so many of the waiting events -/
  | receive (n : Nat)

namespace Journal

variable [Radio ρ] {s : Scheduler} {j : Journal ρ}

/-- Lets something happen, and writes down what comes back. -/
def perform (s : Scheduler) (j : Journal ρ) : Activity ρ → Journal ρ
  | .act a => j.note (j.station.perform s a).2 (j.station.perform s a).1
  | .receive n => j.note (j.station.receive n).2 (.drained (j.station.receive n).1)

/-- Lets several things happen in turn. -/
def run (s : Scheduler) (j : Journal ρ) (as : List (Activity ρ)) : Journal ρ :=
  as.foldl (perform s) j

/-- A tick publishes what it answers with. -/
theorem Exact.tick (h : j.Exact) (now : Counter) :
    (j.note (j.station.tick s now).station (.ticked (j.station.tick s now).event)).Exact := by
  rcases j.station.tick_channel s now with ⟨hevent, q, hstation, -⟩ | ⟨e, q, r, hevent, hstation, -⟩
  · rw [hevent, hstation]
    exact h.outside rfl rfl
  · rw [hevent, hstation]
    exact h.publish rfl rfl

/-- Whatever happens, the journal stays exact. -/
theorem Exact.perform (h : j.Exact) : ∀ a : Activity ρ, (j.perform s a).Exact
  | .act (.ask _) => h.outside rfl rfl
  | .act (.tick now) => h.tick now
  | .act .tickNow => h.tick (Radio.now j.station.radio)
  | .act .drain => by
    have hall := h.receive j.station.events.length
    rw [Station.receive, List.take_length, List.drop_length] at hall
    exact hall
  | .act (.radio _) => h.outside rfl rfl
  | .receive n => h.receive n

/-- However much happens. The induction is on what does. -/
theorem Exact.run (h : j.Exact) (as : List (Activity ρ)) : (j.run s as).Exact := by
  induction as generalizing j with
  | nil => exact h
  | cons a as ih => exact ih (h.perform a)

end Journal

/-! ## What the radio is asked -/

/-- A radio that writes down the packets it is asked to send. -/
structure Probe (ρ : Type) where
  /-- the radio that does the work -/
  radio : ρ
  /-- the packets it was asked to send, in order -/
  asked : List Packet := []

instance [Radio ρ] : Radio (Probe ρ) where
  now r := Radio.now r.radio
  status r := Radio.status r.radio
  send r p := ((Radio.send r.radio p).1, ⟨(Radio.send r.radio p).2, r.asked ++ [p]⟩)

namespace Station

/-- A station with a radio that writes down what it is asked. -/
def probed (st : Station ρ) (asked : List Packet := []) : Station (Probe ρ) :=
  { queue := st.queue, radio := ⟨st.radio, asked⟩, events := st.events
    droppedEvents := st.droppedEvents }

/-- It publishes events as before. -/
theorem publish_probed (st : Station ρ) (asked : List Packet) (e : Event) :
    (st.probed asked).publish e = (st.publish e).probed asked := by
  have hevents : (st.probed asked).events = st.events := rfl
  rw [publish, publish, hevents]
  split <;> rfl

end Station

variable [Radio ρ]

namespace Delivery

/-- What a radio is asked to send is written down, and nothing else comes of that. -/
theorem send_probe (r : Probe ρ) (p : Packet) (onSuccess : Outcome) :
    send r p onSuccess = ⟨(send r.radio p onSuccess).outcome,
      ⟨(send r.radio p onSuccess).radio, r.asked ++ [p]⟩, (send r.radio p onSuccess).notices⟩ := by
  have hsend : Radio.send r p = ((Radio.send r.radio p).1,
    ⟨(Radio.send r.radio p).2, r.asked ++ [p]⟩) := rfl
  rw [send, hsend, send]
  rcases Radio.send r.radio p with ⟨_ | _, radio⟩ <;> rfl

/-- A radio is asked to send a downlink unless a frame is on air. -/
theorem attempt_probe (r : Probe ρ) (e : Entry) :
    attempt r e = ⟨(attempt r.radio e).outcome, ⟨(attempt r.radio e).radio,
      r.asked ++ if Radio.status r.radio = .emitting then [] else [e.packet]⟩,
      (attempt r.radio e).notices⟩ := by
  have hstatus : Radio.status r = Radio.status r.radio := rfl
  rw [attempt, hstatus, attempt]
  cases Radio.status r.radio with
  | emitting => simp
  | scheduled => simp [send_probe]
  | free => simp [send_probe]

end Delivery

namespace Station

variable {s : Scheduler} {st : Station ρ} {now : Counter}

/-- What the radio is asked to send in one tick. -/
def asked (s : Scheduler) (st : Station ρ) (now : Counter) : List Packet :=
  (st.probed.tick s now).station.radio.asked

/-- The radio is asked to send the downlink that is due, unless a frame is on air. -/
theorem asked_of_due {e : Entry} (h : (s.takeDue st.queue now).result = .ok (some e)) :
    st.asked s now = if Radio.status st.radio = .emitting then [] else [e.packet] := by
  have hprobed : (s.takeDue st.probed.queue now).result = .ok (some e) := h
  obtain ⟨-, -, hradio⟩ := tick_of_due hprobed
  rw [asked, hradio, Delivery.attempt_probe]
  rfl

/-- It is asked for nothing if nothing is due. -/
theorem asked_of_not_due (h : ∀ e, (s.takeDue st.queue now).result ≠ .ok (some e)) :
    st.asked s now = [] := by
  have hprobed : ∀ e, (s.takeDue st.probed.queue now).result ≠ .ok (some e) := h
  obtain ⟨-, hstation⟩ := tick_of_not_due hprobed
  rw [asked, hstation]
  rfl

/-- Writing down what the radio is asked makes no difference to a tick. -/
theorem tick_probed (s : Scheduler) (st : Station ρ) (now : Counter) :
    st.probed.tick s now = { event := (st.tick s now).event
                             station := (st.tick s now).station.probed (st.asked s now)
                             notices := (st.tick s now).notices } := by
  by_cases hdue : ∃ e, (s.takeDue st.queue now).result = .ok (some e)
  · obtain ⟨e, hdue⟩ := hdue
    have hprobed : (s.takeDue st.probed.queue now).result = .ok (some e) := hdue
    rw [asked_of_due hdue]
    simp only [tick, hdue, hprobed, dispatch, Delivery.attempt_probe, ← publish_probed]
    rfl
  · have hnot : ∀ e, (s.takeDue st.queue now).result ≠ .ok (some e) := not_exists.mp hdue
    have hprobed : ∀ e, (s.takeDue st.probed.queue now).result ≠ .ok (some e) := hnot
    rw [asked_of_not_due hnot]
    simp only [tick]
    rfl

/-- The radio is asked for one thing at most. -/
theorem length_asked_le (s : Scheduler) (st : Station ρ) (now : Counter) :
    (st.asked s now).length ≤ 1 := by
  by_cases hdue : ∃ e, (s.takeDue st.queue now).result = .ok (some e)
  · obtain ⟨e, hdue⟩ := hdue
    rw [asked_of_due hdue]
    split <;> simp
  · rw [asked_of_not_due (not_exists.mp hdue)]
    exact Nat.zero_le 1

/-- It is asked for nothing if nothing is due or a frame is on air, and only then. -/
theorem asked_eq_nil_iff (s : Scheduler) (st : Station ρ) (now : Counter) :
    st.asked s now = [] ↔ (st.tick s now).event = none ∨ Radio.status st.radio = .emitting := by
  by_cases hdue : ∃ e, (s.takeDue st.queue now).result = .ok (some e)
  · obtain ⟨e, hdue⟩ := hdue
    rw [asked_of_due hdue, (tick_of_due hdue).1]
    simp
  · have hnot := not_exists.mp hdue
    simp [asked_of_not_due hnot, (tick_of_not_due hnot).1]

end Station

/-! ## The account -/

/-- **Every event is accounted for.** Take any run of a new station, with any radio, any requests and
observers that take any part of the waiting events at any time.

What the observers received, followed by what waits, are the events that the ticks answered with, in
order, without those that found the channel full, and these are counted.

Of a tick at the end of the run, the event says that the radio took the downlink if the transmitted
ones of its class are one more, and that it did not if the failed ones are; no other count has
changed but those of stale entries. The radio is asked to send something once at most, and never
while a frame is on air. That is seen with a radio that writes down what it is asked, which makes no
other difference to the tick. -/
theorem run_accounts (config : QueueConfig) (airtime : AirtimeModel) (radio : ρ)
    (as : List (Activity ρ)) :
    let s := Scheduler.ofConfig config airtime
    let j := Journal.run s { station := { radio } } as
    j.station.events.length ≤ Station.channelCapacity ∧
    j.received ++ j.station.events = (j.reports.filter (!·.full)).map (·.event) ∧
    j.station.droppedEvents = UInt64.ofNat (j.reports.countP (·.full)) ∧
    ∀ now,
      let t := j.station.tick s now
      let before := j.station.queue.stats
      let after := t.station.queue.stats
      let asked := j.station.asked s now
      (∀ e, t.event = some e →
        (e.outcome.isSent = true ↔ after.transmitted.get e.trafficClass =
          before.transmitted.get e.trafficClass + 1) ∧
        (e.outcome.isSent = false ↔ after.txFailed.get e.trafficClass =
          before.txFailed.get e.trafficClass + 1)) ∧
      (∀ x, (∀ c, x ≠ .staleDropped c) →
        after.get x = before.get x + if t.event.map Event.count = some x then 1 else 0) ∧
      j.station.probed.tick s now =
        { event := t.event, station := t.station.probed asked, notices := t.notices } ∧
      asked.length ≤ 1 ∧
      (asked = [] ↔ t.event = none ∨ Radio.status j.station.radio = .emitting) := by
  intro s j
  have hexact : j.Exact := (Journal.exact_new radio).run as
  refine ⟨hexact.bounded, hexact.carried, hexact.dropped, ?_⟩
  intro now t before after asked
  exact ⟨fun _ => Station.isSent_iff_counted, fun _ => j.station.get_stats_tick s now,
    j.station.tick_probed s now, j.station.length_asked_le s now, j.station.asked_eq_nil_iff s now⟩

/-- The second of two downlinks finds a frame on air: it is counted as failed, and the radio is asked
for nothing. An observer has received the event of the first by then. -/
theorem run_accounts_busy :
    let s := Scheduler.ofConfig {} (.fixed 50000)
    let request := fun (id : UInt64) (time : UInt32) =>
      Activity.act (.ask (.enqueue ⟨0⟩ (.timestamped id [0x60] ⟨time⟩ 869525000
        (.loraDownlink 9 .khz125)) .classA))
    let j := Journal.run s { station := { radio := ({} : ScriptedRadio) } }
      [request 1 1000000, request 2 2000000, .act (.tick ⟨980000⟩),
        .act (.radio { status := .emitting }), .receive 1]
    let t := j.station.tick s ⟨1980000⟩
    j.received = [⟨1, .classA, ⟨1000000⟩, ⟨980000⟩, .sent⟩] ∧
    j.received ++ j.station.events = (j.reports.filter (!·.full)).map (·.event) ∧
    t.event = some ⟨2, .classA, ⟨2000000⟩, ⟨1980000⟩, .busy⟩ ∧
    t.station.queue.stats.txFailed.get .classA = j.station.queue.stats.txFailed.get .classA + 1 ∧
    j.station.asked s ⟨1980000⟩ = [] := by
  intro s request j t
  obtain ⟨-, hcarried, -, htick⟩ := run_accounts {} (.fixed 50000) ({} : ScriptedRadio)
    [request 1 1000000, request 2 2000000, .act (.tick ⟨980000⟩),
      .act (.radio { status := .emitting }), .receive 1]
  obtain ⟨houtcome, -, -, -, hasked⟩ := htick ⟨1980000⟩
  have hreceived : j.received = [⟨1, .classA, ⟨1000000⟩, ⟨980000⟩, .sent⟩] := by
    decide +kernel
  have hevent : t.event = some ⟨2, .classA, ⟨2000000⟩, ⟨1980000⟩, .busy⟩ := by
    decide +kernel
  have hemitting : Radio.status j.station.radio = .emitting := by
    decide +kernel
  exact ⟨hreceived, hcarried, hevent, (houtcome _ hevent).2.mp rfl, hasked.mpr (.inr hemitting)⟩

end Downlink
