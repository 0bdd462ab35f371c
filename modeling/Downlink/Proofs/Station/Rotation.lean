import Downlink.Proofs.Queue.Replay
import Downlink.Proofs.Station.Action
import Downlink.Radio.Scripted

/-!
# No operation depends on where the counter's zero lies

A run on a rotated circle, with the radio doing the same, shows the same as the run itself, every
target rotated. Step by step the two runs are in the same state but for the rotation and for one
reading, the reference of a queue that is empty, which is not seen and makes no difference
(`Queue.Alike`).
-/

namespace Downlink

/-! ## Rotated stations -/

/-- The scripted radio with its counter rotated, and the targets of the packets it took. -/
def ScriptedRadio.rotate (c : Span) (r : ScriptedRadio) : ScriptedRadio :=
  { r with clock := r.clock.after c, taken := r.taken.map (Packet.rotate c) }

/-- The event with its target and the time of its dispatch rotated. -/
def Event.rotate (c : Span) (e : Event) : Event :=
  { e with target := e.target.after c, dispatched := e.dispatched.after c }

/-- The action with the readings in it rotated. -/
def Action.rotate (c : Span) : Action ScriptedRadio → Action ScriptedRadio
  | .ask r => .ask (r.rotate c)
  | .tick now => .tick (now.after c)
  | .tickNow => .tickNow
  | .drain => .drain
  | .radio r => .radio (r.rotate c)

/-- The reply with the readings in it rotated. -/
def Reply.rotate (c : Span) : Reply → Reply
  | .answered a => .answered (a.rotate c)
  | .ticked event => .ticked (event.map (Event.rotate c))
  | .drained events => .drained (events.map (Event.rotate c))
  | .none => .none

/-- The observation with the readings in it rotated. -/
def Observation.rotate (c : Span) (o : Observation ScriptedRadio) : Observation ScriptedRadio :=
  { reply := o.reply.rotate c, entries := o.entries.map (Entry.rotate c)
    beaconCount := o.beaconCount, stats := o.stats, radio := o.radio.rotate c
    events := o.events.map (Event.rotate c), droppedEvents := o.droppedEvents }

namespace Station

/-- A station is the rotated one but for the reference of an empty queue. -/
structure Rotated (c : Span) (st st' : Station ScriptedRadio) : Prop where
  /-- the queues are alike -/
  queue : (st.queue.rotate c).Alike st'.queue
  /-- the radio is the rotated one -/
  radio : st'.radio = st.radio.rotate c
  /-- so are the events that wait -/
  events : st'.events = st.events.map (Event.rotate c)
  /-- as many events found the channel full -/
  droppedEvents : st'.droppedEvents = st.droppedEvents

variable {c : Span} {st st' : Station ScriptedRadio}

/-- What is seen of it is the rotated sight. -/
theorem Rotated.observe (h : st.Rotated c st') (reply : Reply) :
    st'.observe (reply.rotate c) = (st.observe reply).rotate c := by
  rw [Station.observe, h.queue.entries_eq, h.queue.beaconCount_eq, h.queue.stats_eq, h.radio,
    h.events, h.droppedEvents]
  rfl

/-! ## One step -/

theorem Rotated.publish (h : st.Rotated c st') (e : Event) :
    (st.publish e).Rotated c (st'.publish (e.rotate c)) := by
  have hlen : st'.events.length = st.events.length := by rw [h.events, List.length_map]
  rw [Station.publish, Station.publish, hlen]
  by_cases hroom : st.events.length < channelCapacity
  · rw [if_pos hroom, if_pos hroom]
    refine ⟨h.queue, h.radio, ?_, h.droppedEvents⟩
    rw [h.events, List.map_append]
    rfl
  · rw [if_neg hroom, if_neg hroom]
    exact ⟨h.queue, h.radio, h.events, congrArg (· + 1) h.droppedEvents⟩

/-- The radio takes the rotated packet just as it takes the packet. -/
theorem send_rotate (r : ScriptedRadio) (p : Packet) (onSuccess : Outcome) :
    (Delivery.send (r.rotate c) (p.rotate c) onSuccess).outcome =
        (Delivery.send r p onSuccess).outcome ∧
      (Delivery.send (r.rotate c) (p.rotate c) onSuccess).radio =
        (Delivery.send r p onSuccess).radio.rotate c := by
  obtain ⟨clock, status, refusal, taken⟩ := r
  cases refusal with
  | none => exact ⟨rfl, rfl⟩
  | some cause => exact ⟨rfl, rfl⟩

theorem attempt_rotate (r : ScriptedRadio) (e : Entry) :
    (Delivery.attempt (r.rotate c) (e.rotate c)).outcome = (Delivery.attempt r e).outcome ∧
      (Delivery.attempt (r.rotate c) (e.rotate c)).radio =
        (Delivery.attempt r e).radio.rotate c := by
  have hstatus : Radio.status (r.rotate c) = Radio.status r := rfl
  rw [Delivery.attempt, Delivery.attempt, hstatus]
  cases Radio.status r with
  | free => exact send_rotate r e.packet .sent
  | scheduled => exact send_rotate r e.packet .sentOverwriting
  | emitting => exact ⟨rfl, rfl⟩

theorem Rotated.dispatch (h : st.Rotated c st') (now : Counter) (e : Entry) :
    (st'.dispatch (now.after c) (e.rotate c)).event =
        (st.dispatch now e).event.map (Event.rotate c) ∧
      (st.dispatch now e).station.Rotated c (st'.dispatch (now.after c) (e.rotate c)).station := by
  obtain ⟨houtcome, hradio⟩ := attempt_rotate (c := c) st.radio e
  rw [← h.radio] at houtcome hradio
  refine ⟨?_, ?_⟩
  · simp only [Station.dispatch, houtcome]
    rfl
  · have hst (n : Stats) : Rotated c
        { st with queue := { st.queue with stats := n }
                  radio := (Delivery.attempt st.radio e).radio }
        { st' with queue := { st'.queue with stats := n }
                   radio := (Delivery.attempt st'.radio (e.rotate c)).radio } :=
      ⟨h.queue.with_stats n, hradio, h.events, h.droppedEvents⟩
    simp only [Station.dispatch, houtcome, h.queue.stats_eq]
    exact (hst _).publish _

theorem Rotated.tick {s : Scheduler} (h : st.Rotated c st') (now : Counter) :
    (st'.tick s (now.after c)).event = (st.tick s now).event.map (Event.rotate c) ∧
      (st.tick s now).station.Rotated c (st'.tick s (now.after c)).station := by
  obtain ⟨halike, hqueue⟩ := s.perform_alike h.queue (.takeDue (now.after c))
  obtain ⟨hrotate, hqueue'⟩ := s.takeDue_rotate c st.queue now
  have hres : (s.takeDue st'.queue (now.after c)).result =
      (s.takeDue st.queue now).result.map (Option.map (Entry.rotate c)) :=
    (Answer.taken.inj halike).trans hrotate
  have hst : Rotated c { st with queue := (s.takeDue st.queue now).queue }
      { st' with queue := (s.takeDue st'.queue (now.after c)).queue } :=
    ⟨hqueue' ▸ hqueue, h.radio, h.events, h.droppedEvents⟩
  simp only [Station.tick, hres]
  rcases (s.takeDue st.queue now).result with reason | (_ | e)
  · exact ⟨rfl, hst⟩
  · exact ⟨rfl, hst⟩
  · exact hst.dispatch now e

/-- An action and the rotated action keep the stations rotated and give rotated replies. -/
theorem Rotated.perform {s : Scheduler} (hair : s.airtime.FrameOnly) (h : st.Rotated c st')
    (a : Action ScriptedRadio) :
    (st'.perform s (a.rotate c)).1 = (st.perform s a).1.rotate c ∧
      (st.perform s a).2.Rotated c (st'.perform s (a.rotate c)).2 := by
  cases a with
  | ask r =>
    obtain ⟨hres, hqueue⟩ := s.perform_rotate st.queue c hair r
    obtain ⟨hres', hqueue'⟩ := s.perform_alike h.queue (r.rotate c)
    refine ⟨congrArg Reply.answered (hres'.trans hres), ?_, h.radio, h.events, h.droppedEvents⟩
    exact hqueue.trans hqueue'
  | tick now =>
    obtain ⟨hevent, hstation⟩ := h.tick now
    exact ⟨congrArg Reply.ticked hevent, hstation⟩
  | tickNow =>
    have hnow : Radio.now st'.radio = (Radio.now st.radio).after c := by rw [h.radio]; rfl
    obtain ⟨hevent, hstation⟩ := h.tick (Radio.now st.radio)
    rw [← hnow] at hevent hstation
    exact ⟨congrArg Reply.ticked hevent, hstation⟩
  | drain =>
    exact ⟨congrArg Reply.drained h.events, h.queue, h.radio, rfl, h.droppedEvents⟩
  | radio r => exact ⟨rfl, h.queue, rfl, h.events, h.droppedEvents⟩

/-! ## A run -/

/-- What is seen of rotated stations on rotated runs is the rotated sight. The induction is on the
run; the two stations stay rotated from step to step. -/
theorem Rotated.trace {s : Scheduler} (hair : s.airtime.FrameOnly) (h : st.Rotated c st')
    (as : List (Action ScriptedRadio)) :
    st'.trace s (as.map (Action.rotate c)) = (st.trace s as).map (Observation.rotate c) := by
  induction as generalizing st st' with
  | nil => rfl
  | cons a as ih =>
    obtain ⟨hreply, hstation⟩ := h.perform hair a
    simp only [Station.trace, List.map_cons, hreply, hstation.observe, ih hstation]

end Station

/-- **The counter's zero does not matter.** Adding the same to every reading that a new station is
given adds it to every target that is seen of it, and changes nothing else: not what is accepted,
refused, due or dropped, nor the order of the entries, nor any count. Only the unused target of an
immediate packet that is handed in or given back without a slot stays as it is. -/
theorem trace_rotate (config : QueueConfig) {airtime : AirtimeModel} (hair : airtime.FrameOnly)
    (c : Span) (r : ScriptedRadio) (as : List (Action ScriptedRadio)) :
    Station.trace (.ofConfig config airtime) { radio := r.rotate c } (as.map (Action.rotate c)) =
      (Station.trace (.ofConfig config airtime) { radio := r } as).map (Observation.rotate c) := by
  have hfresh : Station.Rotated c { radio := r } { radio := r.rotate c } :=
    ⟨.inr ⟨rfl, rfl⟩, rfl, rfl, rfl⟩
  exact hfresh.trace hair as

/-- A push that is accepted before the rotated counter passes zero and sent after. -/
theorem trace_rotate_zero :
    let push := Packet.immediate 7 [0x60] 869525000 (.loraDownlink 9 .khz125)
    let as := [.ask (.enqueue ⟨100⟩ push .classC), .tick ⟨60000⟩, .drain]
    AirtimeModel.modem.FrameOnly ∧
    (Station.trace (.ofConfig {} .modem) { radio := ({} : ScriptedRadio) } as).map (·.reply) =
      [.answered (.enqueued (.ok ⟨80100⟩)),
        .ticked (some ⟨7, .classC, ⟨80100⟩, ⟨60000⟩, .sent⟩),
        .drained [⟨7, .classC, ⟨80100⟩, ⟨60000⟩, .sent⟩]] ∧
    Station.trace (.ofConfig {} .modem) { radio := ScriptedRadio.rotate 4294900000 {} }
        (as.map (Action.rotate 4294900000)) =
      (Station.trace (.ofConfig {} .modem) { radio := {} } as).map
        (Observation.rotate 4294900000) := by
  intro push as
  refine ⟨AirtimeModel.frameOnly_modem, ?_, ?_⟩
  · decide +kernel
  · exact trace_rotate {} AirtimeModel.frameOnly_modem 4294900000 {} as

end Downlink
