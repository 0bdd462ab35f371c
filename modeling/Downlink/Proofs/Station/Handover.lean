import Downlink.Proofs.Queue.CollisionFree
import Downlink.Proofs.Queue.Rotation
import Downlink.Proofs.Radio.Simulated
import Downlink.Proofs.Station.Action

/-!
# When a downlink meets an occupied radio

A gateway hands downlinks in and ticks as time passes, and its radio holds one frame at a time. The
queue keeps what is queued apart, so one would expect the radio to be free whenever a downlink is
due. It is not always: the queue knows nothing of a frame once the radio has it. This module says
exactly when the radio may be occupied.

A **handover** is a tick that found a downlink due. Its outcome is `sent` unless the frame that the
radio took last is still waiting or on the air, and then one of three things is the reason:

* the downlink was accepted after that frame had left the queue, and was not compared with it;
* the downlink is a beacon, and the frame belongs to a class that may come into a beacon's guard;
* the frame is longer on the air than the queue had reserved for it, as a beacon may be.

The argument is about two entries that were queued together. The targets of both lie within one
maximum advance when the earlier one is handed over, and the later one is handed over before its
target has passed, so distances on the circle are distances in time. The later window begins a
look-ahead before its target at the latest, which is before it can be due, and by then the earlier
window has ended (`Scheduler.Apart.over`).
-/

namespace Downlink

/-! ## Two entries that were queued together -/

/-- In a configuration that was checked, one maximum advance is less than half a turn. -/
theorem QueueConfig.maxAdvance_lt {config : QueueConfig} (h : config.validate = .ok ()) :
    config.maxAdvance.toNat < 2 ^ 31 := by
  have hsize : UInt32.size = 2 ^ 32 := rfl
  have hadvance := (validate_eq_ok_iff.mp h).2.2.1
  omega

namespace Scheduler

variable {s : Scheduler} {e f : Entry} {a b : Counter}

/-- The later one of two entries that are apart, unless it is a beacon that the other may approach,
comes after the other's time on the radio and its own. -/
theorem Apart.gap (h : s.Apart e f)
    (hguard : ¬(e.trafficClass = .beacon ∧ f.trafficClass.mayApproachBeacon = true)) :
    e.preDelay.toNat + f.postDelay.toNat < (e.target.since f.target).toNat := by
  have hgap := h.reach_lt
  rw [reach_eq_preDelay hguard] at hgap
  omega

/-- A lead that is plausible at two times less than half a turn apart has shrunk by the time that
passed, and no more than that has passed. -/
theorem lead_shrinks (hadvance : s.policy.maxAdvance.toNat < 2 ^ 31)
    (hab : (b.since a).toNat < 2 ^ 31) (ha : s.isStale a e = false) (hb : s.isStale b e = false) :
    (b.since a).toNat ≤ (e.lead a).toNat ∧
      (e.lead b).toNat = (e.lead a).toNat - (b.since a).toNat := by
  have hlea : (e.lead a).toNat < s.policy.maxAdvance.toNat :=
    UInt32.lt_iff_toNat_lt.mp (UInt32.not_le.mp (of_decide_eq_false ha))
  have hleb : (e.lead b).toNat < s.policy.maxAdvance.toNat :=
    UInt32.lt_iff_toNat_lt.mp (UInt32.not_le.mp (of_decide_eq_false hb))
  by_cases hle : (b.since a).toNat ≤ (e.lead a).toNat
  · exact ⟨hle, Counter.toNat_since_of_le hle⟩
  · -- a target that had passed by `b` would seem more than half a turn ahead
    have hpassed : (e.lead b).toNat = _ := Counter.toNat_since_of_lt (Nat.lt_of_not_le hle)
    rw [Entry.lead] at hleb hpassed
    omega

/-- If `f` is taken from the queue at `a` while `e` stays, and `e` is due at `b`, the time of `f` on
the radio is over by then. -/
theorem Apart.over (h : s.Apart e f)
    (hguard : ¬(e.trafficClass = .beacon ∧ f.trafficClass.mayApproachBeacon = true))
    (hadvance : s.policy.maxAdvance.toNat < 2 ^ 31) (hab : (b.since a).toNat < 2 ^ 31)
    (hpre : s.policy.jitDelay ≤ e.preDelay) (hfirst : f.lead a ≤ e.lead a)
    (ha : s.isStale a e = false) (hb : s.isStale b e = false)
    (hdue : e.lead b < s.policy.jitDelay) :
    (f.lead a).toNat + f.postDelay.toNat ≤ (b.since a).toNat := by
  have hgap := h.gap hguard
  have hbetween : (e.target.since f.target).toNat = (e.lead a).toNat - (f.lead a).toNat :=
    Counter.toNat_since_of_le (UInt32.le_iff_toNat_le.mp hfirst)
  obtain ⟨-, hshrunk⟩ := lead_shrinks hadvance hab ha hb
  have hjit := UInt32.le_iff_toNat_le.mp hpre
  have hlate := UInt32.lt_iff_toNat_lt.mp hdue
  omega

/-- What is known of the times of every queued entry. -/
structure Measured (s : Scheduler) (e : Entry) : Prop where
  /-- it takes the radio as long before its target as its class does -/
  preDelay : e.preDelay = s.policy.preDelay e.trafficClass
  /-- and data takes it after that for its time on air, which does not depend on the target -/
  postDelay : s.airtime.FrameOnly → e.trafficClass ≠ .beacon → e.postDelay = s.airtime e.packet

theorem Admitted.measured {q : Queue} {now : Counter} {p : Packet} {c : TrafficClass}
    (h : s.Admitted q now p c e) : s.Measured e := by
  refine ⟨?_, fun hair hc => ?_⟩
  · rw [h.trafficClass]
    exact h.preDelay
  · have htime := timeOnAir_of_entryRefusal? h.entry
    have hsame : s.airtime e.packet = s.airtime p := by
      refine hair _ _ ?_ ?_ <;> rw [h.packet_eq]
    rw [h.postDelay, htime, hsame]
    rw [h.trafficClass] at hc
    cases c with
    | beacon => exact absurd rfl hc
    | _ => rfl

end Scheduler

/-! ## A gateway as time passes -/

/-- What someone does with a gateway. -/
inductive Deed where
  /-- hands a downlink in -/
  | handIn (p : Packet) (c : TrafficClass)
  /-- ticks -/
  | tick
deriving DecidableEq, Repr

/-- What is done, and when. -/
structure Moment where
  /-- microseconds since the start -/
  time : Nat
  /-- what is done then -/
  deed : Deed
deriving DecidableEq, Repr

/-- A tick that found a downlink due. -/
structure Handover where
  /-- microseconds since the start -/
  time : Nat
  /-- the entry that was due -/
  entry : Entry
  /-- the entries that stay in the queue -/
  left : List Entry
  /-- the report -/
  event : Event
deriving DecidableEq, Repr

/-- A station with a simulated radio, and what its ticks came to, latest first. -/
structure Gateway where
  /-- the station -/
  station : Station SimulatedRadio
  /-- the ticks that found a downlink due -/
  handovers : List Handover := []
  /-- the events of all ticks -/
  events : List Event := []

/-- What the counter shows some time after the start. -/
def Counter.elapsed (start : Counter) (time : Nat) : Counter := start.after (.ofNat time)

namespace Handover

variable (s : Scheduler) (start : Counter) (h : Handover)

/-- Whether the radio took the downlink. -/
def taken : Bool := h.event.outcome.isSent

/-- How long after the handover the frame starts. -/
def lead : Span := h.entry.lead (start.elapsed h.time)

/-- The frame the downlink becomes when the radio takes it. -/
def frame : Frame :=
  ⟨h.entry.packet.id, h.entry.target, h.entry.target.after (s.airtime h.entry.packet),
    start.elapsed h.time⟩

end Handover

namespace Gateway

/-- The station with its radio's counter showing the time. -/
def clocked (g : Gateway) (now : Counter) : Station SimulatedRadio :=
  { g.station with radio := { g.station.radio with clock := now } }

/-- A tick, written down if it found a downlink due. -/
def tick (s : Scheduler) (start : Counter) (g : Gateway) (time : Nat) : Gateway :=
  let now := start.elapsed time
  let t := (g.clocked now).tick s now
  let handover := match (s.takeDue g.station.queue now).result, t.event with
    | .ok (some e), some event => [⟨time, e, t.station.queue.entries, event⟩]
    | _, _ => []
  { station := t.station, handovers := handover ++ g.handovers
    events := t.event.toList ++ g.events }

/-- Does what is to be done at a moment, the radio's counter showing the time. -/
def step (s : Scheduler) (start : Counter) (g : Gateway) (m : Moment) : Gateway :=
  let now := start.elapsed m.time
  match m.deed with
  | .handIn p c =>
    { g with station := { g.clocked now with queue := (s.enqueue g.station.queue now p c).queue } }
  | .tick => g.tick s start m.time

/-- Does one after another what is to be done. -/
def run (s : Scheduler) (start : Counter) (g : Gateway) (ms : List Moment) : Gateway :=
  ms.foldl (step s start) g

end Gateway

/-! ## Why a radio is occupied -/

/-- Why the frame of `f` may keep the radio when `e` is handed over next. -/
inductive Excuse (s : Scheduler) (f e : Handover) : Prop where
  /-- the downlink was accepted after the frame had left the queue -/
  | late (h : e.entry ∉ f.left)
  /-- the downlink is a beacon, and the frame may come into its guard -/
  | guard (he : e.entry.trafficClass = .beacon)
      (hf : f.entry.trafficClass.mayApproachBeacon = true)
  /-- the frame is on the air for longer than was reserved for it -/
  | overlong (h : f.entry.postDelay < s.airtime f.entry.packet)
      (hf : f.entry.trafficClass = .beacon ∨ ¬s.airtime.FrameOnly)

/-- The outcome of a handover after others: the downlink is sent, or the frame that the radio took
last still waits, or is on the air, and there is an excuse. -/
def Judged (s : Scheduler) (start : Counter) (e : Handover) (older : List Handover) : Prop :=
  e.event.outcome = .sent ∨ ∃ f, older.find? Handover.taken = some f ∧ Excuse s f e ∧
    (e.event.outcome = .sentOverwriting ∧ e.time < f.time + (f.lead start).toNat ∨
      e.event.outcome = .busy ∧ f.time + (f.lead start).toNat ≤ e.time ∧
        e.time < f.time + (f.lead start).toNat + (s.airtime f.entry.packet).toNat)

/-- What is known of a downlink that was handed over and of those that stayed. -/
structure Handover.Sound (s : Scheduler) (start : Counter) (f : Handover) : Prop where
  /-- it was queued -/
  measured : s.Measured f.entry
  /-- its target had not passed -/
  fresh : s.isStale (start.elapsed f.time) f.entry = false
  /-- the ones that stayed do not overlap it -/
  apart : ∀ x ∈ f.left, s.Apart x f.entry
  /-- their targets had not passed -/
  stay : ∀ x ∈ f.left, s.isStale (start.elapsed f.time) x = false
  /-- none of them comes earlier -/
  first : ∀ x ∈ f.left, f.lead start ≤ x.lead (start.elapsed f.time)

/-- What holds of a gateway at all times. -/
structure Gateway.Sound (s : Scheduler) (start : Counter) (time : Nat) (g : Gateway) : Prop where
  /-- the entries do not overlap -/
  apart : g.station.queue.entries.Pairwise s.Apart
  /-- and their times are those of their classes -/
  measured : ∀ e ∈ g.station.queue.entries, s.Measured e
  /-- queue and radio agree on times on air -/
  airtime : g.station.radio.airtime = s.airtime
  /-- the radio's latest frame is the one it took last -/
  latest : g.station.radio.history.getLast? =
    (g.handovers.find? Handover.taken).map (Handover.frame s start)
  /-- which was handed over no later than now -/
  sound : ∀ f ∈ g.handovers.find? Handover.taken, f.time ≤ time ∧ f.Sound s start
  /-- every handover was reported -/
  reported : g.events = g.handovers.map (·.event)
  /-- every handover came to what it should -/
  judged : ∀ e older, (e :: older) <:+ g.handovers → Judged s start e older

/-! ## Judging a handover -/

section Judging

variable {s : Scheduler} {start : Counter}

/-- An occupied radio has an excuse. If there were none, the frame would have left the air before
the downlink was due. -/
theorem Handover.Sound.excuse {f e : Handover} (hf : f.Sound s start)
    (hadvance : s.policy.maxAdvance.toNat < 2 ^ 31) (hfe : f.time ≤ e.time)
    (htime : e.time < 2 ^ 31) (hmeasured : s.Measured e.entry)
    (hfresh : s.isStale (start.elapsed e.time) e.entry = false)
    (hdue : e.entry.lead (start.elapsed e.time) < s.policy.jitDelay)
    (hoccupied : e.time < f.time + (f.lead start).toNat + (s.airtime f.entry.packet).toNat) :
    Excuse s f e := by
  by_cases hleft : e.entry ∈ f.left
  · by_cases hguard : e.entry.trafficClass = .beacon ∧
        f.entry.trafficClass.mayApproachBeacon = true
    · exact .guard hguard.1 hguard.2
    · have helapsed : ((start.elapsed e.time).since (start.elapsed f.time)).toNat =
          e.time - f.time := start.toNat_elapsed hfe (by omega)
      have hpre : s.policy.jitDelay ≤ e.entry.preDelay := by
        rw [hmeasured.preDelay]
        exact s.policy.jitDelay_le_preDelay _
      have hover := (hf.apart _ hleft).over hguard hadvance (by omega) hpre (hf.first _ hleft)
        (hf.stay _ hleft) hfresh hdue
      have hlong : f.entry.postDelay.toNat < (s.airtime f.entry.packet).toNat := by
        rw [helapsed] at hover
        change (f.lead start).toNat + _ ≤ _ at hover
        omega
      refine .overlong (UInt32.lt_iff_toNat_lt.mpr hlong) ?_
      -- of data the queue knows the time on air, so the frame is a beacon
      by_contra hnot
      rw [not_or, not_not] at hnot
      rw [hf.measured.postDelay hnot.2 hnot.1] at hlong
      exact absurd hlong (Nat.lt_irrefl _)
  · exact .late hleft

/-- What the radio does with the frame of an earlier handover tells how far that frame has come. -/
theorem Handover.Sound.status {f : Handover} (hf : f.Sound s start)
    (hadvance : s.policy.maxAdvance.toNat < 2 ^ 31) {time : Nat} (hft : f.time ≤ time)
    (htime : time < 2 ^ 31) :
    ((f.frame s start).statusAt (start.elapsed time) = .scheduled ↔
      time < f.time + (f.lead start).toNat) ∧
    ((f.frame s start).statusAt (start.elapsed time) = .emitting →
      time < f.time + (f.lead start).toNat + (s.airtime f.entry.packet).toNat) := by
  have helapsed : ((start.elapsed time).since (f.frame s start).programmed).toNat =
      time - f.time := start.toNat_elapsed hft (by omega)
  have hlead : ((f.frame s start).target.since (f.frame s start).programmed).toNat =
      (f.lead start).toNat := rfl
  have hnear : (f.lead start).toNat < 2 ^ 31 := by
    have hlt := UInt32.lt_iff_toNat_lt.mp (UInt32.not_le.mp (of_decide_eq_false hf.fresh))
    change (f.lead start).toNat < _ at hlt
    omega
  refine ⟨?_, fun hemitting => ?_⟩
  · rw [Frame.statusAt_eq_scheduled_iff (by omega), helapsed, hlead]
    omega
  · -- a frame that should be over is over
    by_contra hover
    have hfree : (f.frame s start).statusAt (start.elapsed time) = .free :=
      Frame.statusAt_eq_free rfl (by omega)
    rw [hfree] at hemitting
    cases hemitting

end Judging

/-! ## One moment -/

namespace Gateway

variable {s : Scheduler} {start : Counter} {g : Gateway} {time : Nat}

/-- The frame that the radio took last was handed over no later than any later time either. -/
theorem Sound.later (h : g.Sound s start time) {time' : Nat} (hle : time ≤ time') :
    ∀ f ∈ g.handovers.find? Handover.taken, f.time ≤ time' ∧ f.Sound s start := by
  intro f hf
  obtain ⟨hearlier, hf⟩ := h.sound f hf
  exact ⟨Nat.le_trans hearlier hle, hf⟩

/-- A downlink that is handed in does not overlap the others if it is accepted. The radio hears
nothing of it. -/
theorem Sound.handIn (h : g.Sound s start time) {time' : Nat} (hle : time ≤ time') (p : Packet)
    (c : TrafficClass) : (g.step s start ⟨time', .handIn p c⟩).Sound s start time' := by
  rcases s.enqueue_cases g.station.queue (start.elapsed time') p c with
    ⟨e, he, -, hqueue⟩ | ⟨r, -, -, hqueue⟩
  · have hall : (s.enqueue g.station.queue (start.elapsed time') p c).queue.entries.Perm
        (e :: g.station.queue.entries) := by
      rw [hqueue]
      exact s.push_perm _ e
    refine ⟨he.pairwise_apart h.apart hall, fun x hx => ?_, h.airtime, h.latest, h.later hle,
      h.reported, h.judged⟩
    rcases List.mem_cons.mp (hall.mem_iff.mp hx) with rfl | hx
    · exact he.measured
    · exact h.measured x hx
  · have hall : (s.enqueue g.station.queue (start.elapsed time') p c).queue.entries =
        g.station.queue.entries := by rw [hqueue]
    refine ⟨?_, ?_, h.airtime, h.latest, h.later hle, h.reported, h.judged⟩
    · change (s.enqueue _ _ p c).queue.entries.Pairwise _
      rw [hall]
      exact h.apart
    · change ∀ e ∈ (s.enqueue _ _ p c).queue.entries, _
      rw [hall]
      exact h.measured

/-- What a tick comes to that finds nothing due. -/
structure Idle (g : Gateway) (now : Counter) (g' : Gateway) : Prop where
  /-- at most it loses entries -/
  parts : ∃ gone, (gone ++ g'.station.queue.entries).Perm g.station.queue.entries
  /-- the radio is left alone -/
  radio : g'.station.radio = (g.clocked now).radio
  /-- nothing is written down -/
  handovers : g'.handovers = g.handovers
  /-- and nothing reported -/
  events : g'.events = g.events

/-- What a tick comes to that finds a downlink due. -/
structure HandsOver (s : Scheduler) (start : Counter) (g : Gateway) (h : Handover) (g' : Gateway) :
    Prop where
  /-- the downlink was queued with those that stay -/
  parts : ∃ gone, (gone ++ h.entry :: h.left).Perm g.station.queue.entries
  /-- the target of none of them has passed -/
  fresh : ∀ x ∈ h.entry :: h.left, s.isStale (start.elapsed h.time) x = false
  /-- none of them comes earlier -/
  first : ∀ x ∈ h.left, h.lead start ≤ x.lead (start.elapsed h.time)
  /-- less than the look-ahead is left for it -/
  due : h.lead start < s.policy.jitDelay
  /-- the outcome is what the radio made of it -/
  outcome : h.event.outcome =
    (Delivery.attempt (g.clocked (start.elapsed h.time)).radio h.entry).outcome
  /-- those that stay are the queue then -/
  entries : g'.station.queue.entries = h.left
  /-- the radio is what the attempt made of it -/
  radio : g'.station.radio =
    (Delivery.attempt (g.clocked (start.elapsed h.time)).radio h.entry).radio
  /-- the handover is written down -/
  handovers : g'.handovers = h :: g.handovers
  /-- and reported -/
  events : g'.events = h.event :: g.events

/-- A tick finds nothing due, or it hands the first of those over whose targets have not passed. -/
theorem tick_cases (s : Scheduler) (start : Counter) (g : Gateway) (time : Nat) :
    g.Idle (start.elapsed time) (g.tick s start time) ∨
      ∃ h : Handover, h.time = time ∧ g.HandsOver s start h (g.tick s start time) := by
  have hidle (hnone : ∀ e, (s.takeDue g.station.queue (start.elapsed time)).result ≠ .ok (some e)) :
      g.Idle (start.elapsed time) (g.tick s start time) := by
    obtain ⟨hevent, hstation⟩ :=
      @Station.tick_of_not_due _ _ s (g.clocked (start.elapsed time)) _ hnone
    refine ⟨?_, ?_, ?_, ?_⟩
    · change ∃ gone, (gone ++ ((g.clocked _).tick s _).station.queue.entries).Perm _
      rw [hstation]
      exact s.takeDue_entries g.station.queue (start.elapsed time)
    · change ((g.clocked _).tick s _).station.radio = _
      rw [hstation]
    · simp only [tick, hevent]
      rcases (s.takeDue g.station.queue (start.elapsed time)).result with _ | (_ | e) <;> rfl
    · simp only [tick, hevent]
      rfl
  rcases s.takeDue_cases g.station.queue (start.elapsed time) with
    ⟨-, hres, -⟩ | ⟨-, gone, left, -, hparted, ⟨-, hres, -⟩ | ⟨i, hi, hdue, hres, hqueue⟩⟩
  · exact .inl (hidle fun e he => by cases hres.symm.trans he)
  · exact .inl (hidle fun e he => by cases hres.symm.trans he)
  obtain ⟨hevent, hqueue', hradio⟩ :=
    @Station.tick_of_due _ _ s (g.clocked (start.elapsed time)) _ _ hres
  obtain ⟨_, hjit, hfirst⟩ := s.due?_eq_some hdue
  have hperm := s.removeAt_perm hi
  have hentries : (g.tick s start time).station.queue.entries =
      (s.removeAt left i hi).2.entries := by
    change ((g.clocked _).tick s _).station.queue.entries = _
    rw [hqueue']
    change (s.takeDue g.station.queue (start.elapsed time)).queue.entries = _
    rw [hqueue, Scheduler.countStale_entries]
  refine .inr ⟨⟨time, left.entries[i], (s.removeAt left i hi).2.entries, left.entries[i].packet.id,
    left.entries[i].trafficClass, left.entries[i].target, start.elapsed time,
    (Delivery.attempt (g.clocked (start.elapsed time)).radio left.entries[i]).outcome⟩, rfl,
    ⟨gone, ?_⟩, ?_, ?_, hjit, rfl, hentries, hradio, ?_, ?_⟩
  · exact (hperm.append_left gone).trans hparted.perm
  · exact fun x hx => hparted.kept x (hperm.mem_iff.mp hx)
  · exact fun x hx => hfirst x (hperm.mem_iff.mp (List.mem_cons_of_mem _ hx))
  · rw [← hentries]
    simp only [tick, hres, hevent]
    rfl
  · simp only [tick, hevent]
    rfl

/-- What the radio is doing is what it does with the frame it took last. -/
theorem Sound.status (h : g.Sound s start time) (now : Counter) :
    (g.clocked now).radio.statusAt now =
      ((g.handovers.find? Handover.taken).map fun f => (f.frame s start).statusAt now).getD
        .free := by
  have hlatest : (g.clocked now).radio.history.getLast? = _ := h.latest
  rw [SimulatedRadio.statusAt, hlatest]
  cases g.handovers.find? Handover.taken with
  | none => rfl
  | some f => rfl

/-- The frame that the radio took last decides the outcome, and how far it has come is known. -/
theorem Sound.judge (h : g.Sound s start time) (hadvance : s.policy.maxAdvance.toNat < 2 ^ 31)
    {e : Handover} {g' : Gateway} (he : g.HandsOver s start e g') (hle : time ≤ e.time)
    (htime : e.time < 2 ^ 31) : Judged s start e g.handovers := by
  have hstatus := h.status (start.elapsed e.time)
  have hmeasured : s.Measured e.entry := by
    obtain ⟨gone, hparts⟩ := he.parts
    exact h.measured _ (hparts.mem_iff.mp (List.mem_append_right _ List.mem_cons_self))
  have hattempt := (g.clocked (start.elapsed e.time)).radio.attempt_cases e.entry
  rw [← he.outcome, show (g.clocked (start.elapsed e.time)).radio.clock = start.elapsed e.time
    from rfl, hstatus] at hattempt
  rcases hlast : g.handovers.find? Handover.taken with _ | f
  · -- nothing was taken, so the radio was free
    rw [hlast] at hattempt
    rcases hattempt with ⟨⟨-, hsent⟩ | ⟨hfree, -⟩, -⟩ | ⟨hfree, -⟩
    · exact .inl hsent
    · cases hfree
    · cases hfree
  · rw [hlast] at hattempt
    obtain ⟨hfe, hf⟩ := h.sound f hlast
    obtain ⟨hscheduled, hemitting⟩ := hf.status hadvance (Nat.le_trans hfe hle) htime
    have hexcuse := hf.excuse hadvance (Nat.le_trans hfe hle) htime hmeasured
      (he.fresh _ List.mem_cons_self) he.due
    rcases hattempt with ⟨⟨-, hsent⟩ | ⟨hwaits, houtcome⟩, -⟩ | ⟨hairs, houtcome, -⟩
    · exact .inl hsent
    · have hbefore := hscheduled.mp hwaits
      exact .inr ⟨f, hlast, hexcuse (by omega), .inl ⟨houtcome, hbefore⟩⟩
    · have hbefore := hemitting hairs
      -- on the air means that the frame does not wait any more
      refine .inr ⟨f, hlast, hexcuse hbefore, .inr ⟨houtcome, ?_, hbefore⟩⟩
      by_contra hnot
      have hwaits := hscheduled.mpr (Nat.lt_of_not_le hnot)
      cases hwaits.symm.trans hairs

/-- After a handover the radio's latest frame is the one it took last. -/
theorem Sound.radio (h : g.Sound s start time) {e : Handover} {g' : Gateway}
    (he : g.HandsOver s start e g') :
    g'.station.radio.airtime = s.airtime ∧
      g'.station.radio.history.getLast? =
        (g'.handovers.find? Handover.taken).map (Handover.frame s start) := by
  have hairtime : (g.clocked (start.elapsed e.time)).radio.airtime = s.airtime := h.airtime
  have hframe : (g.clocked (start.elapsed e.time)).radio.frame e.entry.packet =
      e.frame s start := by
    rw [SimulatedRadio.frame, hairtime]
    rfl
  rw [he.radio, he.handovers]
  rcases (g.clocked (start.elapsed e.time)).radio.attempt_cases e.entry with
    ⟨houtcome, htook, hsame⟩ | ⟨-, houtcome, hsame⟩
  · have htaken : e.taken = true := by
      rw [Handover.taken, he.outcome]
      rcases houtcome with ⟨-, hsent⟩ | ⟨-, hsent⟩ <;> (rw [hsent]; rfl)
    rw [hsame, htook, hframe, List.find?_cons_of_pos htaken]
    exact ⟨hairtime, rfl⟩
  · have htaken : ¬e.taken = true := by
      rw [Handover.taken, he.outcome, houtcome]
      nofun
    rw [hsame, List.find?_cons_of_neg htaken]
    exact ⟨hairtime, h.latest⟩

/-- A tick keeps everything, and a handover that it makes is judged by those before it. -/
theorem Sound.tick (h : g.Sound s start time) (hadvance : s.policy.maxAdvance.toNat < 2 ^ 31)
    {time' : Nat} (hle : time ≤ time') (htime : time' < 2 ^ 31) :
    (g.tick s start time').Sound s start time' := by
  rcases g.tick_cases s start time' with hidle | ⟨e, rfl, he⟩
  · obtain ⟨gone, hlost⟩ := hidle.parts
    refine ⟨Scheduler.pairwise_apart_of_lost hlost h.apart, fun x hx => ?_, ?_, ?_, ?_, ?_, ?_⟩
    · exact h.measured x (hlost.mem_iff.mp (List.mem_append_right _ hx))
    · rw [hidle.radio]
      exact h.airtime
    · rw [hidle.radio, hidle.handovers]
      exact h.latest
    · rw [hidle.handovers]
      exact h.later hle
    · rw [hidle.events, hidle.handovers]
      exact h.reported
    · rw [hidle.handovers]
      exact h.judged
  · obtain ⟨gone, hparts⟩ := he.parts
    have hmem : ∀ x ∈ e.entry :: e.left, s.Measured x := fun x hx =>
      h.measured x (hparts.mem_iff.mp (List.mem_append_right _ hx))
    obtain ⟨hapart, hleft⟩ :=
      List.pairwise_cons.mp (Scheduler.pairwise_apart_of_lost hparts h.apart)
    have hnew : e.Sound s start :=
      ⟨hmem _ List.mem_cons_self, he.fresh _ List.mem_cons_self, fun x hx => (hapart x hx).symm,
        fun x hx => he.fresh x (List.mem_cons_of_mem _ hx), he.first⟩
    obtain ⟨hairtime, hlatest⟩ := h.radio he
    refine ⟨?_, ?_, hairtime, hlatest, ?_, ?_, ?_⟩
    · rw [he.entries]
      exact hleft
    · rw [he.entries]
      exact fun x hx => hmem x (List.mem_cons_of_mem _ hx)
    · rw [he.handovers]
      intro f hf
      rcases List.find?_cons_eq_some.mp hf with ⟨-, rfl⟩ | ⟨-, hf⟩
      · exact ⟨Nat.le_refl _, hnew⟩
      · exact h.later hle f hf
    · rw [he.events, he.handovers, h.reported, List.map_cons]
    · rw [he.handovers]
      intro f older hsuffix
      rcases List.suffix_cons_iff.mp hsuffix with heq | hsuffix
      · obtain ⟨rfl, rfl⟩ := List.cons.inj heq
        exact h.judge hadvance he hle htime
      · exact h.judged f older hsuffix

theorem Sound.step (h : g.Sound s start time) (hadvance : s.policy.maxAdvance.toNat < 2 ^ 31)
    {m : Moment} (hle : time ≤ m.time) (htime : m.time < 2 ^ 31) :
    (g.step s start m).Sound s start m.time := by
  obtain ⟨time', deed⟩ := m
  cases deed with
  | handIn p c => exact h.handIn hle p c
  | tick => exact h.tick hadvance hle htime

/-! ## As time passes -/

/-- The induction is on what is done; the time of the last moment is the one the gateway is sound
at. -/
theorem Sound.run (h : g.Sound s start time) (hadvance : s.policy.maxAdvance.toNat < 2 ^ 31)
    {ms : List Moment} (hle : ∀ m ∈ ms, time ≤ m.time)
    (hmono : ms.Pairwise fun m m' => m.time ≤ m'.time) (htime : ∀ m ∈ ms, m.time < 2 ^ 31) :
    ∃ last, (g.run s start ms).Sound s start last := by
  induction ms generalizing g time with
  | nil => exact ⟨time, h⟩
  | cons m ms ih =>
    obtain ⟨hm, hms⟩ := List.pairwise_cons.mp hmono
    have hone := h.step hadvance (hle m List.mem_cons_self) (htime m List.mem_cons_self)
    exact ih hone hm hms fun m' hm' => htime m' (List.mem_cons_of_mem _ hm')

/-- A gateway whose queue is empty and whose radio has not sent anything. -/
def fresh (start : Counter) (airtime : AirtimeModel) : Gateway :=
  { station := { radio := { clock := start, airtime } } }

theorem fresh_sound (s : Scheduler) (start : Counter) :
    (fresh start s.airtime).Sound s start 0 := by
  refine ⟨.nil, fun e he => ?_, rfl, rfl, fun f hf => ?_, rfl, fun e older hsuffix => ?_⟩
  · exact absurd he List.not_mem_nil
  · exact absurd hf (Option.not_mem_none f)
  · cases List.suffix_nil.mp hsuffix

end Gateway

/-- **When a downlink meets an occupied radio.** Let downlinks be handed in and the dispatcher tick
in any order as time passes, for less than half a turn of the counter, in a configuration that was
checked and with a new radio that shares the counter and the times on air. Then every event says
that the downlink was sent, unless the frame the radio took last still waits for its start, in which
case it is overwritten, or is on the air, in which case the downlink is lost. And then the downlink
was accepted after that frame had left the queue, or it is a beacon whose guard the frame may enter,
or the frame is longer on the air than the queue had reserved. -/
theorem run_judged {config : QueueConfig} (hvalid : config.validate = .ok ())
    (airtime : AirtimeModel) (start : Counter) {ms : List Moment}
    (hmono : ms.Pairwise fun m m' => m.time ≤ m'.time) (htime : ∀ m ∈ ms, m.time < 2 ^ 31) :
    let s := Scheduler.ofConfig config airtime
    let g := Gateway.run s start (.fresh start airtime) ms
    g.events = g.handovers.map (·.event) ∧
    ∀ e older, (e :: older) <:+ g.handovers →
      e.event.outcome = .sent ∨
      ∃ f, older.find? Handover.taken = some f ∧
        (e.event.outcome = .sentOverwriting ∧ e.time < f.time + (f.lead start).toNat ∨
          e.event.outcome = .busy ∧ f.time + (f.lead start).toNat ≤ e.time ∧
            e.time < f.time + (f.lead start).toNat + (airtime f.entry.packet).toNat) ∧
        (e.entry ∉ f.left ∨
          e.entry.trafficClass = .beacon ∧ f.entry.trafficClass.mayApproachBeacon = true ∨
          f.entry.postDelay < airtime f.entry.packet ∧
            (f.entry.trafficClass = .beacon ∨ ¬airtime.FrameOnly)) := by
  intro s g
  have hadvance : s.policy.maxAdvance.toNat < 2 ^ 31 := QueueConfig.maxAdvance_lt hvalid
  obtain ⟨last, hsound⟩ := (Gateway.fresh_sound s start).run hadvance
    (fun m _ => Nat.zero_le m.time) hmono htime
  refine ⟨hsound.reported, fun e older hsuffix => ?_⟩
  rcases hsound.judged e older hsuffix with hsent | ⟨f, hf, hexcuse, houtcome⟩
  · exact .inl hsent
  · refine .inr ⟨f, hf, houtcome, ?_⟩
    cases hexcuse with
    | late h => exact .inl h
    | guard he hf => exact .inr (.inl ⟨he, hf⟩)
    | overlong h hf => exact .inr (.inr ⟨h, hf⟩)

/-- A class A reply that went into a beacon's guard, and the beacon handed over while the reply
still waits. -/
theorem run_judged_guard :
    let beacon := Packet.timestamped 0 [0] ⟨103600⟩ 869525000 (.loraBeacon 9 .khz125)
    let reply := Packet.timestamped 1 [0x60] ⟨100000⟩ 869525000 (.loraDownlink 9 .khz125)
    let ms : List Moment := [⟨0, .handIn beacon .beacon⟩, ⟨0, .handIn reply .classA⟩,
      ⟨70000, .tick⟩, ⟨70000, .tick⟩]
    let s := Scheduler.ofConfig {} (.fixed 1000)
    let g := Gateway.run s ⟨0⟩ (.fresh ⟨0⟩ (.fixed 1000)) ms
    g.handovers.map (·.event.outcome) = [.sentOverwriting, .sent] ∧
    g.events = g.handovers.map (·.event) ∧
    ∀ e older, (e :: older) <:+ g.handovers →
      e.event.outcome = .sent ∨
      ∃ f, older.find? Handover.taken = some f ∧
        (e.event.outcome = .sentOverwriting ∧ e.time < f.time + (f.lead ⟨0⟩).toNat ∨
          e.event.outcome = .busy ∧ f.time + (f.lead ⟨0⟩).toNat ≤ e.time ∧
            e.time < f.time + (f.lead ⟨0⟩).toNat + (AirtimeModel.fixed 1000 f.entry.packet).toNat) ∧
        (e.entry ∉ f.left ∨
          e.entry.trafficClass = .beacon ∧ f.entry.trafficClass.mayApproachBeacon = true ∨
          f.entry.postDelay < AirtimeModel.fixed 1000 f.entry.packet ∧
            (f.entry.trafficClass = .beacon ∨ ¬(AirtimeModel.fixed 1000).FrameOnly)) := by
  intro beacon reply ms s g
  have hmono : ms.Pairwise fun m m' => m.time ≤ m'.time := by decide
  have htime : ∀ m ∈ ms, m.time < 2 ^ 31 := by decide
  refine ⟨by decide +kernel, ?_⟩
  exact run_judged (by decide) (.fixed 1000) ⟨0⟩ hmono htime

/-- None of the three reasons can be left out: a reply accepted right behind one that the radio
already has, the beacon above, and a reply behind a beacon that is on the air for three seconds. -/
theorem run_not_sent :
    let beacon := fun target =>
      Packet.timestamped 0 [0] ⟨target⟩ 869525000 (.loraBeacon 9 .khz125)
    let reply := fun target =>
      Packet.timestamped 1 [0x60] ⟨target⟩ 869525000 (.loraDownlink 9 .khz125)
    let late : List Moment := [⟨0, .handIn (reply 100000) .classA⟩, ⟨60001, .tick⟩,
      ⟨60001, .handIn (reply 142502) .classA⟩, ⟨102503, .tick⟩]
    let guard : List Moment := [⟨0, .handIn (beacon 103600) .beacon⟩,
      ⟨0, .handIn (reply 100000) .classA⟩, ⟨70000, .tick⟩, ⟨70000, .tick⟩]
    let overlong : List Moment := [⟨0, .handIn (beacon 3100000) .beacon⟩,
      ⟨0, .handIn (reply 5262501) .classA⟩, ⟨3070000, .tick⟩, ⟨5230000, .tick⟩]
    let outcomes := fun d ms =>
      (Gateway.run (.ofConfig {} (.fixed d)) ⟨0⟩ (.fresh ⟨0⟩ (.fixed d)) ms).events.map (·.outcome)
    QueueConfig.validate {} = .ok () ∧
    (∀ ms ∈ [late, guard, overlong], (ms.Pairwise fun m m' => m.time ≤ m'.time) ∧
      ∀ m ∈ ms, m.time < 2 ^ 31) ∧
    outcomes 50000 late = [.busy, .sent] ∧
    outcomes 1000 guard = [.sentOverwriting, .sent] ∧
    outcomes 3000000 overlong = [.busy, .sent] := by
  intro beacon reply late guard overlong outcomes
  refine ⟨by decide, by decide, ?_, ?_, ?_⟩ <;> decide +kernel

end Downlink
