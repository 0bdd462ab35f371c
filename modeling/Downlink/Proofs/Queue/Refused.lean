import Downlink.Proofs.Queue.Counts
import Downlink.Proofs.Queue.Retry

/-!
# A refused downlink leaves no trace

A downlink may be refused at several points: by itself, when the search has found a slot for it, or
for the target it came with. Whatever the reason, nothing is queued that was not queued before and
nothing is gone. The queue has heard of the time and the refusal is counted, once
(`Scheduler.queue_of_error`), and the downlink comes back as it was handed in, except for the slot
if one was found (`Scheduler.packet_of_error`).
-/

namespace Downlink

/-- The reasons for which an immediate downlink can be refused once a slot was found for it. Class C
is not bounded, so that its slot is too early is none of them. -/
def Refusal.OfSlot (reason : Refusal) : Prop :=
  reason = .tooLate ∨ reason = .collisionPacket ∨ reason = .collisionBeacon

instance : DecidablePred Refusal.OfSlot := fun _ => inferInstanceAs (Decidable (_ ∨ _ ∨ _))

namespace Scheduler

variable {s : Scheduler} {q : Queue} {now : Counter} {p : Packet} {c : TrafficClass} {r : Rejection}

/-- What a refusal does to the queue, and that emptiness is no reason for one. -/
theorem queue_of_error (h : (s.enqueue q now p c).result = .error r) :
    r.reason ≠ .empty ∧ (s.enqueue q now p c).queue =
      { q with reference := now, stats := q.stats.recordRejected c r.reason } := by
  rcases s.enqueue_cases q now p c with ⟨e, -, hok, -⟩ | ⟨r', hr, herror, hqueue⟩
  · cases hok.symm.trans h
  · obtain rfl : r' = r := Except.error.inj (herror.symm.trans h)
    exact ⟨hr.reason_ne_empty, hqueue⟩

/-- A downlink that was refused for its slot comes back with that; any other comes back as it was.
The cases are the points at which a downlink is refused. -/
theorem packet_of_error (h : (s.enqueue q now p c).result = .error r) :
    r.packet =
      if p.mode = .immediate ∧ c = .classC ∧ r.reason.OfSlot then
        p.settled
          (s.asapSlot q now (s.policy.preDelay c) (s.policy.postDelay c (s.airtime p)) c)
      else p := by
  rcases enqueue_eq_error h with ⟨hentry, hpacket⟩ | ⟨hentry, htarget, hpacket⟩
  · rw [hpacket, if_neg]
    rintro ⟨-, -, hslot⟩
    rcases reason_of_entryRefusal? hentry with hreason | hreason <;> rw [hreason] at hslot <;>
      exact absurd hslot (by decide)
  cases hmode : p.mode with
  | timestamped =>
    rw [packet_of_timestamped h hmode, if_neg]
    rintro ⟨hmode', -⟩
    cases hmode'
  | immediate =>
    obtain rfl := (entryRefusal?_eq_none_iff.mp hentry).2.2 hmode
    have hslot : r.reason.OfSlot := by
      rcases reason_of_targetRefusal? htarget with hreason | ⟨-, hbounded⟩ | hreason
      · exact .inl hreason
      · cases hbounded
      · exact .inr hreason
    rw [hpacket, if_pos ⟨rfl, rfl, hslot⟩, aim_of_immediate hmode, timeOnAir_of_entryRefusal? hentry]

end Scheduler

/-- **A refused downlink leaves no trace.** Whatever it is refused for, the entries, their order and
the number of beacons stay as they are; of all counts the one for its class and the reason goes up
by one, and only that; and that the queue is empty is never the reason. The downlink comes back as it
was, up to target and mode, and these are as they were, too, unless it was an immediate one of
class C that was refused for the slot that was found for it. Then that is its target. -/
theorem enqueue_traceless (config : QueueConfig) (airtime : AirtimeModel) {q : Queue}
    {now : Counter} {p : Packet} {c : TrafficClass} {r : Rejection}
    (h : ((Scheduler.ofConfig config airtime).enqueue q now p c).result = .error r) :
    let s := Scheduler.ofConfig config airtime
    let after := (s.enqueue q now p c).queue
    let slot := s.asapSlot q now (s.policy.preDelay c) (s.policy.postDelay c (airtime p)) c
    after.entries = q.entries ∧ after.beaconCount = q.beaconCount ∧ after.reference = now ∧
    r.reason ≠ .empty ∧
    (∀ x : Count,
      after.stats.get x = q.stats.get x + if x = .rejected c r.reason then 1 else 0) ∧
    { r.packet with target := p.target, mode := p.mode } = p ∧
    r.packet =
      if p.mode = .immediate ∧ c = .classC ∧
          (r.reason = .tooLate ∨ r.reason = .collisionPacket ∨ r.reason = .collisionBeacon) then
        { p with target := slot, mode := .timestamped }
      else p := by
  intro s after slot
  obtain ⟨hreason, hqueue⟩ := Scheduler.queue_of_error h
  have hpacket := Scheduler.packet_of_error h
  have hafter : after = { q with reference := now, stats := q.stats.recordRejected c r.reason } :=
    hqueue
  rw [hafter]
  refine ⟨rfl, rfl, rfl, hreason, q.stats.get_recordRejected c hreason, ?_, hpacket⟩
  rw [hpacket]
  split <;> rfl

/-- An immediate downlink is refused for the slot behind the first of two replies. The search only
looked at what comes next, a beacon that is over by then, and not at the other reply. -/
theorem enqueue_traceless_slot :
    let config : QueueConfig := { beaconReserved := 0 }
    let s := Scheduler.ofConfig config (.fixed 50000)
    let beacon := Packet.timestamped 0 [0] ⟨160000⟩ 869525000 (.loraBeacon 9 .khz125)
    let reply := fun target =>
      Packet.timestamped 1 [0x60] ⟨target⟩ 869525000 (.loraDownlink 9 .khz125)
    let wanted := Packet.immediate 2 [0x60] 869525000 (.loraDownlink 9 .khz125)
    let q := (s.perform (s.perform (s.perform {} (.enqueue ⟨0⟩ beacon .beacon)).queue
      (.enqueue ⟨0⟩ (reply 100000) .classA)).queue (.enqueue ⟨0⟩ (reply 225000) .classA)).queue
    ∃ r, (s.enqueue q ⟨0⟩ wanted .classC).result = .error r ∧
      (q.entries.map (·.target), r.reason, r.packet.target) =
        ([⟨100000⟩, ⟨160000⟩, ⟨225000⟩], .collisionPacket, ⟨232500⟩) ∧
      (s.enqueue q ⟨0⟩ wanted .classC).queue.entries = q.entries ∧
      { r.packet with target := wanted.target, mode := wanted.mode } = wanted := by
  intro config s beacon reply wanted q
  have herror : (s.enqueue q ⟨0⟩ wanted .classC).result =
      .error ⟨.collisionPacket, wanted.settled ⟨232500⟩⟩ := by
    decide +kernel
  obtain ⟨hentries, -, -, -, -, hpacket, -⟩ := enqueue_traceless config (.fixed 50000) herror
  exact ⟨_, herror, by decide +kernel, hentries, hpacket⟩

end Downlink
