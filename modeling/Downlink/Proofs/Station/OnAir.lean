import Downlink.Proofs.Clock.Distance
import Downlink.Proofs.Queue.Rotation
import Downlink.Proofs.Station.Reachable
import Downlink.Radio.Simulated
import Mathlib.Data.Set.BooleanAlgebra
import Mathlib.Order.CompletePartialOrder

/-!
# No two queued frames are on air at once

The queue compares windows, which are times on the radio, and promises that they do not overlap. A
frame itself is on air from its target on for the time its packet takes, an arc of the counter's
circle (`Entry.onAir`). Windows that are apart keep the arcs apart as long as each lies within the
time that was reserved after the target.

For data the time that is reserved is the packet's, as it was when the downlink was handed in. An
immediate downlink had no target then, and a model of times on air could tell it from the packet it
becomes; it must not take more time then (`AirtimeModel.Settled`). For beacons a fixed time is
reserved, and one that is on air for longer reaches into whatever follows it.
-/

namespace Downlink

/-! ## Arcs of the circle -/

/-- No reading lies within both of two stretches each of which ends before the other begins. -/
theorem Counter.not_within_both {t a b : Counter} {x y : Span} (hab : x < b.since a)
    (hba : y < a.since b) : ¬(t.within a x = true ∧ t.within b y = true) := by
  rintro ⟨hx, hy⟩
  have hta := UInt32.le_iff_toNat_le.mp (of_decide_eq_true hx)
  have htb := UInt32.le_iff_toNat_le.mp (of_decide_eq_true hy)
  rw [UInt32.lt_iff_toNat_lt] at hab hba
  -- seen from `b`, both `t` and `a` have passed, and `t` comes after `a`
  have hpassed := toNat_since_of_lt (Nat.lt_of_le_of_lt hta hab)
  have hturn : (a.since b).toNat = (a.since a).toNat + 2 ^ 32 - (b.since a).toNat := by
    refine toNat_since_of_lt ?_
    rw [since_self]
    exact Nat.lt_of_le_of_lt (Nat.zero_le _) hab
  rw [since_self] at hturn
  have hzero : (0 : Span).toNat = 0 := rfl
  omega

/-- The readings at which the frame of an entry is on air, if it is sent at its target. -/
def Entry.onAir (airtime : AirtimeModel) (e : Entry) : Set Counter :=
  {t | t.within e.target (airtime e.packet) = true}

instance (airtime : AirtimeModel) (e : Entry) : DecidablePred (· ∈ e.onAir airtime) :=
  fun t => inferInstanceAs (Decidable (t.within e.target (airtime e.packet) = true))

/-- They are those that come after the target by no more than the time on air. -/
theorem Entry.mem_onAir {airtime : AirtimeModel} {e : Entry} {t : Counter} :
    t ∈ e.onAir airtime ↔ ∃ d ≤ airtime e.packet, t = e.target.after d := by
  constructor
  · intro h
    exact ⟨t.since e.target, of_decide_eq_true h, (Counter.after_since_self t e.target).symm⟩
  · rintro ⟨d, hd, rfl⟩
    refine decide_eq_true ?_
    rw [Counter.after_since]
    exact hd

/-! ## The time that is reserved -/

/-- An immediate downlink that could be sent is on air no longer once it has its target. -/
def AirtimeModel.Settled (airtime : AirtimeModel) : Prop :=
  ∀ (p : Packet) (target : Counter), p.mode = .immediate → p.isWellFormed = true →
    airtime { p with target, mode := .timestamped } ≤ airtime p

/-- That is so if only the frame matters. -/
theorem AirtimeModel.FrameOnly.settled {airtime : AirtimeModel} (h : airtime.FrameOnly) :
    airtime.Settled := by
  intro p target _ _
  rw [h { p with target, mode := .timestamped } p rfl rfl]
  exact UInt32.le_refl _

namespace Scheduler

variable {s : Scheduler} {a b e : Entry}

/-- Two entries that are apart are not on air at once if each is on air no longer than reserved. -/
theorem Apart.disjoint_onAir (h : s.Apart a b) (ha : s.airtime a.packet ≤ a.postDelay)
    (hb : s.airtime b.packet ≤ b.postDelay) :
    Disjoint (a.onAir s.airtime) (b.onAir s.airtime) := by
  have hab := h.reach_lt
  have hba := h.symm.reach_lt
  rw [UInt32.le_iff_toNat_le] at ha hb
  refine Set.disjoint_left.mpr fun t hta htb => ?_
  refine Counter.not_within_both ?_ ?_ ⟨hta, htb⟩
  · rw [UInt32.lt_iff_toNat_lt]
    omega
  · rw [UInt32.lt_iff_toNat_lt]
    omega

/-- An entry is on air no longer than reserved, unless it is a beacon that takes more than is kept
for one. -/
theorem Admitted.airtime_le {q : Queue} {now : Counter} {p : Packet} {c : TrafficClass}
    (h : s.Admitted q now p c e) (hair : s.airtime.Settled)
    (hbeacon : e.trafficClass = .beacon → s.airtime e.packet ≤ s.policy.beaconReserved) :
    s.airtime e.packet ≤ e.postDelay := by
  have hformed := isWellFormed_of_entryRefusal? h.entry
  have hsame : s.airtime e.packet ≤ s.airtime p := by
    rw [h.packet_eq]
    cases hmode : p.mode with
    | immediate => exact hair p e.target hmode hformed
    | timestamped =>
      have hpacket := h.packet
      rw [resolve, hmode] at hpacket
      rw [← h.packet_eq, hpacket]
      exact UInt32.le_refl _
  rw [h.trafficClass] at hbeacon
  rw [h.postDelay, timeOnAir_of_entryRefusal? h.entry]
  cases c with
  | beacon => exact hbeacon rfl
  | classA => exact hsame
  | classB => exact hsame
  | classC => exact hsame

end Scheduler

/-- **No two queued frames are on air at once.** Any two entries of a reachable station, whatever
their classes, are on air on arcs of the circle that do not meet, unless one is a beacon that is on
air for longer than is kept for beacons. The model of times on air may be any that does not give an
immediate downlink more time once it has its target. -/
theorem reachable_onAir (config : QueueConfig) {airtime : AirtimeModel} (hair : airtime.Settled)
    {ρ : Type} [Radio ρ] {st : Station ρ} (h : st.Reachable (.ofConfig config airtime)) {i j : Nat}
    (hi : i < st.queue.entries.length) (hj : j < st.queue.entries.length) (hij : i ≠ j) :
    let a := st.queue.entries[i]
    let b := st.queue.entries[j]
    (a.trafficClass = .beacon → airtime a.packet ≤ config.beaconReserved) →
    (b.trafficClass = .beacon → airtime b.packet ≤ config.beaconReserved) →
    Disjoint (a.onAir airtime) (b.onAir airtime) := by
  intro a b ha hb
  let s := Scheduler.ofConfig config airtime
  have hpair := List.pairwise_iff_getElem.mp h.apart
  have hapart : s.Apart a b := by
    rcases Nat.lt_or_gt_of_ne hij with hlt | hgt
    · exact hpair i j hi hj hlt
    · exact (hpair j i hj hi hgt).symm
  have hreserved : ∀ e ∈ st.queue.entries,
      (e.trafficClass = .beacon → airtime e.packet ≤ config.beaconReserved) →
      airtime e.packet ≤ e.postDelay :=
    h.forall_entries fun he => he.airtime_le hair
  exact hapart.disjoint_onAir (hreserved a (List.getElem_mem hi) ha)
    (hreserved b (List.getElem_mem hj) hb)

/-- A class A reply of 83 milliseconds in the guard of a beacon, which begins three milliseconds
after the reply has ended. -/
theorem reachable_onAir_guard :
    let s := Scheduler.ofConfig {} .modem
    let beacon := Packet.timestamped 0 [0] ⟨1000000⟩ 869525000 (.loraBeacon 9 .khz125)
    let reply := Packet.timestamped 1 [0x60] ⟨914000⟩ 869525000 (.loraDownlink 9 .khz125)
    let radio : SimulatedRadio := { clock := ⟨0⟩, airtime := .modem }
    let st := Station.run s { radio } [.ask (.enqueue ⟨0⟩ beacon .beacon),
      .ask (.enqueue ⟨0⟩ reply .classA)]
    AirtimeModel.Settled .modem ∧ st.Reachable s ∧
    ∃ (hi : 0 < st.queue.entries.length) (hj : 1 < st.queue.entries.length),
      Disjoint (st.queue.entries[0].onAir .modem) (st.queue.entries[1].onAir .modem) := by
  intro s beacon reply radio st
  have hair : AirtimeModel.Settled .modem := AirtimeModel.frameOnly_modem.settled
  have hreach : st.Reachable s := (Station.Reachable.fresh radio).run _
  have hi : 0 < st.queue.entries.length := by decide +kernel
  have hj : 1 < st.queue.entries.length := by decide +kernel
  have hshort : ∀ e ∈ st.queue.entries, e.trafficClass = .beacon →
      AirtimeModel.modem e.packet ≤ QueueConfig.beaconReserved {} := by
    decide +kernel
  refine ⟨hair, hreach, hi, hj, ?_⟩
  exact reachable_onAir {} hair hreach hi hj (by decide) (hshort _ (List.getElem_mem hi))
    (hshort _ (List.getElem_mem hj))

/-- A beacon of nine seconds, and a reply that was accepted for the end of the time that is kept for
beacons; and an immediate downlink whose time on air goes from one millisecond to two seconds with
its target, and a reply behind it. Both pairs are on air at once. -/
theorem reachable_onAir_overlong :
    let beacon := Packet.timestamped 0 (List.replicate 255 0) ⟨5000000⟩ 869525000
      (.loraBeacon 12 .khz125)
    let reply := fun target =>
      Packet.timestamped 1 [0x60] ⟨target⟩ 869525000 (.loraDownlink 9 .khz125)
    let asap := Packet.immediate 0 [0x60] 869525000 (.loraDownlink 9 .khz125)
    let growing : AirtimeModel := fun p => if p.mode = .immediate then 1000 else 2000000
    let ask := fun p c => Action.ask (.enqueue ⟨0⟩ p c)
    let overlaps := fun (airtime : AirtimeModel) (as : List (Action SimulatedRadio)) =>
      let st := Station.run (.ofConfig {} airtime) { radio := { clock := ⟨0⟩, airtime } } as
      st.Reachable (.ofConfig {} airtime) ∧
      ∃ (hi : 0 < st.queue.entries.length) (hj : 1 < st.queue.entries.length),
        ¬Disjoint (st.queue.entries[0].onAir airtime) (st.queue.entries[1].onAir airtime)
    QueueConfig.validate {} = .ok () ∧
    overlaps .modem [ask beacon .beacon, ask (reply 7162501) .classA] ∧
    overlaps growing [ask asap .classC, ask (reply 123501) .classA] := by
  intro beacon reply asap growing ask overlaps
  refine ⟨by decide, ?_, ?_⟩
  · refine ⟨(Station.Reachable.fresh _).run _, by decide +kernel, by decide +kernel, ?_⟩
    refine Set.not_disjoint_iff.mpr ⟨⟨7162501⟩, ?_, ?_⟩ <;> decide +kernel
  · refine ⟨(Station.Reachable.fresh _).run _, by decide +kernel, by decide +kernel, ?_⟩
    refine Set.not_disjoint_iff.mpr ⟨⟨123501⟩, ?_, ?_⟩ <;> decide +kernel

end Downlink
