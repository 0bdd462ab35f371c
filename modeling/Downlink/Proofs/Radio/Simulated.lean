import Downlink.Proofs.Clock.Distance
import Downlink.Radio.Simulated
import Downlink.Station

/-!
# How long a frame keeps the simulated radio

A frame keeps the radio from its programming until it has left the air, and that is the sum of what
was left until its target then and of its time on air. The radio itself computes both ends on the
circle, where a sum may go round; it then takes the frame to be over early, never late
(`Frame.statusAt_eq_free`).

A radio that is handed a downlink by a dispatcher is busy only if it said so before, so it never
refuses one (`SimulatedRadio.attempt_cases`).
-/

namespace Downlink

/-! ## Frames -/

namespace Frame

theorem offset_le (f : Frame) (t : Counter) : f.offset t ≤ t.since f.programmed := by
  simp only [offset]
  split
  · exact UInt32.zero_le
  · exact UInt32.le_refl _

/-- A target in the near half of the circle is taken as it is. -/
theorem offset_eq {f : Frame} {t : Counter} (h : (t.since f.programmed).toNat < 2 ^ 31) :
    f.offset t = t.since f.programmed := by
  simp only [offset]
  rw [if_neg]
  rw [UInt32.not_lt, UInt32.le_iff_toNat_le]
  exact Nat.le_of_lt_succ h

/-- Once as much time has passed as was left until the target and the frame is long, it is over. -/
theorem statusAt_eq_free {f : Frame} {now : Counter} {d : Span}
    (hfinish : f.finish = f.target.after d)
    (h : (f.target.since f.programmed).toNat + d.toNat ≤ (now.since f.programmed).toNat) :
    f.statusAt now = .free := by
  -- neither end comes later on the circle than on a line
  have htarget : ¬now.since f.programmed < f.offset f.target := by
    have hle := UInt32.le_iff_toNat_le.mp (f.offset_le f.target)
    rw [UInt32.not_lt, UInt32.le_iff_toNat_le]
    omega
  have hend : ¬now.since f.programmed < f.offset f.finish := by
    have hle := UInt32.le_iff_toNat_le.mp (f.offset_le f.finish)
    have hlong := Counter.toNat_after_since_le f.target f.programmed d
    rw [hfinish] at hle
    rw [UInt32.not_lt, UInt32.le_iff_toNat_le, hfinish]
    omega
  simp only [statusAt, if_neg htarget, if_neg hend]

/-- Until then it waits. -/
theorem statusAt_eq_scheduled_iff {f : Frame} {now : Counter}
    (h : (f.target.since f.programmed).toNat < 2 ^ 31) :
    f.statusAt now = .scheduled ↔
      (now.since f.programmed).toNat < (f.target.since f.programmed).toNat := by
  simp only [statusAt, offset_eq h, ← UInt32.lt_iff_toNat_lt]
  by_cases hwaits : now.since f.programmed < f.target.since f.programmed
  · rw [if_pos hwaits]
    exact iff_of_true rfl hwaits
  · rw [if_neg hwaits]
    refine iff_of_false ?_ hwaits
    split <;> nofun

end Frame

/-! ## The radio -/

namespace SimulatedRadio

variable (r : SimulatedRadio)

@[simp] theorem getLast?_record (f : Frame) : (r.record f).history.getLast? = some f :=
  List.getLast?_concat ..

/-- What comes of handing a downlink to the radio follows from what it is doing. If it takes the
downlink, the frame is its latest. -/
theorem attempt_cases (e : Entry) :
    ((r.statusAt r.clock = .free ∧ (Delivery.attempt r e).outcome = .sent ∨
        r.statusAt r.clock = .scheduled ∧ (Delivery.attempt r e).outcome = .sentOverwriting) ∧
      (Delivery.attempt r e).radio.history.getLast? = some (r.frame e.packet) ∧
      (Delivery.attempt r e).radio.airtime = r.airtime) ∨
    (r.statusAt r.clock = .emitting ∧ (Delivery.attempt r e).outcome = .busy ∧
      (Delivery.attempt r e).radio = r) := by
  have hstatus : Radio.status r = r.statusAt r.clock := rfl
  have hsend : Radio.send r e.packet = r.send e.packet := rfl
  rcases h : r.statusAt r.clock with - | - | -
  · have hfree : Delivery.attempt r e = ⟨.sent, r.record (r.frame e.packet), []⟩ := by
      simp only [Delivery.attempt, hstatus, h, Delivery.send, hsend, send]
    rw [hfree]
    exact .inl ⟨.inl ⟨rfl, rfl⟩, r.getLast?_record _, rfl⟩
  · have hscheduled : Delivery.attempt r e =
        ⟨.sentOverwriting, r.withdraw.record (r.frame e.packet), [.overwriting]⟩ := by
      simp only [Delivery.attempt, hstatus, h, Delivery.send, hsend, send]
    rw [hscheduled]
    exact .inl ⟨.inr ⟨rfl, rfl⟩, r.withdraw.getLast?_record _, rfl⟩
  · have hemitting : Delivery.attempt r e = ⟨.busy, r, [.lost e.trafficClass e.target]⟩ := by
      simp only [Delivery.attempt, hstatus, h]
    rw [hemitting]
    exact .inr ⟨rfl, rfl, rfl⟩

end SimulatedRadio

end Downlink
