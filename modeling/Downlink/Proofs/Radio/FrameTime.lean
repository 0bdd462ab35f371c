import Downlink.Proofs.Radio.Simulated

/-!
# What a radio does with its frame as time goes on

A frame that the simulated radio took waits until its target, is on air until its end and is over
then (`TxStatus.during`). The radio keeps no more of a time than the counter shows, so what it says
at a time depends on how much of the current turn has passed since it took the frame. For a whole
turn it says what is the case. After that it starts over: a frame that has long left the air waits
again, and then is on air again, until the radio takes another one (`radio_phases`).

A radio that nobody asks to send for 71.6 minutes therefore takes the next downlink in place of a
frame that was sent, and counts one frame less than it sent (`radio_recalls_finished`).
-/

namespace Downlink

/-- What a radio does at a time with a frame that lasts from `start` to `finish`. -/
def TxStatus.during (start finish time : Nat) : TxStatus :=
  if time < start then .scheduled else if time < finish then .emitting else .free

/-! ## Frames -/

namespace Frame

/-- How long after its programming a frame comes to a time that lies less than half a turn ahead,
or no more than half a turn back. -/
theorem toNat_offset_ofTime {f : Frame} {m t : Nat} (hm : f.programmed = .ofTime m)
    (hback : m ≤ t + 2 ^ 31) (hahead : t < m + 2 ^ 31) : (f.offset (.ofTime t)).toNat = t - m := by
  rcases Nat.lt_or_ge t m with hpast | hfuture
  · have hfar : ((Counter.ofTime t).since f.programmed).toNat = t + 2 ^ 32 - m := by
      rw [hm]
      exact Counter.toNat_since_ofTime_of_lt hpast (by omega)
    have hhalf : (2147483647 : Span) < (Counter.ofTime t).since f.programmed := by
      rw [UInt32.lt_iff_toNat_lt, hfar]
      change 2147483647 < _
      omega
    simp only [offset, if_pos hhalf, UInt32.toNat_zero]
    omega
  · have hnear : ((Counter.ofTime t).since f.programmed).toNat = t - m := by
      rw [hm]
      exact Counter.toNat_since_ofTime_of_le hfuture (by omega)
    rw [f.offset_eq (by omega), hnear]

/-- How much of a turn has passed since the programming. -/
theorem toNat_elapsed_ofTime {f : Frame} {m s : Nat} (hm : f.programmed = .ofTime m) (hs : m ≤ s) :
    ((Counter.ofTime s).since f.programmed).toNat = (s - m) % 2 ^ 32 := by
  rw [hm, Counter.toNat_since, Counter.toNat_ofTime, Counter.toNat_ofTime]
  omega

/-- What the radio says of a frame is what is the case as much of a turn after its programming as
has passed of the current one. -/
theorem statusAt_ofTime {f : Frame} {m t : Nat} {d : Span} (hm : f.programmed = .ofTime m)
    (htarget : f.target = .ofTime t) (hfinish : f.finish = f.target.after d)
    (hback : m ≤ t + 2 ^ 31) (hahead : t + d.toNat < m + 2 ^ 31) {s : Nat} (hs : m ≤ s) :
    f.statusAt (.ofTime s) = .during t (t + d.toNat) (m + (s - m) % 2 ^ 32) := by
  have hend : f.finish = .ofTime (t + d.toNat) := by
    rw [hfinish, htarget, Counter.ofTime_after]
  have hstart := toNat_offset_ofTime hm hback (by omega)
  have hover : (f.offset f.finish).toNat = _ := hend ▸ toNat_offset_ofTime hm (by omega) hahead
  have helapsed := toNat_elapsed_ofTime hm hs
  rw [← htarget] at hstart
  simp only [statusAt, TxStatus.during, UInt32.lt_iff_toNat_lt, hstart, hover, helapsed]
  -- an offset of nothing stands for a time that has passed, as the difference does
  generalize (s - m) % 2 ^ 32 = passed
  by_cases hwaits : passed < t - m
  · rw [if_pos hwaits, if_pos (by omega)]
  by_cases hemits : passed < t + d.toNat - m
  · rw [if_neg hwaits, if_pos hemits, if_neg (by omega), if_pos (by omega)]
  · rw [if_neg hwaits, if_neg hemits, if_neg (by omega), if_neg (by omega)]

end Frame

/-! ## The radio -/

namespace SimulatedRadio

variable {r later : SimulatedRadio} {p next : Packet} {m t s : Nat}

/-- Asks the radio to send a packet when its counter shows the time `s`. -/
def sendAt (r : SimulatedRadio) (s : Nat) (p : Packet) : Except RadioError Unit × SimulatedRadio :=
  send { r with clock := .ofTime s } p

/-- The radio took no frame in between, whatever it was asked to send and when. -/
inductive TookNothing (r : SimulatedRadio) : SimulatedRadio → Prop where
  /-- nothing was asked of it yet -/
  | atFirst : TookNothing r r
  /-- it refused once more -/
  | refused {later : SimulatedRadio} {cause : RadioError} (s : Nat) (p : Packet)
      (h : TookNothing r later) (hrefused : (later.sendAt s p).1 = .error cause) :
    TookNothing r (later.sendAt s p).2

/-- A radio that refuses is left as it is. -/
theorem send_of_refused {cause : RadioError} (h : (r.send p).1 = .error cause) :
    (r.send p).2 = r := by
  rw [send] at h ⊢
  split <;> simp_all

theorem TookNothing.history_eq (h : TookNothing r later) : later.history = r.history := by
  induction h with
  | atFirst => rfl
  | refused s p _ hrefused ih =>
    rw [sendAt, send_of_refused hrefused]
    exact ih

/-- A radio that takes a packet has its frame as the latest. -/
theorem getLast?_of_taken (h : (r.send p).1 = .ok ()) :
    (r.send p).2.history.getLast? = some (r.frame p) := by
  rw [send] at h ⊢
  split
  next hbusy =>
    rw [hbusy] at h
    cases h
  next => exact r.withdraw.getLast?_record _
  next => exact r.getLast?_record _

/-- Before a frame that is recorded comes what was remembered, or all of it but the oldest. -/
theorem dropLast_record_suffix (r : SimulatedRadio) (f : Frame) :
    (r.record f).history.dropLast <:+ r.history := by
  rw [record, List.dropLast_concat]
  split
  next => exact List.drop_suffix ..
  next => exact List.suffix_refl _

/-- The latest frame is not the one that is forgotten. -/
theorem mem_record_of_getLast? {f : Frame} (h : r.history.getLast? = some f) (g : Frame) :
    f ∈ (r.record g).history := by
  obtain ⟨before, hbefore⟩ := List.getLast?_eq_some_iff.mp h
  change f ∈ (if r.history.length = historyCapacity then r.history.drop 1 else r.history) ++ [g]
  refine List.mem_append_left _ ?_
  split
  next hfull =>
    have hlong : 1 ≤ before.length := by
      rw [hbefore, List.length_append, historyCapacity] at hfull
      simp only [List.length_cons, List.length_nil] at hfull
      omega
    rw [hbefore, List.drop_append_of_le_length hlong]
    simp
  next =>
    rw [hbefore]
    simp

end SimulatedRadio

/-- **A radio and its frame.** Let the radio take a downlink at time `m`, whose target and end lie
less than half a turn after that and whose target lies no more than half a turn before it, and no
other since. What the radio says at a time `s` is what is the case at the same place of the turn
that began at `m`: for a whole turn, whatever is the case at `s`. If the frame is over there, a send
is accepted, counted and remembered behind the frame, which is itself remembered and still counted.
But if the frame waits there, also a turn or more after it was sent, the send takes its place. -/
theorem radio_phases {r later : SimulatedRadio} {p : Packet} {m t : Nat}
    (hclock : r.clock = .ofTime m) (htarget : p.target = .ofTime t) (hback : m ≤ t + 2 ^ 31)
    (hahead : t + (r.airtime p).toNat < m + 2 ^ 31) (htaken : (r.send p).1 = .ok ())
    (hlater : (r.send p).2.TookNothing later) :
    let finish := t + (r.airtime p).toNat
    let place := fun s => m + (s - m) % 2 ^ 32
    (∀ s, m ≤ s → later.statusAt (.ofTime s) = .during t finish (place s)) ∧
    (∀ s, m ≤ s → s < m + 2 ^ 32 → later.statusAt (.ofTime s) = .during t finish s) ∧
    ∀ s next, m ≤ s →
      (finish ≤ place s →
        (later.sendAt s next).1 = .ok () ∧ r.frame p ∈ (later.sendAt s next).2.history ∧
          (later.sendAt s next).2.counted = later.counted + 1) ∧
      (place s < t →
        (later.sendAt s next).1 = .ok () ∧
          (later.sendAt s next).2.history.dropLast <:+ later.history.dropLast ∧
          (later.sendAt s next).2.counted = later.counted) := by
  intro finish place
  have hlast := SimulatedRadio.getLast?_of_taken htaken
  rw [← hlater.history_eq] at hlast
  have hstatus (s : Nat) (hs : m ≤ s) :
      later.statusAt (.ofTime s) = .during t finish (place s) := by
    rw [SimulatedRadio.statusAt, hlast]
    exact Frame.statusAt_ofTime (f := r.frame p) hclock htarget rfl hback hahead hs
  refine ⟨hstatus, ?_, ?_⟩
  · intro s hs hturn
    have hplace : place s = s := by
      change m + (s - m) % 2 ^ 32 = s
      omega
    rw [hstatus s hs, hplace]
  · intro s next hs
    -- the radio asks itself what it is doing before it takes a frame
    have hnow : SimulatedRadio.statusAt { later with clock := .ofTime s } (.ofTime s) =
        .during t finish (place s) := hstatus s hs
    refine ⟨?gone, ?waits⟩
    case gone =>
      intro hfinish
      have hstart : t ≤ place s := Nat.le_trans (Nat.le_add_right t _) hfinish
      rw [TxStatus.during, if_neg (Nat.not_lt.mpr hstart), if_neg (Nat.not_lt.mpr hfinish)] at hnow
      simp only [SimulatedRadio.sendAt, SimulatedRadio.send, hnow]
      exact ⟨trivial, SimulatedRadio.mem_record_of_getLast? hlast _, rfl⟩
    case waits =>
      intro hstart
      rw [TxStatus.during, if_pos hstart] at hnow
      simp only [SimulatedRadio.sendAt, SimulatedRadio.send, hnow]
      exact ⟨trivial, SimulatedRadio.dropLast_record_suffix .., UInt64.sub_add_cancel ..⟩

/-- A frame that was taken 40 seconds before its target. While it is on air the radio refuses
another one; when it is over the radio takes the next one beside it. -/
theorem radio_phases_turn :
    let r : SimulatedRadio := { clock := .ofTime 50000000, airtime := .fixed 50000 }
    let first := Packet.timestamped 0 [0x60] (.ofTime 90000000) 869525000 (.loraDownlink 9 .khz125)
    let next := Packet.timestamped 1 [0x60] (.ofTime 95000000) 869525000 (.loraDownlink 9 .khz125)
    let later := ((r.send first).2.sendAt 90020000 next).2
    (r.send first).1 = .ok () ∧ (r.send first).2.TookNothing later ∧
      later.statusAt (.ofTime 89999999) = .scheduled ∧
      later.statusAt (.ofTime 90000000) = .emitting ∧
      later.statusAt (.ofTime 90050000) = .free ∧
      (later.sendAt 4000000000 next).2.counted = later.counted + 1 ∧
      r.frame first ∈ (later.sendAt 4000000000 next).2.history := by
  intro r first next later
  have htaken : (r.send first).1 = .ok () := by decide +kernel
  have hrefused : ((r.send first).2.sendAt 90020000 next).1 = .error .busy := by decide +kernel
  have hlater : (r.send first).2.TookNothing later := .refused 90020000 next .atFirst hrefused
  obtain ⟨-, hturn, hsend⟩ :=
    radio_phases (r := r) (m := 50000000) (t := 90000000) rfl rfl (by decide) (by decide) htaken
      hlater
  obtain ⟨-, hmem, hcount⟩ := (hsend 4000000000 next (by decide)).1 (by decide)
  exact ⟨htaken, hlater, hturn 89999999 (by decide) (by decide),
    hturn 90000000 (by decide) (by decide), hturn 90050000 (by decide) (by decide), hcount, hmem⟩

/-- A frame that was over 90.05 seconds after the counter's zero. One turn after it was taken the
radio says that it waits, takes the next one in its place, and has counted one frame of two. -/
theorem radio_recalls_finished :
    let r : SimulatedRadio := { clock := .ofTime 50000000, airtime := .fixed 50000 }
    let first := Packet.timestamped 0 [0x60] (.ofTime 90000000) 869525000 (.loraDownlink 9 .khz125)
    let next := Packet.timestamped 1 [0x60] (.ofTime (2 ^ 32 + 90000000)) 869525000
      (.loraDownlink 9 .khz125)
    let later := ((r.send first).2.sendAt (2 ^ 32 + 50000000) next).2
    (r.send first).1 = .ok () ∧ (r.send first).2.counted = 1 ∧
      (r.send first).2.statusAt (.ofTime 90050000) = .free ∧
      (r.send first).2.statusAt (.ofTime (2 ^ 32 + 50000000)) = .scheduled ∧
      later.history.map (·.id) = [1] ∧ later.counted = 1 := by
  intro r first next later
  refine ⟨?_, ?_, ?_, ?_, ?_, ?_⟩ <;> decide +kernel

end Downlink
