import Downlink.Proofs.Radio.FrameTime
import Mathlib.Data.List.Basic

/-!
# What the simulated radio remembers

Of the frames that a radio took those are left that did not wait any more when the next one came
(`Frame.kept`). The radio itself does not go back that far. It takes the latest frame away if it
still waits, at the back, and forgets the oldest if it has no room for one more, at the front, and
it keeps the count apart from both.

Whatever it is asked to send, and at whatever readings of its counter, the count is the number of
frames that are left and what it remembers are the latest of them (`radio_recalls`). The step is
`Recalls.record`, which allows for a radio that has just taken a frame away. Such a radio has room
again, even where there are more frames than it remembers.
-/

namespace Downlink

/-! ## The frames that are left -/

namespace Frame

/-- What the frames that were taken so far have a radio do at `now`, which the latest decides. -/
def statusAfter (frames : List Frame) (now : Counter) : TxStatus :=
  match frames.getLast? with
  | none => .free
  | some f => f.statusAt now

theorem statusAfter_cons_cons (f g : Frame) (rest : List Frame) (now : Counter) :
    statusAfter (f :: g :: rest) now = statusAfter (g :: rest) now := by
  rw [statusAfter, statusAfter, List.getLast?_cons_cons]

/-- The frames that are left if each is taken away that still waited when the next one came. -/
def kept : List Frame → List Frame
  | [] => []
  | [f] => [f]
  | f :: g :: rest =>
    if f.statusAt g.programmed = .scheduled then kept (g :: rest) else f :: kept (g :: rest)

/-- The latest frame is left. -/
theorem getLast?_kept (frames : List Frame) : (kept frames).getLast? = frames.getLast? := by
  fun_induction kept frames with
  | case1 => rfl
  | case2 f => rfl
  | case3 f g rest hwaits ih => rw [ih, List.getLast?_cons_cons]
  | case4 f g rest hwaits ih =>
    have hne : kept (g :: rest) ≠ [] := by
      intro hnone
      rw [hnone] at ih
      exact absurd ih.symm (by simp)
    rw [List.getLast?_cons_of_ne_nil hne, ih, List.getLast?_cons_cons]

theorem kept_ne_nil {frames : List Frame} (h : frames ≠ []) : kept frames ≠ [] := by
  rw [← List.getLast?_isSome, getLast?_kept, List.getLast?_isSome]
  exact h

/-- One more frame takes the place of the latest if that still waits. -/
theorem kept_concat (frames : List Frame) (next : Frame) :
    kept (frames ++ [next]) =
      (if statusAfter frames next.programmed = .scheduled then (kept frames).dropLast
        else kept frames) ++ [next] := by
  fun_induction kept frames with
  | case1 => rfl
  | case2 f =>
    change (if f.statusAt next.programmed = .scheduled then [next] else f :: [next]) =
      (if f.statusAt next.programmed = .scheduled then [] else [f]) ++ [next]
    split <;> rfl
  | case3 f g rest hwaits ih =>
    rw [statusAfter_cons_cons, ← ih]
    exact if_pos hwaits
  | case4 f g rest hwaits ih =>
    have hsplit : kept (f :: g :: rest ++ [next]) = f :: kept (g :: rest ++ [next]) := if_neg hwaits
    rw [hsplit, ih, statusAfter_cons_cons]
    split
    next =>
      have hmore : kept (g :: rest) ≠ [] := kept_ne_nil (List.cons_ne_nil g rest)
      rw [List.dropLast_cons_of_ne_nil hmore, List.cons_append]
    next => rw [List.cons_append]

theorem length_kept_le (frames : List Frame) : (kept frames).length ≤ frames.length := by
  fun_induction kept frames with
  | case1 => exact Nat.le_refl _
  | case2 f => exact Nat.le_refl _
  | case3 f g rest hwaits ih => exact Nat.le_succ_of_le ih
  | case4 f g rest hwaits ih => exact Nat.succ_le_succ ih

end Frame

/-! ## What one frame more does to the memory -/

namespace SimulatedRadio

variable {r : SimulatedRadio} {frames : List Frame}

/-- The radio counted these frames and remembers the latest of them. -/
structure Recalls (r : SimulatedRadio) (frames : List Frame) : Prop where
  /-- the count, in the radio's word -/
  count : r.counted = .ofNat frames.length
  /-- what it remembers comes last -/
  latest : r.history <:+ frames
  /-- and is as long as there is room for -/
  length : r.history.length = min frames.length historyCapacity

/-- A frame is remembered on top of the latest frames, or of all of them but one if the memory is
full. A radio that has just withdrawn a frame may remember one less than there is room for. -/
theorem Recalls.record (f : Frame) (hcount : r.counted = .ofNat frames.length)
    (hlatest : r.history <:+ frames)
    (hlow : min frames.length (historyCapacity - 1) ≤ r.history.length)
    (hhigh : r.history.length ≤ historyCapacity) : (r.record f).Recalls (frames ++ [f]) := by
  have hroom : 0 < historyCapacity := by decide
  have hshort := hlatest.length_le
  constructor
  case count =>
    rw [List.length_append, UInt64.ofNat_add, ← hcount]
    rfl
  case latest =>
    rw [SimulatedRadio.record, List.suffix_append_self_iff]
    split
    next => exact (List.drop_suffix ..).trans hlatest
    next => exact hlatest
  case length =>
    rw [SimulatedRadio.record, List.length_append, List.length_append, List.length_singleton]
    split
    next hfull =>
      rw [List.length_drop]
      omega
    next hfull => omega

theorem Recalls.keep (h : r.Recalls frames) (f : Frame) : (r.record f).Recalls (frames ++ [f]) := by
  have hlength := h.length
  exact .record f h.count h.latest (by omega) (by omega)

theorem Recalls.history_ne_nil (h : r.Recalls frames) (hne : frames ≠ []) : r.history ≠ [] := by
  have hlength := h.length
  have hsome := List.length_pos_iff.mpr hne
  have hroom : 0 < historyCapacity := by decide
  rw [← List.length_pos_iff]
  omega

theorem Recalls.replace (h : r.Recalls frames) (hne : frames ≠ []) (f : Frame) :
    (r.withdraw.record f).Recalls (frames.dropLast ++ [f]) := by
  have hlength := h.length
  have hlatest : r.history.dropLast <:+ frames.dropLast := by
    obtain ⟨before, hbefore⟩ := h.latest
    exact ⟨before, by rw [← hbefore, List.dropLast_append_of_ne_nil (h.history_ne_nil hne)]⟩
  -- with the latest frame gone there is room, so the oldest one stays
  refine .record f ?_ hlatest ?_ ?_
  · change r.counted - 1 = _
    rw [h.count, List.length_dropLast, UInt64.ofNat_sub (List.length_pos_iff.mpr hne)]
    rfl
  · change _ ≤ r.history.dropLast.length
    rw [List.length_dropLast, List.length_dropLast]
    omega
  · change r.history.dropLast.length ≤ _
    rw [List.length_dropLast]
    omega

/-- A radio takes what it is handed unless a frame is on air. -/
theorem send_eq_ok_iff (r : SimulatedRadio) (p : Packet) :
    (r.send p).1 = .ok () ↔ r.statusAt r.clock ≠ .emitting := by
  rw [send]
  cases r.statusAt r.clock with
  | emitting => simp
  | scheduled => simp
  | free => simp

/-- What a radio does follows from the latest frame, which it remembers. -/
theorem Recalls.statusAt (h : r.Recalls frames) (now : Counter) :
    r.statusAt now = Frame.statusAfter frames now := by
  have hlatest : r.history.getLast? = frames.getLast? := by
    obtain ⟨before, hbefore⟩ := h.latest
    rcases eq_or_ne frames [] with hnone | hsome
    · rw [hnone] at hbefore ⊢
      rw [(List.append_eq_nil_iff.mp hbefore).2]
    · rw [← hbefore, List.getLast?_append_of_ne_nil before (h.history_ne_nil hsome)]
  change Frame.statusAfter r.history now = _
  rw [Frame.statusAfter, Frame.statusAfter, hlatest]

end SimulatedRadio

/-! ## A radio with a log -/

/-- A radio, and all frames that it ever took. -/
structure LoggedRadio where
  /-- the radio -/
  radio : SimulatedRadio
  /-- the frames, oldest first -/
  accepted : List Frame := []

namespace LoggedRadio

/-- A radio that was asked for nothing yet. -/
def fresh (start : Counter) (airtime : AirtimeModel) : LoggedRadio :=
  { radio := { clock := start, airtime } }

/-- Asks the radio to send a packet when its counter reads `now`. -/
def send (l : LoggedRadio) (now : Counter) (p : Packet) : LoggedRadio :=
  let r := { l.radio with clock := now }
  match r.send p with
  | (.ok (), after) => ⟨after, l.accepted ++ [r.frame p]⟩
  | (.error _, after) => ⟨after, l.accepted⟩

/-- Asks the radio to send one packet after the other, each at its reading. -/
def run (l : LoggedRadio) (sends : List (Counter × Packet)) : LoggedRadio :=
  sends.foldl (fun l s => l.send s.1 s.2) l

/-- What comes of it follows from what the radio was doing. -/
theorem send_cases (l : LoggedRadio) (now : Counter) (p : Packet) :
    let r := { l.radio with clock := now }
    (l.radio.statusAt now = .emitting ∧ l.send now p = ⟨r, l.accepted⟩) ∨
    (l.radio.statusAt now = .scheduled ∧
      l.send now p = ⟨r.withdraw.record (r.frame p), l.accepted ++ [r.frame p]⟩) ∨
    (l.radio.statusAt now = .free ∧
      l.send now p = ⟨r.record (r.frame p), l.accepted ++ [r.frame p]⟩) := by
  intro r
  have hsame : r.statusAt r.clock = l.radio.statusAt now := rfl
  have hsend : l.send now p = match r.send p with
    | (.ok (), after) => ⟨after, l.accepted ++ [r.frame p]⟩
    | (.error _, after) => ⟨after, l.accepted⟩ := rfl
  rw [hsend, SimulatedRadio.send, hsame]
  cases l.radio.statusAt now with
  | emitting => exact .inl ⟨rfl, rfl⟩
  | scheduled => exact .inr (.inl ⟨rfl, rfl⟩)
  | free => exact .inr (.inr ⟨rfl, rfl⟩)

/-- The radio counted and remembers what is left of what it took. -/
def Consistent (l : LoggedRadio) : Prop := l.radio.Recalls (Frame.kept l.accepted)

variable {l : LoggedRadio}

/-- The radio knows of its latest frame what the log knows. -/
theorem Consistent.statusAt (h : l.Consistent) (now : Counter) :
    l.radio.statusAt now = Frame.statusAfter l.accepted now := by
  rw [SimulatedRadio.Recalls.statusAt h, Frame.statusAfter, Frame.statusAfter, Frame.getLast?_kept]

/-- Where a frame waits it is one of those that are left. -/
theorem Consistent.kept_ne_nil (h : l.Consistent) {now : Counter}
    (hwaits : l.radio.statusAt now = .scheduled) : Frame.kept l.accepted ≠ [] := by
  apply Frame.kept_ne_nil
  intro hnone
  rw [h.statusAt, hnone] at hwaits
  cases hwaits

/-- As long as the frames that are left fit the radio's word it shows how many there are. -/
theorem Consistent.framesSent (h : l.Consistent) (hfit : (Frame.kept l.accepted).length < 2 ^ 64) :
    l.radio.framesSent = (Frame.kept l.accepted).length := by
  rw [SimulatedRadio.framesSent, h.count, UInt64.toNat_ofNat_of_lt' hfit]

theorem Consistent.send (h : l.Consistent) (now : Counter) (p : Packet) :
    (l.send now p).Consistent := by
  have hclock : SimulatedRadio.Recalls { l.radio with clock := now } (Frame.kept l.accepted) :=
    ⟨h.count, h.latest, h.length⟩
  obtain ⟨-, hsend⟩ | ⟨hwaits, hsend⟩ | ⟨hfree, hsend⟩ := l.send_cases now p
  · rw [hsend]
    exact hclock
  · have hsome := h.kept_ne_nil hwaits
    rw [h.statusAt] at hwaits
    rw [hsend, Consistent, Frame.kept_concat, SimulatedRadio.frame, if_pos hwaits]
    exact hclock.replace hsome _
  · rw [h.statusAt] at hfree
    have hnot : Frame.statusAfter l.accepted now ≠ .scheduled := by
      rw [hfree]
      nofun
    rw [hsend, Consistent, Frame.kept_concat, SimulatedRadio.frame, if_neg hnot]
    exact hclock.keep _

theorem Consistent.run (h : l.Consistent) (sends : List (Counter × Packet)) :
    (l.run sends).Consistent := by
  induction sends generalizing l with
  | nil => exact h
  | cons s rest ih => exact ih (h.send s.1 s.2)

theorem consistent_fresh (start : Counter) (airtime : AirtimeModel) :
    (fresh start airtime).Consistent :=
  ⟨rfl, List.suffix_refl [], rfl⟩

theorem length_accepted_send_le (l : LoggedRadio) (now : Counter) (p : Packet) :
    (l.send now p).accepted.length ≤ l.accepted.length + 1 := by
  obtain ⟨-, hsend⟩ | ⟨-, hsend⟩ | ⟨-, hsend⟩ := l.send_cases now p <;> rw [hsend]
  · exact Nat.le_succ _
  · exact Nat.le_of_eq (List.length_append ..)
  · exact Nat.le_of_eq (List.length_append ..)

theorem length_accepted_run_le (l : LoggedRadio) (sends : List (Counter × Packet)) :
    (l.run sends).accepted.length ≤ l.accepted.length + sends.length := by
  induction sends generalizing l with
  | nil => exact Nat.le_refl _
  | cons s rest ih =>
    have hstep := l.length_accepted_send_le s.1 s.2
    have hrest := ih (l.send s.1 s.2)
    change ((l.send s.1 s.2).run rest).accepted.length ≤ _
    rw [List.length_cons]
    omega

end LoggedRadio

open LoggedRadio in
/-- Whatever a new radio is asked to send, and at whatever readings: it counts the frames that are
left of those it took, as far as a word goes, which is far enough for fewer than 2⁶⁴ requests, and
remembers the latest of them. It knows what its latest frame does, and has counted a frame whenever
it takes one away. It takes the next one unless a frame is on air, and if it refuses it stays as it
is. -/
theorem radio_recalls (start : Counter) (airtime : AirtimeModel) (sends : List (Counter × Packet)) :
    let log := (fresh start airtime).run sends
    let kept := Frame.kept log.accepted
    log.radio.counted = .ofNat kept.length ∧ kept.length ≤ sends.length ∧
    (sends.length < 2 ^ 64 → log.radio.framesSent = kept.length) ∧
    log.radio.history <:+ kept ∧
    log.radio.history.length = min kept.length SimulatedRadio.historyCapacity ∧
    ∀ now, let r := { log.radio with clock := now }
      r.statusAt r.clock = Frame.statusAfter log.accepted now ∧
      (r.statusAt r.clock = .scheduled → 0 < kept.length ∧
        (sends.length < 2 ^ 64 → 0 < r.framesSent)) ∧
      ∀ p, ((r.send p).1 = .ok () ↔ r.statusAt r.clock ≠ .emitting) ∧
        ((r.send p).1 = .error .busy → (r.send p).2 = r) := by
  intro log kept
  have hlog : log.Consistent := (consistent_fresh start airtime).run sends
  have hall : kept.length ≤ sends.length := by
    have hkept := Frame.length_kept_le log.accepted
    have htaken := length_accepted_run_le (fresh start airtime) sends
    rw [fresh, List.length_nil, Nat.zero_add] at htaken
    exact Nat.le_trans hkept htaken
  have hsent (hfit : sends.length < 2 ^ 64) : log.radio.framesSent = kept.length :=
    hlog.framesSent (Nat.lt_of_le_of_lt hall hfit)
  refine ⟨hlog.count, hall, hsent, hlog.latest, hlog.length, fun now => ?_⟩
  refine ⟨hlog.statusAt now, fun hwaits => ?_, fun p =>
    ⟨SimulatedRadio.send_eq_ok_iff _ p, SimulatedRadio.send_of_refused⟩⟩
  have hsome : 0 < kept.length := List.length_pos_iff.mpr (hlog.kept_ne_nil hwaits)
  exact ⟨hsome, fun hfit => (hsent hfit).symm ▸ hsome⟩

/-- The first of four frames is replaced while it waits for the counter to start over, and the third
is refused. -/
example :
    let p := fun id target =>
      Packet.timestamped id [0] ⟨target⟩ 869525000 (.loraDownlink 7 .khz125)
    let log := (LoggedRadio.fresh ⟨0⟩ (.fixed 50000)).run [(⟨4294967000⟩, p 1 1000),
      (⟨4294967100⟩, p 2 2000), (⟨3000⟩, p 3 9000), (⟨60000⟩, p 4 70000)]
    log.accepted.map (·.id) = [1, 2, 4] ∧ log.radio.history.map (·.id) = [2, 4] ∧
      log.radio.framesSent = 2 := by
  decide

end Downlink
