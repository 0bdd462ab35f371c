import Downlink.Proofs.Queue.Timeline
import Downlink.Proofs.Station.Due
import Downlink.Proofs.Station.Ledger

/-!
# A batch of data drains in order

Once nothing more is handed in, a station with a simulated radio only has to tick. It does so in
**rounds** (`Station.rounds`), each at some time and until nothing is due, and its radio's counter
shows that time. What becomes of an entry is then settled by the first round that finds its target
less than the look-ahead away: if the target has not passed by then the entry is sent, and otherwise
it is dropped.

Among data no two entries are near at once, so a round comes to no more than one downlink
(`Station.round_cases`). Its frame has left the air before another entry of the batch is due, which
is what `Scheduler.Apart.over` says, so the radio is free each time (`Primed.round_of_due`). What one
round settles and what later rounds settle is put together by `Settles.append`.
-/

namespace Downlink

/-! ## Rounds -/

namespace Station

variable {ρ : Type} [Radio ρ] {s : Scheduler} {now : Counter} {e : Entry} {st st' st'' : Station ρ}

/-- What the ticks of `Station.ticks` drop as stale. -/
def ticksMissed (s : Scheduler) (now : Counter) : Nat → Station ρ → List Entry
  | 0, _ => []
  | n + 1, st =>
    let t := st.tick s now
    match t.event with
    | none => s.missed now st.queue
    | some _ => s.missed now st.queue ++ ticksMissed s now n t.station

/-- What the ticks of a round drop as stale. -/
def roundMissed (s : Scheduler) (now : Counter) (st : Station ρ) : List Entry :=
  st.ticksMissed s now (st.queue.entries.length + 1)

theorem round_of_none (h : (st.tick s now).event = none) :
    st.round s now = ([], (st.tick s now).station) ∧
      st.roundMissed s now = s.missed now st.queue := by
  simp only [round, settle, ticks, roundMissed, ticksMissed, h, and_self]

/-- A tick that finds something due leaves one entry less, so a second tick belongs to the round. -/
theorem round_of_some {event : Event} (hne : st.queue.entries ≠ [])
    (h : (st.tick s now).event = some event)
    (hagain : ((st.tick s now).station.tick s now).event = none) :
    st.round s now = ([event], ((st.tick s now).station.tick s now).station) ∧
      st.roundMissed s now =
        s.missed now st.queue ++ s.missed now (st.tick s now).station.queue := by
  obtain ⟨k, hk⟩ := Nat.exists_eq_add_one_of_ne_zero (List.length_pos_iff.mpr hne).ne'
  simp only [round, settle, ticks, roundMissed, ticksMissed, hk, h, hagain, and_self]

/-- What a tick leaves when it hands an entry on is not stale, so a second one misses nothing. -/
theorem HandsOn.missed_eq_nil (h : st.HandsOn s now e st') (hrests : st'.Rests s now st'') :
    s.missed now st'.queue = [] := by
  refine List.eq_nil_iff_forall_not_mem.mpr fun x hx => ?_
  have hkept := h.fresh x (List.mem_cons_of_mem e (hrests.perm.mem_iff.mp (List.mem_append_left _ hx)))
  rw [hrests.stale x hx] at hkept
  cases hkept

/-- A tick that finds nothing due after one that handed an entry on leaves that as it was. -/
theorem HandsOn.trans_rests (h : st.HandsOn s now e st') (hrests : st'.Rests s now st'') :
    st.HandsOn s now e st'' := by
  have hperm := hrests.perm
  rw [h.missed_eq_nil hrests, List.nil_append] at hperm
  have hmem : ∀ {x}, x ∈ st''.queue.entries → x ∈ st'.queue.entries := hperm.mem_iff.mp
  constructor
  · exact ((hperm.cons e).append_left _).trans h.perm
  · exact h.stale
  · intro x hx
    rcases List.mem_cons.mp hx with rfl | hx
    · exact h.fresh x List.mem_cons_self
    · exact hrests.fresh x hx
  · exact h.due
  · exact fun x hx => h.first x (hmem hx)
  · exact hrests.radio.trans h.radio

/-- Among data only one entry is due at a time. -/
theorem HandsOn.tick_again (h : st.HandsOn s now e st') (hspaced : s.Spaced st.queue.entries)
    (hdata : ∀ x ∈ st.queue.entries, x.trafficClass ≠ .beacon) :
    (st'.tick s now).event = none ∧ st'.Rests s now (st'.tick s now).station := by
  rcases st'.tick_cases s now with hrests | ⟨f, -, hagain⟩
  · exact hrests
  · have hf : f ∈ st'.queue.entries := hagain.perm.mem_iff.mp (by simp)
    have hleft := hspaced.of_lost h.perm
    have hef : s.Apart e f := (List.pairwise_cons.mp hleft.apart).1 f hf
    have hbeacon := (hef.symm.near (hleft.jitDelay_le f (List.mem_cons_of_mem e hf)) hagain.due
      (h.first f hf)).1
    exact absurd hbeacon (hdata f (h.perm.mem_iff.mp (by simp [hf])))

/-- Among data a round comes to what its first tick comes to, and leaves nothing near. -/
theorem round_cases (st : Station ρ) (hspaced : s.Spaced st.queue.entries)
    (hdata : ∀ x ∈ st.queue.entries, x.trafficClass ≠ .beacon) (now : Counter) :
    st.roundMissed s now = s.missed now st.queue ∧
    (((st.round s now).1 = [] ∧ st.Rests s now (st.round s now).2) ∨
      ∃ e, (st.round s now).1 = [⟨e.packet.id, e.trafficClass, e.target, now,
          (Delivery.attempt st.radio e).outcome⟩] ∧
        st.HandsOn s now e (st.round s now).2 ∧
        ∀ x ∈ (st.round s now).2.queue.entries, s.policy.jitDelay ≤ x.lead now) := by
  rcases st.tick_cases s now with ⟨hevent, hrests⟩ | ⟨e, hevent, hhands⟩
  · obtain ⟨hround, hmissed⟩ := round_of_none hevent
    rw [hround, hmissed]
    exact ⟨rfl, .inl ⟨rfl, hrests⟩⟩
  · obtain ⟨hagain, hrests⟩ := hhands.tick_again hspaced hdata
    have hmem : e ∈ st.queue.entries := hhands.perm.mem_iff.mp (by simp)
    obtain ⟨hround, hmissed⟩ := round_of_some (List.ne_nil_of_mem hmem) hevent hagain
    rw [hround, hmissed, hhands.missed_eq_nil hrests, List.append_nil]
    exact ⟨rfl, .inr ⟨e, rfl, hhands.trans_rests hrests, hrests.early⟩⟩

/-- The station with its radio's counter showing a reading. -/
def clocked (st : Station SimulatedRadio) (now : Counter) : Station SimulatedRadio :=
  { st with radio := { st.radio with clock := now } }

end Station

/-- What some rounds came to. -/
structure Batch where
  /-- the events in order -/
  events : List Event
  /-- the entries that were dropped as stale -/
  dropped : List Entry
  /-- the station as it is now -/
  station : Station SimulatedRadio

/-- Rounds at some times, the radio's counter showing the time of each. -/
def Station.rounds (s : Scheduler) (st : Station SimulatedRadio) : List Nat → Batch
  | [] => ⟨[], [], st⟩
  | n :: times =>
    let st := st.clocked (.ofTime n)
    let r := st.round s (.ofTime n)
    let rest := rounds s r.2 times
    ⟨r.1 ++ rest.events, st.roundMissed s (.ofTime n) ++ rest.dropped, rest.station⟩

/-! ## The first chance of an entry -/

/-- The first of some times that finds the entry's target less than the look-ahead away. -/
def Entry.firstChance (s : Scheduler) (n0 : Nat) (times : List Nat) (e : Entry) : Option Nat :=
  times.find? fun n => e.time n0 < n + s.policy.jitDelay.toNat

namespace Entry

variable {s : Scheduler} {n0 n : Nat} {times times' : List Nat} {e : Entry}

theorem of_firstChance (h : e.firstChance s n0 times = some n) :
    n ∈ times ∧ e.time n0 < n + s.policy.jitDelay.toNat := by
  rw [firstChance] at h
  have hnear := List.find?_some h
  exact ⟨List.mem_of_find?_eq_some h, of_decide_eq_true hnear⟩

theorem firstChance_singleton (h : e.time n0 < n + s.policy.jitDelay.toNat) :
    e.firstChance s n0 [n] = some n := by
  rw [firstChance, List.find?_singleton, if_pos (decide_eq_true h)]

theorem firstChance_append : e.firstChance s n0 (times ++ times') =
    (e.firstChance s n0 times).or (e.firstChance s n0 times') :=
  List.find?_append

end Entry

/-- An entry whose target comes up within the maximum advance after `n0`. -/
structure Upcoming (s : Scheduler) (n0 : Nat) (e : Entry) : Prop where
  /-- the maximum advance is less than half a turn -/
  advance : s.policy.maxAdvance.toNat < 2 ^ 31
  /-- the target is nearer than that -/
  close : e.lead (.ofTime n0) < s.policy.maxAdvance

namespace Upcoming

variable {s : Scheduler} {n0 n : Nat} {e : Entry}

/-- For half a turn it is stale when its time has passed. -/
theorem isStale_iff (h : Upcoming s n0 e) (hstart : n0 ≤ n) (hhalf : n < n0 + 2 ^ 31) :
    s.isStale (.ofTime n) e = true ↔ e.time n0 < n := by
  have hadvance := h.advance
  have hclose := UInt32.lt_iff_toNat_lt.mp h.close
  refine Scheduler.isStale_ofTime (e.target_eq n0) ?_ ?_ <;> rw [e.time_eq] <;> omega

theorem le_time_of_fresh (h : Upcoming s n0 e) (hstart : n0 ≤ n) (hhalf : n < n0 + 2 ^ 31)
    (hfresh : s.isStale (.ofTime n) e = false) : n ≤ e.time n0 := by
  rw [← Nat.not_lt, ← h.isStale_iff hstart hhalf, hfresh]
  nofun

/-- Until then its lead is the time that is left. -/
theorem toNat_lead (h : Upcoming s n0 e) (hstart : n0 ≤ n) (hle : n ≤ e.time n0) :
    (e.lead (.ofTime n)).toNat = e.time n0 - n := by
  have hclose := UInt32.lt_iff_toNat_lt.mp h.close
  have hadvance := h.advance
  rw [Entry.lead, e.target_eq n0]
  refine Counter.toNat_since_ofTime_of_le hle ?_
  rw [e.time_eq]
  omega

/-- A round comes too late for what is stale, -/
theorem late (h : Upcoming s n0 e) (hstart : n0 ≤ n) (hhalf : n < n0 + 2 ^ 31)
    (hstale : s.isStale (.ofTime n) e = true) :
    ∃ n', e.firstChance s n0 [n] = some n' ∧ e.time n0 < n' := by
  have hlt := (h.isStale_iff hstart hhalf).mp hstale
  exact ⟨n, Entry.firstChance_singleton (by omega), hlt⟩

/-- in time for what is near, -/
theorem timely (h : Upcoming s n0 e) (hstart : n0 ≤ n) (hhalf : n < n0 + 2 ^ 31)
    (hfresh : s.isStale (.ofTime n) e = false) (hnear : s.IsNear (.ofTime n) e) :
    ∃ n', e.firstChance s n0 [n] = some n' ∧ n' ≤ e.time n0 := by
  have hle := h.le_time_of_fresh hstart hhalf hfresh
  have hlead := h.toNat_lead hstart hle
  have hlt := UInt32.lt_iff_toNat_lt.mp hnear
  exact ⟨n, Entry.firstChance_singleton (by omega), hle⟩

/-- and is no chance for what is further away. -/
theorem early (h : Upcoming s n0 e) (hstart : n0 ≤ n) (hhalf : n < n0 + 2 ^ 31)
    (hfresh : s.isStale (.ofTime n) e = false)
    (hfar : s.policy.jitDelay ≤ e.lead (.ofTime n)) :
    ∀ n' ∈ [n], n' ≤ e.time n0 ∧ n' + s.policy.jitDelay.toNat ≤ e.time n0 := by
  intro n' hn'
  obtain rfl := List.mem_singleton.mp hn'
  have hle := h.le_time_of_fresh hstart hhalf hfresh
  have hlead := h.toNat_lead hstart hle
  rw [UInt32.le_iff_toNat_le] at hfar
  exact ⟨hle, by omega⟩

end Upcoming

/-! ## What rounds settle -/

/-- What rounds at some times make of some entries: some are sent, some are dropped, and some are
left. -/
structure Settles (s : Scheduler) (n0 : Nat) (times : List Nat) (entries : List Entry)
    (events : List Event) (dropped sent left : List Entry) : Prop where
  /-- the events tell of what is sent, in order -/
  subjects : events.map Event.subject = sent.map fun e => e.parcel.subject
  /-- each of them tells that it was -/
  outcomes : ∀ event ∈ events, event.outcome = .sent
  /-- it goes in the order of the targets -/
  ordered : sent.Pairwise fun e f => e.time n0 < f.time n0
  /-- nothing else becomes of an entry -/
  perm : (dropped ++ (sent ++ left)).Perm entries
  /-- what is dropped had passed at its first chance -/
  late : ∀ e ∈ dropped, ∃ n, e.firstChance s n0 times = some n ∧ e.time n0 < n
  /-- what is sent had not -/
  timely : ∀ e ∈ sent, ∃ n, e.firstChance s n0 times = some n ∧ n ≤ e.time n0
  /-- what is left had none, and no round has passed it -/
  early : ∀ e ∈ left, ∀ n ∈ times, n ≤ e.time n0 ∧ n + s.policy.jitDelay.toNat ≤ e.time n0

namespace Settles

variable {s : Scheduler} {n0 : Nat} {times times' : List Nat} {entries middle left : List Entry}
  {events events' : List Event} {dropped dropped' sent sent' : List Entry}

/-- No rounds settle nothing. -/
theorem nil (s : Scheduler) (n0 : Nat) (entries : List Entry) :
    Settles s n0 [] entries [] [] [] entries :=
  ⟨rfl, by simp, .nil, .refl _, by simp, by simp, by simp⟩

/-- What is left has had no chance yet. -/
theorem firstChance_eq_none (h : Settles s n0 times entries events dropped sent left)
    {e : Entry} (he : e ∈ left) : e.firstChance s n0 times = none := by
  refine List.find?_eq_none.mpr fun n hn hlt => ?_
  have hearly := (h.early e he n hn).2
  exact absurd (of_decide_eq_true hlt) (Nat.not_lt.mpr hearly)

/-- What becomes of the entries in some rounds and then in others. -/
theorem append (h : Settles s n0 times entries events dropped sent middle)
    (h' : Settles s n0 times' middle events' dropped' sent' left) :
    Settles s n0 (times ++ times') entries (events ++ events') (dropped ++ dropped')
      (sent ++ sent') left := by
  have hmiddle : ∀ e, e ∈ dropped' ∨ e ∈ sent' ∨ e ∈ left → e ∈ middle := by
    intro e he
    rw [← List.mem_append, ← List.mem_append] at he
    exact h'.perm.mem_iff.mp he
  have hchance : ∀ (e : Entry) n, e.firstChance s n0 times = some n →
      e.firstChance s n0 (times ++ times') = some n := by
    intro e n hn
    rw [Entry.firstChance_append, hn, Option.some_or]
  have hlater : ∀ e ∈ middle, e.firstChance s n0 (times ++ times') =
      e.firstChance s n0 times' := by
    intro e he
    rw [Entry.firstChance_append, h.firstChance_eq_none he, Option.none_or]
  constructor
  case subjects => rw [List.map_append, List.map_append, h.subjects, h'.subjects]
  case outcomes =>
    intro event hevent
    rcases List.mem_append.mp hevent with hevent | hevent
    · exact h.outcomes event hevent
    · exact h'.outcomes event hevent
  case ordered =>
    refine List.pairwise_append.mpr ⟨h.ordered, h'.ordered, ?_⟩
    intro e he f hf
    -- the round that sent `e` found `f` further away than the look-ahead
    obtain ⟨n, hn, -⟩ := h.timely e he
    obtain ⟨hmem, hnear⟩ := Entry.of_firstChance hn
    have hfar := (h.early f (hmiddle f (.inr (.inl hf))) n hmem).2
    omega
  case perm =>
    have hrest : (dropped' ++ (sent ++ sent' ++ left)).Perm (sent ++ middle) := by
      rw [List.append_assoc]
      have hswap : (dropped' ++ sent).Perm (sent ++ dropped') := List.perm_append_comm
      rw [← List.append_assoc]
      refine (hswap.append_right _).trans ?_
      rw [List.append_assoc]
      exact h'.perm.append_left sent
    rw [List.append_assoc]
    exact (hrest.append_left dropped).trans h.perm
  case late =>
    intro e he
    rcases List.mem_append.mp he with he | he
    · obtain ⟨n, hn, hlt⟩ := h.late e he
      exact ⟨n, hchance e n hn, hlt⟩
    · rw [hlater e (hmiddle e (.inl he))]
      exact h'.late e he
  case timely =>
    intro e he
    rcases List.mem_append.mp he with he | he
    · obtain ⟨n, hn, hle⟩ := h.timely e he
      exact ⟨n, hchance e n hn, hle⟩
    · rw [hlater e (hmiddle e (.inr (.inl he)))]
      exact h'.timely e he
  case early =>
    intro e he n hn
    rcases List.mem_append.mp hn with hn | hn
    · exact h.early e (hmiddle e (.inr (.inr he))) n hn
    · exact h'.early e he n hn

/-- An entry is sent if its first chance does not come too late. -/
theorem mem_sent_iff (h : Settles s n0 times entries events dropped sent left) {e : Entry}
    (he : e ∈ entries) : e ∈ sent ↔ ∃ n, e.firstChance s n0 times = some n ∧ n ≤ e.time n0 := by
  refine ⟨h.timely e, ?_⟩
  rintro ⟨n, hn, hle⟩
  rcases List.mem_append.mp (h.perm.mem_iff.mpr he) with hdropped | hkept
  · obtain ⟨n', hn', hlt⟩ := h.late e hdropped
    obtain rfl : n = n' := Option.some.inj (hn.symm.trans hn')
    omega
  · rcases List.mem_append.mp hkept with hsent | hleft
    · exact hsent
    · rw [h.firstChance_eq_none hleft] at hn
      cases hn

/-- It is dropped if it is not sent and a round passes it. -/
theorem mem_dropped_iff (h : Settles s n0 times entries events dropped sent left) {e : Entry}
    (he : e ∈ entries) : e ∈ dropped ↔ e ∉ sent ∧ ∃ n ∈ times, e.time n0 < n := by
  constructor
  · intro hdropped
    obtain ⟨n, hn, hlt⟩ := h.late e hdropped
    refine ⟨fun hsent => ?_, n, (Entry.of_firstChance hn).1, hlt⟩
    obtain ⟨n', hn', hle⟩ := h.timely e hsent
    obtain rfl : n = n' := Option.some.inj (hn.symm.trans hn')
    omega
  · rintro ⟨hnot, n, hn, hlt⟩
    rcases List.mem_append.mp (h.perm.mem_iff.mpr he) with hdropped | hkept
    · exact hdropped
    · rcases List.mem_append.mp hkept with hsent | hleft
      · exact absurd hsent hnot
      · have hle := (h.early e hleft n hn).1
        omega

end Settles

/-! ## One round -/

/-- A station that waits for rounds from `m` on, up to half a turn after `n0`. -/
structure Primed (s : Scheduler) (n0 m : Nat) (st : Station SimulatedRadio) : Prop where
  /-- the entries are apart -/
  spaced : s.Spaced st.queue.entries
  /-- none is a beacon -/
  data : ∀ e ∈ st.queue.entries, e.trafficClass ≠ .beacon
  /-- each comes up within the maximum advance -/
  upcoming : ∀ e ∈ st.queue.entries, Upcoming s n0 e
  /-- each is on air for the time that is reserved for it -/
  onAir : ∀ e ∈ st.queue.entries, st.radio.airtime e.packet = e.postDelay
  /-- the radio is free when one is due -/
  free : ∀ e ∈ st.queue.entries, ∀ n, m ≤ n → n < n0 + 2 ^ 31 →
    s.isStale (.ofTime n) e = false → s.IsNear (.ofTime n) e →
    st.radio.statusAt (.ofTime n) = .free

namespace Primed

variable {s : Scheduler} {n0 m n : Nat} {st st' : Station SimulatedRadio} {e : Entry}

/-- With some of its entries a station still waits for rounds, if the radio will be free. -/
theorem of_lost (h : Primed s n0 m st) {gone : List Entry}
    (hall : (gone ++ st'.queue.entries).Perm st.queue.entries)
    (hair : st'.radio.airtime = st.radio.airtime)
    (hfree : ∀ e ∈ st'.queue.entries, ∀ n', n ≤ n' → n' < n0 + 2 ^ 31 →
      s.isStale (.ofTime n') e = false → s.IsNear (.ofTime n') e →
      st'.radio.statusAt (.ofTime n') = .free) : Primed s n0 n st' := by
  have hmem : ∀ {x}, x ∈ st'.queue.entries → x ∈ st.queue.entries :=
    fun hx => hall.mem_iff.mp (List.mem_append_right gone hx)
  refine ⟨h.spaced.of_lost hall, fun e he => h.data e (hmem he),
    fun e he => h.upcoming e (hmem he), fun e he => ?_, hfree⟩
  rw [hair]
  exact h.onAir e (hmem he)

/-- What a round left that found nothing due. -/
theorem of_rests (h : Primed s n0 m st) (hmn : m ≤ n)
    (hrests : (st.clocked (.ofTime n)).Rests s (.ofTime n) st') : Primed s n0 n st' := by
  refine h.of_lost hrests.perm ?_ ?_
  · rw [hrests.radio]
    rfl
  · intro e he n' hn' hhalf
    rw [hrests.radio]
    exact h.free e (hrests.perm.mem_iff.mp (List.mem_append_right _ he)) n' (hmn.trans hn') hhalf

/-- An entry that is due is sent, and its frame has left the air before another one is due. -/
theorem of_handsOn (h : Primed s n0 m st) (hmn : m ≤ n) (hstart : n0 ≤ n)
    (hhalf : n < n0 + 2 ^ 31)
    (hhands : (st.clocked (.ofTime n)).HandsOn s (.ofTime n) e st') :
    (Delivery.attempt (st.clocked (.ofTime n)).radio e).outcome = .sent ∧ Primed s n0 n st' := by
  have hmem : ∀ {x}, x ∈ e :: st'.queue.entries → x ∈ st.queue.entries :=
    fun hx => hhands.perm.mem_iff.mp (List.mem_append_right _ hx)
  have he : e ∈ st.queue.entries := hmem List.mem_cons_self
  have hfree : (st.clocked (.ofTime n)).radio.statusAt (.ofTime n) = .free :=
    h.free e he n hmn hhalf (hhands.fresh e List.mem_cons_self) hhands.due
  rcases (st.clocked (.ofTime n)).radio.attempt_cases e with
    ⟨⟨-, hsent⟩ | ⟨hscheduled, -⟩, hlatest, hair⟩ | ⟨hemitting, -⟩
  · have hall : ((s.missed (.ofTime n) st.queue ++ [e]) ++ st'.queue.entries).Perm
        st.queue.entries := by
      rw [List.append_assoc]
      exact hhands.perm
    refine ⟨hsent, h.of_lost hall ?_ ?_⟩
    · rw [hhands.radio]
      exact hair
    · intro x hx n' hn' hhalf' hfresh hnear
      have hspaced := h.spaced.of_lost hhands.perm
      have hapart : s.Apart x e := ((List.pairwise_cons.mp hspaced.apart).1 x hx).symm
      have hx' := hmem (List.mem_cons_of_mem e hx)
      have helapsed : ((Counter.ofTime n').since (.ofTime n)).toNat = n' - n :=
        Counter.toNat_since_ofTime_of_le hn' (by omega)
      -- the radio's time for `e` is over when `x` is due, and the frame is no longer than that
      have hover := hapart.over (fun hguard => h.data x hx' hguard.1) (h.upcoming x hx').advance
        (by omega) (h.spaced.jitDelay_le x hx') (hhands.first x hx)
        (hhands.fresh x (List.mem_cons_of_mem e hx)) hfresh hnear
      rw [SimulatedRadio.statusAt, hhands.radio, hlatest]
      refine Frame.statusAt_eq_free rfl ?_
      change _ + (st.radio.airtime e.packet).toNat ≤ _
      rw [h.onAir e he]
      exact hover
  · cases hfree.symm.trans hscheduled
  · cases hfree.symm.trans hemitting

/-- What a round settles that finds nothing due. -/
theorem settles_of_rests (h : Primed s n0 m st) (hstart : n0 ≤ n) (hhalf : n < n0 + 2 ^ 31)
    (hrests : (st.clocked (.ofTime n)).Rests s (.ofTime n) st') :
    Settles s n0 [n] st.queue.entries [] (s.missed (.ofTime n) st.queue) []
      st'.queue.entries := by
  have hmem : ∀ {x}, x ∈ s.missed (.ofTime n) st.queue ++ st'.queue.entries →
      x ∈ st.queue.entries := hrests.perm.mem_iff.mp
  constructor
  case subjects => rfl
  case outcomes => exact List.forall_mem_nil _
  case ordered => exact .nil
  case perm => exact hrests.perm
  case late =>
    intro x hx
    exact (h.upcoming x (hmem (List.mem_append_left _ hx))).late hstart hhalf (hrests.stale x hx)
  case timely => exact List.forall_mem_nil _
  case early =>
    intro x hx
    exact (h.upcoming x (hmem (List.mem_append_right _ hx))).early hstart hhalf
      (hrests.fresh x hx) (hrests.early x hx)

/-- What a round settles that finds an entry due. -/
theorem settles_of_handsOn (h : Primed s n0 m st) (hstart : n0 ≤ n) (hhalf : n < n0 + 2 ^ 31)
    (hhands : (st.clocked (.ofTime n)).HandsOn s (.ofTime n) e st')
    (hfar : ∀ x ∈ st'.queue.entries, s.policy.jitDelay ≤ x.lead (.ofTime n)) :
    Settles s n0 [n] st.queue.entries
      [⟨e.packet.id, e.trafficClass, e.target, .ofTime n, .sent⟩]
      (s.missed (.ofTime n) st.queue) [e] st'.queue.entries := by
  have hmem : ∀ {x}, x ∈ s.missed (.ofTime n) st.queue ++ e :: st'.queue.entries →
      x ∈ st.queue.entries := hhands.perm.mem_iff.mp
  have he : e ∈ e :: st'.queue.entries := List.mem_cons_self
  constructor
  case subjects => rfl
  case outcomes =>
    intro event hevent
    obtain rfl := List.mem_singleton.mp hevent
    rfl
  case ordered => exact List.pairwise_singleton _ _
  case perm => exact hhands.perm
  case late =>
    intro x hx
    exact (h.upcoming x (hmem (List.mem_append_left _ hx))).late hstart hhalf (hhands.stale x hx)
  case timely =>
    intro x hx
    obtain rfl := List.mem_singleton.mp hx
    exact (h.upcoming x (hmem (List.mem_append_right _ he))).timely hstart hhalf
      (hhands.fresh x he) hhands.due
  case early =>
    intro x hx
    have hx' := List.mem_cons_of_mem e hx
    exact (h.upcoming x (hmem (List.mem_append_right _ hx'))).early hstart hhalf
      (hhands.fresh x hx') (hfar x hx)

/-- A round settles what it finds near or passed, and the station waits for more. -/
theorem round (h : Primed s n0 m st) (hmn : m ≤ n) (hstart : n0 ≤ n) (hhalf : n < n0 + 2 ^ 31) :
    let st' := st.clocked (.ofTime n)
    let r := st'.round s (.ofTime n)
    ∃ sent, Settles s n0 [n] st.queue.entries r.1 (st'.roundMissed s (.ofTime n)) sent
      r.2.queue.entries ∧ Primed s n0 n r.2 := by
  intro st' r
  obtain ⟨hmissed, ⟨hevents, hrests⟩ | ⟨e, hevents, hhands, hfar⟩⟩ :=
    st'.round_cases h.spaced h.data (.ofTime n)
  · rw [hmissed, show r.1 = [] from hevents]
    exact ⟨[], h.settles_of_rests hstart hhalf hrests, h.of_rests hmn hrests⟩
  · obtain ⟨hsent, hprimed⟩ := h.of_handsOn hmn hstart hhalf hhands
    rw [hsent] at hevents
    rw [hmissed, show r.1 = _ from hevents]
    exact ⟨[e], h.settles_of_handsOn hstart hhalf hhands hfar, hprimed⟩

/-- Rounds settle what one after the other does. -/
theorem rounds {times : List Nat} (h : Primed s n0 m st)
    (hmono : times.Pairwise (· ≤ ·)) (hlater : ∀ n ∈ times, m ≤ n)
    (htimes : ∀ n ∈ times, n0 ≤ n ∧ n < n0 + 2 ^ 31) :
    let b := st.rounds s times
    ∃ sent, Settles s n0 times st.queue.entries b.events b.dropped sent
      b.station.queue.entries := by
  induction times generalizing m st with
  | nil => exact ⟨[], .nil s n0 st.queue.entries⟩
  | cons n times ih =>
    obtain ⟨hmn, -⟩ := List.forall_mem_cons.mp hlater
    obtain ⟨⟨hstart, hhalf⟩, hrest⟩ := List.forall_mem_cons.mp htimes
    obtain ⟨hfirst, hmono⟩ := List.pairwise_cons.mp hmono
    obtain ⟨sent, hsettles, hprimed⟩ := h.round hmn hstart hhalf
    obtain ⟨sent', hsettles'⟩ := ih hprimed hmono hfirst hrest
    exact ⟨sent ++ sent', hsettles.append hsettles'⟩

end Primed

/-- A station is ready if it holds data that comes up soon and its radio had no frame yet. -/
theorem primed_of_reachable {s : Scheduler} {n0 : Nat} {st : Station SimulatedRadio}
    (h : st.Reachable s) (hhistory : st.radio.history = [])
    (hdata : ∀ e ∈ st.queue.entries, e.trafficClass ≠ .beacon)
    (hupcoming : ∀ e ∈ st.queue.entries, Upcoming s n0 e)
    (honAir : ∀ e ∈ st.queue.entries, st.radio.airtime e.packet = e.postDelay) :
    Primed s n0 n0 st := by
  refine ⟨h.spaced, hdata, hupcoming, honAir, ?_⟩
  intro e he n hstart hhalf hfresh hnear
  rw [SimulatedRadio.statusAt, hhistory]
  rfl

/-- **A batch drains completely and in order.** Take any reachable station whose queue holds data
only, all of it less than the maximum advance away at `n0`, and whose radio had no frame yet and
keeps each frame on air for the time the queue reserved. Of rounds within half a turn after `n0`
every event says that its downlink was sent; the downlinks go in the order of their targets, and
each of them does go whose target has not passed at the first round that finds it less than the
look-ahead away. Of the others those are dropped that a round passes, and the rest stay. -/
theorem rounds_drain {config : QueueConfig} {airtime : AirtimeModel}
    {st : Station SimulatedRadio} (h : st.Reachable (.ofConfig config airtime)) {n0 : Nat}
    (hdata : ∀ e ∈ st.queue.entries, e.trafficClass ≠ .beacon)
    (hclose : ∀ e ∈ st.queue.entries, e.lead (.ofTime n0) < config.maxAdvance)
    (hadvance : ∀ e ∈ st.queue.entries,
      config.maxAdvance.toNat + e.postDelay.toNat < 2 ^ 31)
    (hhistory : st.radio.history = [])
    (honAir : ∀ e ∈ st.queue.entries, st.radio.airtime e.packet = e.postDelay)
    {times : List Nat} (hmono : times.Pairwise (· ≤ ·))
    (htimes : ∀ n ∈ times, n0 ≤ n ∧ n < n0 + 2 ^ 31) :
    let b := st.rounds (.ofConfig config airtime) times
    let first := fun e : Entry =>
      times.find? fun n => e.time n0 < n + config.jitDelay.toNat
    ∃ sent : List Entry,
      b.events.map Event.subject = sent.map (fun e => e.parcel.subject) ∧
      (∀ event ∈ b.events, event.outcome = .sent) ∧
      sent.Pairwise (fun e f => e.time n0 < f.time n0) ∧
      (b.dropped ++ (sent ++ b.station.queue.entries)).Perm st.queue.entries ∧
      ∀ e ∈ st.queue.entries,
        (e ∈ sent ↔ ∃ n, first e = some n ∧ n ≤ e.time n0) ∧
        (e ∈ b.dropped ↔ e ∉ sent ∧ ∃ n ∈ times, e.time n0 < n) := by
  intro b first
  have hupcoming : ∀ e ∈ st.queue.entries, Upcoming (.ofConfig config airtime) n0 e :=
    fun e he => ⟨Nat.lt_of_le_of_lt (Nat.le_add_right _ _) (hadvance e he), hclose e he⟩
  have hprimed := primed_of_reachable h hhistory hdata hupcoming honAir
  obtain ⟨sent, hsettles⟩ := hprimed.rounds hmono (fun n hn => (htimes n hn).1) htimes
  exact ⟨sent, hsettles.subjects, hsettles.outcomes, hsettles.ordered, hsettles.perm,
    fun e he => ⟨hsettles.mem_sent_iff he, hsettles.mem_dropped_iff he⟩⟩

/-- Four downlinks around the counter's zero. The first two rounds come in time for the first one
and too late for the second, the last comes in time for the third, and the fourth stays. -/
theorem rounds_drain_zero :
    let s := Scheduler.ofConfig {} (.fixed 50000)
    let n0 := 2 ^ 32 - 200000
    let ask := fun id target c => Action.ask (.enqueue (.ofTime n0)
      (Packet.timestamped id [0x60] (.ofTime target) 869525000 (.loraDownlink 9 .khz125)) c)
    let radio : SimulatedRadio := { clock := .ofTime n0, airtime := .fixed 50000 }
    let st := Station.run s { radio } [ask 3 (2 ^ 32 + 200000) .classC, ask 2 (2 ^ 32) .classB,
      ask 4 (2 ^ 32 + 5000000) .classB, ask 1 (2 ^ 32 - 100000) .classA]
    let times := [2 ^ 32 - 130000, 2 ^ 32 + 1, 2 ^ 32 + 180000]
    let b := st.rounds s times
    st.Reachable s ∧ b.events.map (·.id) = [1, 3] ∧ b.dropped.map (·.packet.id) = [2] ∧
    ∃ sent : List Entry,
      b.events.map Event.subject = sent.map (fun e => e.parcel.subject) ∧
      (∀ event ∈ b.events, event.outcome = .sent) ∧
      sent.Pairwise (fun e f => e.time n0 < f.time n0) := by
  intro s n0 ask radio st times b
  have hreach : st.Reachable s := (Station.Reachable.fresh radio).run _
  have hdata : ∀ e ∈ st.queue.entries, e.trafficClass ≠ .beacon := by decide +kernel
  have hclose : ∀ e ∈ st.queue.entries, e.lead (.ofTime n0) < QueueConfig.maxAdvance {} := by
    decide +kernel
  have hadvance : ∀ e ∈ st.queue.entries,
      (QueueConfig.maxAdvance {}).toNat + e.postDelay.toNat < 2 ^ 31 := by decide +kernel
  have honAir : ∀ e ∈ st.queue.entries, st.radio.airtime e.packet = e.postDelay := by
    decide +kernel
  have hmono : times.Pairwise (· ≤ ·) := by decide
  have htimes : ∀ n ∈ times, n0 ≤ n ∧ n < n0 + 2 ^ 31 := by decide
  obtain ⟨sent, hsubjects, hsent, hordered, -⟩ :=
    rounds_drain hreach hdata hclose hadvance rfl honAir hmono htimes
  exact ⟨hreach, by decide +kernel, by decide +kernel, sent, hsubjects, hsent, hordered⟩

end Downlink
