import Downlink.Proofs.Queue.Outcome
import Downlink.Proofs.Station.Reachable
import Downlink.Radio.Simulated

/-!
# Room in the queue

A queue has room for so many entries, and if some of it is kept for beacons, data must leave that
free. What is checked when a downlink is handed in is something else: data is refused once the queue
is longer than a limit that moves with the number of queued beacons (`Scheduler.dataLimit`). The two
agree because what is beyond the beacons is data, so the limit on all entries is one on the data
among them (`Scheduler.Stocked`).

This hangs on the number of beacons that is kept beside the entries being the right one
(`Queue.Counted`). It goes up and down with each entry that is put in or taken out, also with those
that a poll drops on its way. Every one of these `Removal`s is made from a queue whose number is
right, so the number never has to go below zero.
-/

namespace Downlink

/-! ## Beacons and data -/

namespace Queue

/-- How many of the entries are beacons. -/
def beacons (q : Queue) : Nat := q.entries.countP (·.trafficClass.isBeacon)

/-- How many of the entries are data. -/
def data (q : Queue) : Nat := q.entries.countP fun e => !e.trafficClass.isBeacon

theorem beacons_add_data (q : Queue) : q.beacons + q.data = q.entries.length := by
  rw [beacons, data, List.length_eq_countP_add_countP (·.trafficClass.isBeacon)]
  simp only [Bool.not_eq_true, Bool.decide_eq_false]

/-- The number of beacons that is kept is the right one. -/
def Counted (q : Queue) : Prop := q.beaconCount = q.beacons

/-- A queued beacon is counted. -/
theorem Counted.pos {q : Queue} {e : Entry} (h : q.Counted) (he : e ∈ q.entries)
    (hbeacon : e.trafficClass = .beacon) : 0 < q.beaconCount := by
  rw [h]
  exact List.countP_pos_iff.mpr ⟨e, he, TrafficClass.isBeacon_iff.mpr hbeacon⟩

end Queue

/-- An entry on its way out, and the queue it is taken out of. -/
structure Removal where
  /-- the queue as it is then -/
  queue : Queue
  /-- the entry -/
  entry : Entry

namespace Scheduler

variable {s : Scheduler} {q : Queue} {now : Counter}

/-! ## The number of beacons -/

theorem counted_push (h : q.Counted) (e : Entry) : (s.push q e).Counted := by
  have hperm := (s.push_perm q e).countP_eq (·.trafficClass.isBeacon)
  rw [List.countP_cons] at hperm
  change (if e.trafficClass.isBeacon then q.beaconCount + 1 else q.beaconCount) =
    (s.push q e).entries.countP (·.trafficClass.isBeacon)
  rw [hperm, h]
  cases e.trafficClass.isBeacon <;> rfl

theorem counted_removeAt (h : q.Counted) {i : Nat} (hi : i < q.entries.length) :
    (s.removeAt q i hi).2.Counted := by
  have hperm := (s.removeAt_perm hi).countP_eq (·.trafficClass.isBeacon)
  rw [List.countP_cons] at hperm
  change (if q.entries[i].trafficClass.isBeacon then q.beaconCount - 1 else q.beaconCount) =
    (s.removeAt q i hi).2.entries.countP (·.trafficClass.isBeacon)
  rw [h, Queue.beacons, ← hperm]
  cases q.entries[i].trafficClass.isBeacon <;> rfl

/-- The induction is on the drops; each leaves the right number to the next. -/
theorem counted_dropStale (h : q.Counted) (now : Counter) :
    (s.dropStale now q).2.Counted := by
  induction q using dropStale.induct s now with
  | case1 q hnone =>
    rw [dropStale_of_none hnone]
    exact h
  | case2 q i hsome hi gone ih =>
    rw [dropStale_of_some hsome hi]
    exact ih (counted_removeAt h hi)

theorem counted_perform (h : q.Counted) (r : Request) : (s.perform q r).queue.Counted := by
  cases r with
  | enqueue now p c =>
    change (s.enqueue q now p c).queue.Counted
    rcases s.enqueue_cases q now p c with ⟨e, -, -, hq⟩ | ⟨r, -, -, hq⟩
    · rw [hq]
      exact counted_push (q := { q with reference := now }) h e
    · rw [hq]
      exact h
  | dequeue i =>
    change (s.dequeue q i).queue.Counted
    rcases s.dequeue_cases q i with ⟨hi, -, hq⟩ | ⟨reason, -, hq⟩
    · rw [hq]
      exact counted_removeAt h hi
    · rw [hq]
      exact h
  | peek now =>
    change (s.peek q now).queue.Counted
    have hleft := counted_dropStale (s := s) (q := { q with reference := now }) h now
    rcases s.peek_cases q now with ⟨-, -, hq⟩ | ⟨-, gone, left, hdrop, -, -, hq⟩
    · rw [hq]
      exact h
    · rw [hdrop] at hleft
      rw [hq]
      exact hleft
  | takeDue now =>
    change (s.takeDue q now).queue.Counted
    have hleft := counted_dropStale (s := s) (q := { q with reference := now }) h now
    rcases s.takeDue_cases q now with
      ⟨-, -, hq⟩ | ⟨-, gone, left, hdrop, -, ⟨-, -, hq⟩ | ⟨i, hi, -, -, hq⟩⟩
    · rw [hq]
      exact h
    · rw [hdrop] at hleft
      rw [hq]
      exact hleft
    · rw [hdrop] at hleft
      rw [hq]
      exact counted_removeAt hleft hi
  | clear => rfl

/-! ## What is taken out -/

/-- What dropping stale entries takes out, one after the other. -/
def staleRemovals (s : Scheduler) (now : Counter) (q : Queue) : List Removal :=
  match h : q.entries.findIdx? (s.isStale now) with
  | none => []
  | some i =>
    have hi : i < q.entries.length := (List.findIdx?_eq_some_iff_findIdx_eq.mp h).1
    ⟨q, q.entries[i]⟩ :: staleRemovals s now (s.removeAt q i hi).2
termination_by q.entries.length
decreasing_by
  have := s.length_removeAt q i hi
  omega

/-- What a request takes out, one after the other. -/
def removals (s : Scheduler) (q : Queue) : Request → List Removal
  | .enqueue .. | .clear => []
  | .dequeue i =>
    match (s.dequeue q i).result with
    | .ok e => [⟨q, e⟩]
    | .error _ => []
  | .peek now => s.staleRemovals now { q with reference := now }
  | .takeDue now =>
    let stale := s.staleRemovals now { q with reference := now }
    match (s.takeDue q now).result with
    | .ok (some e) => stale ++ [⟨(s.dropStale now { q with reference := now }).2, e⟩]
    | _ => stale

theorem staleRemovals_of_none (h : q.entries.findIdx? (s.isStale now) = none) :
    s.staleRemovals now q = [] := by
  rw [staleRemovals]
  split
  next => rfl
  next hsome => rw [h] at hsome; cases hsome

theorem staleRemovals_of_some {i : Nat} (h : q.entries.findIdx? (s.isStale now) = some i)
    (hi : i < q.entries.length) :
    s.staleRemovals now q = ⟨q, q.entries[i]⟩ :: s.staleRemovals now (s.removeAt q i hi).2 := by
  rw [staleRemovals]
  split
  next hnone => rw [h] at hnone; cases hnone
  next j hsome =>
    obtain rfl : i = j := Option.some.inj (h.symm.trans hsome)
    rfl

/-- The removals are those that dropping stale entries tells of. -/
theorem map_entry_staleRemovals (s : Scheduler) (now : Counter) (q : Queue) :
    (s.staleRemovals now q).map (·.entry) = (s.dropStale now q).1 := by
  induction q using dropStale.induct s now with
  | case1 q hnone =>
    rw [dropStale_of_none hnone, staleRemovals_of_none hnone]
    rfl
  | case2 q i hsome hi gone ih =>
    rw [dropStale_of_some hsome hi, staleRemovals_of_some hsome hi, List.map_cons, ih]

theorem counted_staleRemovals (h : q.Counted) (now : Counter) :
    ∀ x ∈ s.staleRemovals now q, x.queue.Counted ∧ x.entry ∈ x.queue.entries := by
  induction q using dropStale.induct s now with
  | case1 q hnone =>
    rw [staleRemovals_of_none hnone]
    exact List.forall_mem_nil _
  | case2 q i hsome hi gone ih =>
    rw [staleRemovals_of_some hsome hi]
    intro x hx
    rcases List.mem_cons.mp hx with rfl | hx
    · exact ⟨h, List.getElem_mem hi⟩
    · exact ih (counted_removeAt h hi) x hx

/-- What is taken out of a queue whose number of beacons is right is taken out of such queues all the
way. -/
theorem counted_removals (h : q.Counted) (r : Request) :
    ∀ x ∈ s.removals q r, x.queue.Counted ∧ x.entry ∈ x.queue.entries := by
  cases r with
  | enqueue now p c => exact List.forall_mem_nil _
  | clear => exact List.forall_mem_nil _
  | dequeue i =>
    simp only [removals]
    rcases s.dequeue_cases q i with ⟨hi, hres, -⟩ | ⟨reason, hres, -⟩
    · simp only [hres, List.mem_singleton]
      rintro x rfl
      exact ⟨h, List.getElem_mem hi⟩
    · simp only [hres]
      exact List.forall_mem_nil _
  | peek now => exact counted_staleRemovals (q := { q with reference := now }) h now
  | takeDue now =>
    have hstale := counted_staleRemovals (s := s) (q := { q with reference := now }) h now
    have hleft := counted_dropStale (s := s) (q := { q with reference := now }) h now
    simp only [removals]
    rcases s.takeDue_cases q now with
      ⟨-, hres, -⟩ | ⟨-, gone, left, hdrop, -, ⟨-, hres, -⟩ | ⟨i, hi, -, hres, -⟩⟩
    · simp only [hres]
      exact hstale
    · simp only [hres]
      exact hstale
    · simp only [hres, hdrop]
      rw [hdrop] at hleft
      intro x hx
      rcases List.mem_append.mp hx with hx | hx
      · exact hstale x hx
      · obtain rfl := List.mem_singleton.mp hx
        exact ⟨hleft, List.getElem_mem hi⟩

/-- What a poll drops is what it takes out one after the other. -/
theorem map_entry_stale (s : Scheduler) (now : Counter) (q : Queue) :
    (s.staleRemovals now { q with reference := now }).map (·.entry) = s.missed now q :=
  s.map_entry_staleRemovals now _

/-- What is taken out is all that leaves, but for a clear. -/
theorem removals_perm (s : Scheduler) (q : Queue) {r : Request} (hclear : r ≠ .clear)
    (henqueue : ∀ now p c, r ≠ .enqueue now p c) :
    ((s.removals q r).map (·.entry) ++ (s.perform q r).queue.entries).Perm q.entries := by
  cases r with
  | enqueue now p c => exact absurd rfl (henqueue now p c)
  | clear => exact absurd rfl hclear
  | dequeue i =>
    simp only [removals]
    change (_ ++ (s.dequeue q i).queue.entries).Perm _
    rcases s.dequeue_cases q i with ⟨hi, hres, hq⟩ | ⟨reason, hres, hq⟩
    · simp only [hres, hq]
      exact s.removeAt_perm hi
    · simp only [hres, hq]
      exact .refl _
  | peek now =>
    simp only [removals, map_entry_stale]
    change (_ ++ (s.peek q now).queue.entries).Perm _
    rcases s.peek_cases q now with ⟨hnil, -, hq⟩ | ⟨-, gone, left, hdrop, hparted, -, hq⟩
    · rw [hq, missed_of_empty hnil]
      exact .refl _
    · rw [hq, missed, hdrop]
      exact hparted.perm
  | takeDue now =>
    simp only [removals]
    change (_ ++ (s.takeDue q now).queue.entries).Perm _
    rcases s.takeDue_cases q now with
      ⟨hnil, hres, hq⟩ |
        ⟨-, gone, left, hdrop, hparted, ⟨-, hres, hq⟩ | ⟨i, hi, -, hres, hq⟩⟩
    · simp only [hres, map_entry_stale]
      rw [hq, missed_of_empty hnil]
      exact .refl _
    · simp only [hres, map_entry_stale]
      rw [hq, missed, hdrop]
      exact hparted.perm
    · simp only [hres, List.map_append, map_entry_stale]
      rw [hq, missed, hdrop, List.append_assoc]
      exact ((s.removeAt_perm hi).append_left gone).trans hparted.perm

/-! ## The room there is -/

/-- What is known of the entries of a queue and of how many there are. -/
structure Stocked (s : Scheduler) (q : Queue) : Prop where
  /-- the number of beacons that is kept is the right one -/
  counted : q.Counted
  /-- no more is queued than fits -/
  length_le : q.entries.length ≤ s.capacity
  /-- and no more data than fits beside the slots kept for beacons, if there are such -/
  data_le : 0 < s.reservedBeaconSlots → q.data ≤ s.capacity - s.reservedBeaconSlots

/-- As long as the limit on all entries is passed, the queue is full or the limit on data is
reached. -/
theorem dataLimit_le_iff (h : q.Counted) :
    s.dataLimit q ≤ q.entries.length ↔
      s.capacity ≤ q.entries.length ∨ s.capacity - s.reservedBeaconSlots ≤ q.data := by
  have hsum := q.beacons_add_data
  have hcount : q.beaconCount = q.beacons := h
  rw [dataLimit]
  omega

theorem Stocked.admit {p : Packet} {c : TrafficClass} {e : Entry} {q' : Queue}
    (h : s.Stocked q) (he : s.Admitted q now p c e) (hcounted : q'.Counted)
    (hall : q'.entries.Perm (e :: q.entries)) : s.Stocked q' := by
  obtain ⟨hroom, hdata⟩ := (entryRefusal?_eq_none_iff.mp he.entry).1
  rw [← he.trafficClass] at hdata
  constructor
  · exact hcounted
  · rw [hall.length_eq]
    exact hroom
  · intro hreserved
    have hcount : q'.data = (e :: q.entries).countP fun e => !e.trafficClass.isBeacon :=
      hall.countP_eq _
    rw [hcount, List.countP_cons]
    have hle : q.data ≤ s.capacity - s.reservedBeaconSlots := h.data_le hreserved
    change q.data + _ ≤ _
    cases hbeacon : e.trafficClass.isBeacon with
    | true => exact hle
    | false =>
      -- the limit was not reached, so there is room for one more
      have hnot : e.trafficClass ≠ .beacon := by
        rw [Ne, ← TrafficClass.isBeacon_iff, hbeacon]
        nofun
      have hfits := (hdata.resolve_left hnot).resolve_left (Nat.ne_of_gt hreserved)
      have hlimit := Nat.not_le.mpr hfits
      rw [dataLimit_le_iff h.counted, not_or, Nat.not_le, Nat.not_le] at hlimit
      exact hlimit.2

theorem Stocked.lose {gone : List Entry} {q' : Queue} (h : s.Stocked q) (hcounted : q'.Counted)
    (hall : (gone ++ q'.entries).Perm q.entries) : s.Stocked q' := by
  have hlength := hall.length_eq
  rw [List.length_append] at hlength
  have hcount := hall.countP_eq fun e => !e.trafficClass.isBeacon
  rw [List.countP_append] at hcount
  constructor
  · exact hcounted
  · have := h.length_le
    omega
  · intro hreserved
    have hle : q.entries.countP _ ≤ _ := h.data_le hreserved
    change q'.entries.countP _ ≤ _
    omega

theorem stocked_perform (h : s.Stocked q) (r : Request) : s.Stocked (s.perform q r).queue := by
  have hcounted := counted_perform (s := s) h.counted r
  rcases s.perform_entries q r with ⟨now, p, c, e, -, -, he, hperm⟩ | ⟨gone, hperm⟩
  · have hheard : s.Stocked { q with reference := now } := ⟨h.counted, h.length_le, h.data_le⟩
    exact hheard.admit he hcounted hperm
  · exact h.lose hcounted hperm

theorem stocked_of_reachable {ρ : Type} [Radio ρ] {st : Station ρ} (h : st.Reachable s) :
    s.Stocked st.queue := by
  refine h.queue_induction (P := s.Stocked) ?fresh ?request ?counts
  case fresh => exact ⟨rfl, Nat.zero_le _, fun _ => Nat.zero_le _⟩
  case request =>
    intro q r hq
    exact stocked_perform hq r
  case counts =>
    intro q n hq
    exact ⟨hq.counted, hq.length_le, hq.data_le⟩

/-! ## Refused because it is full -/

/-- A downlink is refused because the queue is full if that alone speaks against it. Its target has
nothing to do with it. -/
theorem refused_full_iff {p : Packet} {c : TrafficClass} :
    (∃ r, (s.enqueue q now p c).result = .error r ∧ r.reason = .full) ↔
      s.entryRefusal? q p c = some .full := by
  rw [← outcome_eq_full_iff, ← enqueue_eq_error_iff]
  constructor
  · rintro ⟨⟨_, back⟩, hres, rfl⟩
    exact ⟨back, hres⟩
  · rintro ⟨back, hres⟩
    exact ⟨_, hres, rfl⟩

/-- A beacon finds room while a slot that is kept for beacons is left. -/
theorem Stocked.beacon_ne_full (h : s.Stocked q) (hreserved : s.reservedBeaconSlots < s.capacity)
    (hfew : q.beacons < s.reservedBeaconSlots) {p : Packet} :
    s.entryRefusal? q p .beacon ≠ some .full := by
  intro hfull
  have hsum := q.beacons_add_data
  rcases entryRefusal?_eq_full_iff.mp hfull with hroom | ⟨-, hdata, -⟩
  · -- the queue would be full of data, and of beacons in the other slots
    have hkept : 0 < s.reservedBeaconSlots := by omega
    have hle := h.data_le hkept
    omega
  · cases hdata

/-- Well-formed data with a target of its own finds none just when the queue is full, or holds as
much data as it may. -/
theorem Stocked.data_full_iff (h : s.Stocked q) {p : Packet} {c : TrafficClass}
    (hdata : c.isBeacon = false) (hformed : p.isWellFormed = true) (hmode : p.mode = .timestamped) :
    s.entryRefusal? q p c = some .full ↔
      q.entries.length = s.capacity ∨
        0 < s.reservedBeaconSlots ∧ q.data = s.capacity - s.reservedBeaconSlots := by
  have hvalid : p.isWellFormed = true ∧ (p.mode = .immediate → c = .classC) := by
    refine ⟨hformed, ?_⟩
    rw [hmode]
    nofun
  rw [entryRefusal?_eq_full_iff, dataLimit_le_iff h.counted, and_iff_right hvalid,
    and_iff_right hdata]
  have hlength := h.length_le
  have hle := h.data_le
  omega

end Scheduler

/-! ## Reachable stations -/

/-- **Capacity and the slots kept for beacons.** The queue of a reachable station holds no more than
fits, and no more data than fits beside the slots kept for beacons, if there are such. The number of
beacons is always the right one: each time a request takes an entry out, and with it all that leaves,
a beacon that goes is still counted; and the limit on data can be computed in a word. So a beacon is
not refused for want of room while fewer beacons are queued than slots are kept, and well-formed data
with a target of its own is, just when the queue is full or holds as much data as it may. -/
theorem reachable_stocked {config : QueueConfig} (hvalid : config.validate = .ok ())
    (hcapacity : config.capacity.toNat < 2 ^ 63) (airtime : AirtimeModel) {ρ : Type} [Radio ρ]
    {st : Station ρ} (h : st.Reachable (.ofConfig config airtime)) :
    let s := Scheduler.ofConfig config airtime
    let q := st.queue
    let capacity := config.capacity.toNat
    let reserved := config.reservedBeaconSlots.toNat
    q.entries.length ≤ capacity ∧ q.beaconCount = q.beacons ∧
    (∀ r, r ≠ .clear → (∀ now p c, r ≠ .enqueue now p c) →
      ((s.removals q r).map (·.entry) ++ (s.perform q r).queue.entries).Perm q.entries ∧
      ∀ x ∈ s.removals q r, x.entry.trafficClass = .beacon → 0 < x.queue.beaconCount) ∧
    capacity - reserved + q.beaconCount < 2 ^ 64 ∧
    (0 < reserved → q.data ≤ capacity - reserved) ∧
    (∀ now p r, q.beacons < reserved → (s.enqueue q now p .beacon).result = .error r →
      r.reason ≠ .full) ∧
    ∀ now p c, c ≠ .beacon → p.isWellFormed = true → p.mode = .timestamped →
      ((∃ r, (s.enqueue q now p c).result = .error r ∧ r.reason = .full) ↔
        q.entries.length = capacity ∨ 0 < reserved ∧ q.data = capacity - reserved) := by
  intro s q capacity reserved
  have hstocked : s.Stocked q := Scheduler.stocked_of_reachable h
  have hreserved : s.reservedBeaconSlots < s.capacity :=
    QueueConfig.reservedBeaconSlots_lt hvalid
  have hlength : q.entries.length ≤ capacity := hstocked.length_le
  have hcount : q.beaconCount = q.beacons := hstocked.counted
  have hsum := q.beacons_add_data
  refine ⟨hlength, hcount, ?_, ?_, hstocked.data_le, ?_, ?_⟩
  · intro r hclear henqueue
    refine ⟨s.removals_perm q hclear henqueue, ?_⟩
    intro x hx hbeacon
    obtain ⟨hcounted, hmem⟩ := Scheduler.counted_removals hstocked.counted r x hx
    exact hcounted.pos hmem hbeacon
  · omega
  · intro now p r hfew hres hfull
    exact hstocked.beacon_ne_full hreserved hfew (Scheduler.refused_full_iff.mp ⟨r, hres, hfull⟩)
  · intro now p c hc hformed hmode
    have hbeacon : c.isBeacon = false := by
      rwa [← Bool.not_eq_true, TrafficClass.isBeacon_iff]
    rw [Scheduler.refused_full_iff]
    exact hstocked.data_full_iff hbeacon hformed hmode

/-- Three entries fit, and one slot is kept. With two replies queued the next is refused for want of
room, while a beacon is not. -/
theorem reachable_stocked_kept :
    let config : QueueConfig := { capacity := 3, reservedBeaconSlots := 1 }
    let s := Scheduler.ofConfig config (.fixed 50000)
    let frame := fun target =>
      Packet.timestamped 1 [0x60] ⟨target⟩ 869525000 (.loraDownlink 9 .khz125)
    let radio : SimulatedRadio := { clock := ⟨0⟩, airtime := .fixed 50000 }
    let st := Station.run s { radio } [.ask (.enqueue ⟨0⟩ (frame 1000000) .classA),
      .ask (.enqueue ⟨0⟩ (frame 2000000) .classB)]
    config.validate = .ok () ∧ config.capacity.toNat < 2 ^ 63 ∧ st.Reachable s ∧
    (∃ r, (s.enqueue st.queue ⟨0⟩ (frame 3000000) .classA).result = .error r ∧
      r.reason = .full) ∧
    (s.enqueue st.queue ⟨0⟩ (frame 9000000) .beacon).result = .ok ⟨9000000⟩ := by
  intro config s frame radio st
  have hvalid : config.validate = .ok () := by decide
  have hcapacity : config.capacity.toNat < 2 ^ 63 := by decide
  have hreach : st.Reachable s := (Station.Reachable.fresh radio).run _
  obtain ⟨-, -, -, -, -, -, hdata⟩ := reachable_stocked hvalid hcapacity (.fixed 50000) hreach
  refine ⟨hvalid, hcapacity, hreach, ?_, by decide +kernel⟩
  exact (hdata ⟨0⟩ (frame 3000000) .classA nofun rfl rfl).mpr (by decide +kernel)

end Downlink
