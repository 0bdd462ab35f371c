import Downlink.Proofs.Queue.Exchange
import Downlink.Proofs.Station.Peek

/-!
# Taking an entry out by its index

The entry at an index leaves a hole, which the last entry fills before the queue is sorted again. So
for a moment the entries are out of order, and the reference they are sorted by need not be the one
they were sorted by before. Still it comes to the same as erasing the entry where it stands and
sorting what is left (`Scheduler.entries_removeAt`), because entries that are apart have only one
order. If they were in order already, erasing is all that happens.
-/

namespace Downlink

namespace Scheduler

variable {s : Scheduler} {q : Queue} {i : Nat}

/-! ## The hole -/

/-- The entries that are left are the others. -/
theorem removeAt_perm_eraseIdx (s : Scheduler) (hi : i < q.entries.length) :
    (s.removeAt q i hi).2.entries.Perm (q.entries.eraseIdx i) := by
  have hremoved := s.removeAt_perm hi
  have herased := List.getElem_cons_eraseIdx_perm hi
  exact (List.perm_cons q.entries[i]).mp (hremoved.trans herased.symm)

/-- They come strictly later and later. -/
theorem ascending_removeAt (hapart : q.entries.Pairwise s.Apart) (hi : i < q.entries.length) :
    (s.vantage q).Ascending (s.removeAt q i hi).2.entries := by
  have hremoved : ([q.entries[i]] ++ (s.removeAt q i hi).2.entries).Perm q.entries :=
    s.removeAt_perm hi
  exact InOrder.ascending (s.removeAt_reordered q i hi).2 (pairwise_apart_of_lost hremoved hapart)

/-- Filling the hole with the last entry and sorting is erasing the entry and sorting. -/
theorem entries_removeAt (hapart : q.entries.Pairwise s.Apart) (hi : i < q.entries.length) :
    (s.removeAt q i hi).2.entries =
      (s.vantage q).sort Entry.target (q.entries.eraseIdx i) := by
  have hsorted := (s.vantage q).sort_perm Entry.target (q.entries.eraseIdx i)
  have hascending :
      (s.vantage q).Ascending ((s.vantage q).sort Entry.target (q.entries.eraseIdx i)) := by
    apply InOrder.ascending (s.inOrder_sorted { q with entries := q.entries.eraseIdx i })
    exact hsorted.symm.pairwise (hapart.eraseIdx i) fun h => h.symm
  exact (ascending_removeAt hapart hi).eq_of_perm hascending
    ((s.removeAt_perm_eraseIdx hi).trans hsorted.symm)

/-! ## What is left -/

/-- What is left of a queue when the entry at an index was taken out. -/
structure Erased (s : Scheduler) (q : Queue) (i : Nat) (q' : Queue) : Prop where
  /-- the other entries are left -/
  perm : q'.entries.Perm (q.entries.eraseIdx i)
  /-- and come strictly later and later as seen from behind the reference -/
  ascending : (Vantage.lookingBack q'.reference s.policy.maxAdvance).Ascending q'.entries
  /-- if none of the entries stepped back before, they have the order they had -/
  order_kept : s.InOrder q → q'.entries = q.entries.eraseIdx i
  /-- the number of beacons is theirs -/
  beaconCount : q'.beaconCount = q'.beacons
  /-- the queue has not heard of any time -/
  reference : q'.reference = q.reference
  /-- and nothing is counted -/
  stats : q'.stats = q.stats

theorem erased_removeAt (hcounted : q.Counted) (hapart : q.entries.Pairwise s.Apart)
    (hi : i < q.entries.length) : s.Erased q i (s.removeAt q i hi).2 := by
  constructor
  case perm => exact s.removeAt_perm_eraseIdx hi
  case ascending => exact ascending_removeAt hapart hi
  case order_kept =>
    intro horder
    rw [entries_removeAt hapart hi]
    exact Vantage.sort_of_pairwise (horder.eraseIdx i)
  case beaconCount => exact counted_removeAt hcounted hi
  case reference => rfl
  case stats => rfl

/-- Asking for the entry at an index is refused in three cases, told apart in this order. -/
theorem dequeue_refused (s : Scheduler) (q : Queue) {i : Nat}
    (h : s.capacity ≤ i ∨ q.entries.length ≤ i) :
    s.dequeue q i =
      { result := .error (if i < s.capacity ∧ q.entries = [] then .empty else .invalid)
        queue := q } := by
  rw [dequeue]
  split
  next hcapacity => rw [if_neg fun h => Nat.not_lt.mpr hcapacity h.1]
  next hcapacity =>
    split
    next hempty => rw [if_pos ⟨Nat.not_le.mp hcapacity, List.isEmpty_iff.mp hempty⟩]
    next hsome =>
      have hlength : ¬i < q.entries.length := Nat.not_lt.mpr (h.resolve_left hcapacity)
      rw [dif_neg hlength, if_neg fun h => hsome (List.isEmpty_iff.mpr h.2)]

end Scheduler

/-- **Taking an entry out by its index.** Someone who asks the queue of a reachable station for the
entry at an index is refused if the queue could not be so long, if nothing is queued, or if the
queue is not so long, in this order, and then nothing changes. Otherwise the answer is the entry
that stands there. The others are left, sorted, with the number of beacons among them; if the
entries were in order before, just this one is missing. -/
theorem reachable_dequeue (config : QueueConfig) (airtime : AirtimeModel) {ρ : Type} [Radio ρ]
    {st : Station ρ} (h : st.Reachable (.ofConfig config airtime)) (i : Nat) :
    let s := Scheduler.ofConfig config airtime
    let q := st.queue
    let taken := s.dequeue q i
    (s.capacity ≤ i → taken.result = .error .invalid) ∧
    (i < s.capacity → q.entries = [] → taken.result = .error .empty) ∧
    (i < s.capacity → q.entries ≠ [] → q.entries.length ≤ i → taken.result = .error .invalid) ∧
    (s.capacity ≤ i ∨ q.entries.length ≤ i → taken.queue = q ∧ taken.notices = []) ∧
    ∀ hi : i < q.entries.length,
      taken.result = .ok q.entries[i] ∧ s.Erased q i taken.queue ∧
      taken.queue.entries =
        (Vantage.lookingBack q.reference config.maxAdvance).sort Entry.target
          (q.entries.eraseIdx i) := by
  intro s q taken
  have hstocked : s.Stocked q := Scheduler.stocked_of_reachable h
  have hrefused (hout : s.capacity ≤ i ∨ q.entries.length ≤ i) : taken = _ :=
    s.dequeue_refused q hout
  refine ⟨?capacity, ?empty, ?length, ?unchanged, ?taken⟩
  case capacity =>
    intro hcapacity
    rw [hrefused (.inl hcapacity), if_neg fun h => Nat.not_lt.mpr hcapacity h.1]
  case empty =>
    intro hcapacity hnil
    have hlength : q.entries.length ≤ i := by rw [hnil]; exact Nat.zero_le i
    rw [hrefused (.inr hlength), if_pos ⟨hcapacity, hnil⟩]
  case length =>
    intro _ hsome hlength
    rw [hrefused (.inr hlength), if_neg fun h => hsome h.2]
  case unchanged =>
    intro hout
    rw [hrefused hout]
    exact ⟨rfl, rfl⟩
  case taken =>
    intro hi
    obtain ⟨hresult, hqueue⟩ := Scheduler.dequeue_of_lt hi hstocked.length_le
    have htaken : taken.queue = (s.removeAt q i hi).2 := hqueue
    rw [htaken]
    exact ⟨hresult, Scheduler.erased_removeAt hstocked.counted h.apart hi,
      Scheduler.entries_removeAt h.apart hi⟩

/-- A beacon behind the counter's zero between two replies, and a third one that is refused a second
later and moves the reference. The first reply is taken out, and the last one moves into its place
and back. -/
theorem reachable_dequeue_first :
    let s := Scheduler.ofConfig {} (.fixed 50000)
    let beacon := Packet.timestamped 0 [0] ⟨8000000⟩ 869525000 (.loraBeacon 9 .khz125)
    let reply := fun target =>
      Packet.timestamped 1 [0x60] ⟨target⟩ 869525000 (.loraDownlink 9 .khz125)
    let radio : SimulatedRadio := { clock := ⟨0⟩, airtime := .fixed 50000 }
    let st := Station.run s { radio } [.ask (.enqueue ⟨4293000000⟩ beacon .beacon),
      .ask (.enqueue ⟨4293000000⟩ (reply 20000000) .classA),
      .ask (.enqueue ⟨4293000000⟩ (reply 4294900000) .classA),
      .ask (.enqueue ⟨4294000000⟩ (reply 4294000000) .classA)]
    st.Reachable s ∧ st.queue.entries.map (·.target) = [⟨4294900000⟩, ⟨8000000⟩, ⟨20000000⟩] ∧
    st.queue.reference = ⟨4294000000⟩ ∧ s.InOrder st.queue ∧
    ∃ hi : 0 < st.queue.entries.length,
      (s.dequeue st.queue 0).result = .ok st.queue.entries[0] ∧
      (s.dequeue st.queue 0).queue.entries = st.queue.entries.eraseIdx 0 ∧
      (s.dequeue st.queue 0).queue.beaconCount = 1 := by
  intro s beacon reply radio st
  have hreach : st.Reachable s := (Station.Reachable.fresh radio).run _
  have hi : 0 < st.queue.entries.length := by decide +kernel
  have horder : s.InOrder st.queue := by
    rw [Scheduler.InOrder]
    decide +kernel
  obtain ⟨-, -, -, -, htaken⟩ := reachable_dequeue {} (.fixed 50000) hreach 0
  obtain ⟨hresult, herased, -⟩ := htaken hi
  change s.Erased st.queue 0 (s.dequeue st.queue 0).queue at herased
  exact ⟨hreach, by decide +kernel, by decide +kernel, horder, hi, hresult,
    herased.order_kept horder, by decide +kernel⟩

end Downlink
