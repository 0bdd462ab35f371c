import Downlink.Proofs.Queue.Counts
import Downlink.Proofs.Queue.Order
import Downlink.Proofs.Queue.Replay
import Downlink.Proofs.Queue.Scan
import Downlink.Proofs.Station.Capacity
import Downlink.Proofs.Station.Due

/-!
# What a peek comes to

A peek goes through the entries and takes stale ones out, moving and sorting the others meanwhile,
and then looks for the one that comes first. What it comes to does not depend on the order in which
that is done: the entries are filtered, and of those that are left the one with the least lead is
answered if it is due (`Scheduler.Peeked`). Asked again at the same time, it has nothing left to do.

Taking what is due is a peek with the entry taken out at once. Someone who peeks and then asks for
the entry at the index comes to the same, because nothing that `Scheduler.dequeue` checks can speak
against an index that was just answered (`Scheduler.takeDue_agrees`).
-/

namespace Downlink

namespace Scheduler

variable {s : Scheduler} {q left : Queue} {now : Counter} {gone : List Entry}

/-! ## The filter -/

theorem not_isStale (s : Scheduler) (now : Counter) (e : Entry) :
    (!s.isStale now e) = decide (e.lead now < s.policy.maxAdvance) := by
  rw [isStale, ← decide_not]
  exact decide_eq_decide.mpr UInt32.not_le

/-- What is gone is what the filter for stale entries finds. -/
theorem Parted.gone_perm (h : s.Parted now q gone left) :
    gone.Perm (q.entries.filter (s.isStale now)) := by
  have hall := h.perm.filter (s.isStale now)
  have hgone : gone.filter (s.isStale now) = gone := List.filter_eq_self.mpr h.stale
  have hleft : left.entries.filter (s.isStale now) = [] :=
    List.filter_eq_nil_iff.mpr fun e he => Bool.eq_false_iff.mp (h.kept e he)
  rwa [List.filter_append, hgone, hleft, List.append_nil] at hall

/-- What is left is what it does not find. -/
theorem Parted.left_perm (h : s.Parted now q gone left) :
    left.entries.Perm (q.entries.filter fun e => !s.isStale now e) := by
  have hall := h.perm.filter fun e => !s.isStale now e
  have hgone : (gone.filter fun e => !s.isStale now e) = [] := by
    refine List.filter_eq_nil_iff.mpr fun e he => ?_
    rw [h.stale e he]
    exact Bool.false_ne_true
  have hleft : (left.entries.filter fun e => !s.isStale now e) = left.entries := by
    refine List.filter_eq_self.mpr fun e he => ?_
    rw [h.kept e he]
    rfl
  rwa [List.filter_append, hgone, hleft, List.nil_append] at hall

/-- If nothing is stale nothing happens. -/
theorem dropStale_of_fresh (h : ∀ e ∈ q.entries, s.isStale now e = false) :
    s.dropStale now q = ([], q) :=
  dropStale_of_none (List.findIdx?_eq_none_iff.mpr h)

/-- If something is, what is left has been sorted. -/
theorem ascending_dropStale {e : Entry} (he : e ∈ q.entries) (hstale : s.isStale now e = true)
    (hapart : q.entries.Pairwise s.Apart) :
    (s.vantage q).Ascending (s.dropStale now q).2.entries := by
  have hparted := s.parted_dropStale now q
  have hvantage : s.vantage (s.dropStale now q).2 = s.vantage q := by
    rw [vantage, hparted.reference]
    rfl
  rcases s.dropStale_reordered now q with hsame | ⟨-, horder⟩
  · -- `e` would be left, which is stale
    have hkept := hparted.kept e (by rwa [hsame])
    rw [hstale] at hkept
    cases hkept
  · rw [← hvantage]
    exact horder.ascending (pairwise_apart_of_lost hparted.perm hapart)

/-- The beacons among what is gone are not queued any more. -/
theorem beaconCount_dropStale (s : Scheduler) (h : q.Counted) (now : Counter) :
    (s.dropStale now q).2.beaconCount +
      (q.entries.filter (s.isStale now)).countP (·.trafficClass.isBeacon) = q.beaconCount := by
  have hparted := s.parted_dropStale now q
  have hleft : (s.dropStale now q).2.beaconCount = (s.dropStale now q).2.beacons :=
    counted_dropStale h now
  have hall := hparted.perm.countP_eq (·.trafficClass.isBeacon)
  rw [List.countP_append, hparted.gone_perm.countP_eq, Nat.add_comm] at hall
  rw [hleft, h]
  exact hall

/-! ## The entry that comes first -/

/-- Of entries that are apart one comes before all others. -/
theorem exists_first (now : Counter) (hne : q.entries ≠ []) (hapart : q.entries.Pairwise s.Apart) :
    ∃ (i : Nat) (hi : i < q.entries.length), ∀ (j : Nat) (hj : j < q.entries.length), j ≠ i →
      q.entries[i].lead now < q.entries[j].lead now := by
  obtain ⟨e, he, hleast⟩ := exists_least_lead now hne
  obtain ⟨i, hi, rfl⟩ := List.getElem_of_mem he
  refine ⟨i, hi, ?_⟩
  intro j hj hji
  have hij : s.Apart q.entries[i] q.entries[j] := by
    rcases Nat.lt_or_gt_of_ne hji with hlt | hgt
    · exact (List.pairwise_iff_getElem.mp hapart j i hj hi hlt).symm
    · exact List.pairwise_iff_getElem.mp hapart i j hi hj hgt
  exact hij.lead_lt (hleast _ (List.getElem_mem hj))

/-- It is the only one that can be due. -/
theorem due?_of_first {i : Nat} (hi : i < q.entries.length)
    (hfirst : ∀ (j : Nat) (hj : j < q.entries.length), j ≠ i →
      q.entries[i].lead now < q.entries[j].lead now) :
    s.due? q now = if q.entries[i].lead now < s.policy.jitDelay then some i else none := by
  have hleast : ∀ e ∈ q.entries, q.entries[i].lead now ≤ e.lead now := by
    intro e he
    obtain ⟨j, hj, rfl⟩ := List.getElem_of_mem he
    by_cases hji : j = i
    · subst hji
      exact UInt32.le_refl _
    · exact UInt32.le_of_lt (hfirst j hj hji)
  split
  next hjit =>
    cases hdue : s.due? q now with
    | none => exact absurd hjit (UInt32.not_lt.mpr (due?_eq_none.mp hdue _ (List.getElem_mem hi)))
    | some j =>
      obtain ⟨hj, -, hmin⟩ := due?_eq_some hdue
      by_contra hne
      have hji : j ≠ i := fun h => hne (congrArg some h)
      exact UInt32.not_lt.mpr (hmin _ (List.getElem_mem hi)) (hfirst j hj hji)
  next hjit =>
    refine due?_eq_none.mpr fun e he => ?_
    exact UInt32.le_trans (UInt32.not_lt.mp hjit) (hleast e he)

/-! ## A peek -/

/-- What a peek into a queue comes to that is not empty. -/
structure Peeked (s : Scheduler) (now : Counter) (q : Queue)
    (peeked : Step (Except Refusal (Option Nat))) : Prop where
  /-- the scan through the entries ends, and just there, having dropped what the notices tell of -/
  ends : ∃ (n : Nat) (gone : List Entry),
    2 * n ≤ q.entries.length * (q.entries.length + 1) ∧
    (∀ (m : Nat) (c : Scan), Scan.Ends s now { queue := { q with reference := now } } m c ↔
      m = n ∧ c = { index := peeked.queue.entries.length, dropped := gone
                    queue := { peeked.queue with stats := q.stats } }) ∧
    peeked.notices = staleNotices now gone
  /-- what is dropped is what is stale -/
  dropped : peeked.notices.Perm ((q.entries.filter fun e => s.policy.maxAdvance ≤ e.lead now).map
    fun e => .stale e.trafficClass e.target now)
  /-- what stays is the rest -/
  kept : peeked.queue.entries.Perm (q.entries.filter fun e => e.lead now < s.policy.maxAdvance)
  /-- if nothing is dropped, the order stays -/
  order_kept : (∀ e ∈ q.entries, e.lead now < s.policy.maxAdvance) →
    peeked.queue.entries = q.entries
  /-- if anything is dropped, the rest is sorted -/
  ascending : (∃ e ∈ q.entries, s.policy.maxAdvance ≤ e.lead now) →
    (Vantage.lookingBack now s.policy.maxAdvance).Ascending peeked.queue.entries
  /-- beacons that are dropped are not queued any more -/
  beaconCount : peeked.queue.beaconCount +
    (q.entries.filter fun e => s.policy.maxAdvance ≤ e.lead now).countP
      (·.trafficClass.isBeacon) = q.beaconCount
  /-- what is dropped is counted under its class, and nothing else is counted -/
  stats : ∀ x : Count, peeked.queue.stats.get x = q.stats.get x + UInt64.ofNat
    ((q.entries.filter fun e => s.policy.maxAdvance ≤ e.lead now).countP
      fun e => x = .staleDropped e.trafficClass)
  /-- the queue has heard of the time -/
  reference : peeked.queue.reference = now
  /-- if nothing is left nothing is due -/
  result_of_nil : peeked.queue.entries = [] → peeked.result = .ok none
  /-- else there is one entry that comes before all others, and that is due or nothing is -/
  result_of_ne_nil : peeked.queue.entries ≠ [] →
    ∃ (i : Nat) (hi : i < peeked.queue.entries.length),
      (∀ (j : Nat) (hj : j < peeked.queue.entries.length), j ≠ i →
        peeked.queue.entries[i].lead now < peeked.queue.entries[j].lead now) ∧
      peeked.result =
        .ok (if peeked.queue.entries[i].lead now < s.policy.jitDelay then some i else none)

theorem peek_of_ne_nil (h : q.entries ≠ []) :
    s.peek q now =
      { result := .ok (s.due? (s.dropStale now { q with reference := now }).2 now)
        queue := countStale (s.dropStale now { q with reference := now }).2 (s.missed now q)
        notices := staleNotices now (s.missed now q) } := by
  rw [peek, if_neg (mt List.isEmpty_iff.mp h)]
  rfl

/-- A peek filters the entries and answers which one comes first. -/
theorem peeked_peek (hne : q.entries ≠ []) (hcounted : q.Counted)
    (hapart : q.entries.Pairwise s.Apart) (now : Counter) : s.Peeked now q (s.peek q now) := by
  obtain ⟨left, hleft⟩ : ∃ left, left = (s.dropStale now { q with reference := now }).2 :=
    ⟨_, rfl⟩
  have hparted : s.Parted now { q with reference := now } (s.missed now q) left :=
    hleft ▸ s.parted_dropStale now _
  rw [peek_of_ne_nil hne, ← hleft]
  constructor
  case ends =>
    obtain ⟨n, hn, hends⟩ := Scan.ends_dropStale s now { q with reference := now } []
    rw [List.nil_append, ← hleft] at hends
    -- the scan counts nothing yet
    have huncounted : { left with stats := q.stats } = left :=
      congrArg (fun n => { left with stats := n }) hparted.stats.symm
    refine ⟨n, s.missed now q, hn, fun m c => ?_, rfl⟩
    change _ ↔ m = n ∧ c = ⟨left.entries.length, _, { left with stats := q.stats }⟩
    rw [huncounted]
    exact hends.iff
  case dropped => exact hparted.gone_perm.map _
  case kept =>
    simp only [← not_isStale]
    exact hparted.left_perm
  case order_kept =>
    intro h
    have hnone : s.dropStale now { q with reference := now } = ([], { q with reference := now }) :=
      dropStale_of_fresh fun e he => decide_eq_false (UInt32.not_le.mpr (h e he))
    rw [hnone] at hleft
    rw [countStale_entries, hleft]
  case ascending =>
    rintro ⟨e, he, hstale⟩
    rw [countStale_entries, hleft]
    exact ascending_dropStale (q := { q with reference := now }) he (decide_eq_true hstale) hapart
  case beaconCount =>
    have hcount := s.beaconCount_dropStale (q := { q with reference := now }) hcounted now
    rw [← hleft] at hcount
    exact hcount
  case stats =>
    intro x
    rw [get_countStale, hparted.stats, hparted.gone_perm.countP_eq]
    rfl
  case reference => exact hparted.reference
  case result_of_nil =>
    intro hnil
    refine congrArg Except.ok (due?_eq_none.mpr ?_)
    change left.entries = [] at hnil
    rw [hnil]
    exact List.forall_mem_nil _
  case result_of_ne_nil =>
    intro hsome
    obtain ⟨i, hi, hfirst⟩ :=
      exists_first now hsome (pairwise_apart_of_lost hparted.perm hapart)
    exact ⟨i, hi, hfirst, congrArg Except.ok (due?_of_first hi hfirst)⟩

/-- Asked again at the same time, a peek drops nothing and leaves the queue as it is. The answer is
the same, unless nothing is left to ask about. -/
theorem peek_peek (s : Scheduler) (q : Queue) (now : Counter) :
    s.peek (s.peek q now).queue now =
      { result := if (s.peek q now).queue.entries = [] then .error .empty
          else (s.peek q now).result
        queue := (s.peek q now).queue } := by
  by_cases hleft : (s.peek q now).queue.entries = []
  · rw [if_pos hleft]
    exact peek_of_empty s now hleft
  · rw [if_neg hleft, peek_of_ne_nil hleft]
    rcases s.peek_cases q now with
      ⟨hnil, -, hq⟩ | ⟨-, gone, left, -, hparted, hres, hq⟩
    · rw [hq] at hleft
      exact absurd hnil hleft
    · have hreference : left.reference = now := hparted.reference
      have hheard : { (s.peek q now).queue with reference := now } = (s.peek q now).queue := by
        rw [hq]
        exact congrArg (fun t => { countStale left gone with reference := t }) hreference.symm
      have hdrop : s.dropStale now (s.peek q now).queue = ([], (s.peek q now).queue) := by
        apply dropStale_of_fresh
        rw [hq]
        exact hparted.kept
      rw [missed, hheard, hdrop, hres, hq]
      rfl

/-! ## A peek and the entry at the index -/

/-- Peeks, and takes out the entry at the index that was answered. -/
def takePeeked (s : Scheduler) (q : Queue) (now : Counter) :
    Step (Except Refusal (Option Entry)) :=
  let peeked := s.peek q now
  match peeked.result with
  | .error reason => { result := .error reason, queue := peeked.queue, notices := peeked.notices }
  | .ok none => { result := .ok none, queue := peeked.queue, notices := peeked.notices }
  | .ok (some i) =>
    let taken := s.dequeue peeked.queue i
    { result := taken.result.map some, queue := taken.queue
      notices := peeked.notices ++ taken.notices }

/-- Nothing is checked in vain of an index in a queue that is no longer than it may be. -/
theorem dequeue_of_lt {i : Nat} (hi : i < q.entries.length) (hle : q.entries.length ≤ s.capacity) :
    (s.dequeue q i).result = .ok q.entries[i] ∧
      (s.dequeue q i).queue = (s.removeAt q i hi).2 := by
  have hne : ¬q.entries.isEmpty = true :=
    mt List.isEmpty_iff.mp (List.ne_nil_of_length_pos (Nat.zero_lt_of_lt hi))
  rw [dequeue, if_neg (Nat.not_le.mpr (Nat.lt_of_lt_of_le hi hle)), if_neg hne, dif_pos hi]
  exact ⟨rfl, rfl⟩

/-- Both ways to take what is due agree on a queue that is no longer than it may be. -/
theorem takeDue_agrees (hle : q.entries.length ≤ s.capacity) (now : Counter) :
    (s.takeDue q now).result = (s.takePeeked q now).result ∧
    (s.takeDue q now).queue = (s.takePeeked q now).queue ∧
    ∀ i, (s.peek q now).result = .ok (some i) →
      ∃ e, (s.dequeue (s.peek q now).queue i).result = .ok e ∧
        (s.takeDue q now).result = .ok (some e) := by
  rcases s.takeDue_cases q now with
    ⟨hnil, hres, hqueue⟩ | ⟨hne, gone, left, hdrop, hparted, hcase⟩
  · rw [hres, hqueue, takePeeked, peek_of_empty s now hnil]
    exact ⟨rfl, rfl, nofun⟩
  have hmissed : s.missed now q = gone := congrArg Prod.fst hdrop
  have hlength := hparted.perm.length_eq
  rw [List.length_append] at hlength
  change _ = q.entries.length at hlength
  have hleft : left.entries.length ≤ s.capacity := by omega
  rcases hcase with ⟨hdue, hres, hqueue⟩ | ⟨i, hi, hdue, hres, hqueue⟩
  · rw [hres, hqueue, takePeeked, peek_of_ne_nil hne, hdrop, hdue, hmissed]
    exact ⟨rfl, rfl, nofun⟩
  · obtain ⟨htaken, hafter⟩ := dequeue_of_lt (s := s) (q := countStale left gone) hi hleft
    rw [hres, hqueue, takePeeked, peek_of_ne_nil hne, hdrop, hdue, hmissed]
    refine ⟨?_, ?_, ?_⟩
    · change _ = (s.dequeue (countStale left gone) i).result.map some
      rw [htaken]
      rfl
    · -- what is counted is counted before the entry is taken out or after it
      change _ = (s.dequeue (countStale left gone) i).queue
      rw [hafter]
      rfl
    · rintro _ ⟨rfl⟩
      exact ⟨_, htaken, rfl⟩

end Scheduler

/-! ## Reachable stations -/

/-- **What a peek comes to.** A peek at the queue of a reachable station finds it empty just when
nothing is queued, and then nothing changes. Otherwise the scan for stale entries ends, the entries
are filtered, and the one that comes first of those that stay is answered if it is due. A second
peek at the same time drops nothing, leaves the queue as it is and answers the same, unless nothing
was left. -/
theorem reachable_peek (config : QueueConfig) (airtime : AirtimeModel) {ρ : Type} [Radio ρ]
    {st : Station ρ} (h : st.Reachable (.ofConfig config airtime)) (now : Counter) :
    let s := Scheduler.ofConfig config airtime
    let q := st.queue
    let peeked := s.peek q now
    (peeked.result = .error .empty ↔ q.entries = []) ∧
    (q.entries = [] → peeked.queue = q ∧ peeked.notices = []) ∧
    (q.entries ≠ [] → s.Peeked now q peeked) ∧
    s.peek peeked.queue now =
      { result := if peeked.queue.entries = [] then .error .empty else peeked.result
        queue := peeked.queue } := by
  intro s q peeked
  refine ⟨?_, ?_, ?_, s.peek_peek q now⟩
  · constructor
    · intro hres
      by_contra hne
      have hok : peeked.result = .ok _ := congrArg Step.result (Scheduler.peek_of_ne_nil hne)
      cases hok.symm.trans hres
    · intro hnil
      exact congrArg Step.result (s.peek_of_empty now hnil)
  · intro hnil
    have hpeek : peeked = { result := .error .empty, queue := q } := s.peek_of_empty now hnil
    rw [hpeek]
    exact ⟨rfl, rfl⟩
  · intro hne
    exact Scheduler.peeked_peek hne (Scheduler.stocked_of_reachable h).counted h.apart now

/-- The slot of a beacon has passed, and of the two replies behind it the first is due. -/
theorem reachable_peek_beacon :
    let s := Scheduler.ofConfig {} (.fixed 50000)
    let beacon := Packet.timestamped 0 [0] ⟨5000000⟩ 869525000 (.loraBeacon 9 .khz125)
    let reply := fun target =>
      Packet.timestamped 1 [0x60] ⟨target⟩ 869525000 (.loraDownlink 9 .khz125)
    let radio : SimulatedRadio := { clock := ⟨0⟩, airtime := .fixed 50000 }
    let st := Station.run s { radio } [.ask (.enqueue ⟨0⟩ beacon .beacon),
      .ask (.enqueue ⟨0⟩ (reply 8000000) .classA), .ask (.enqueue ⟨0⟩ (reply 9000000) .classA)]
    let peeked := s.peek st.queue ⟨7980000⟩
    st.Reachable s ∧ st.queue.entries ≠ [] ∧ s.Peeked ⟨7980000⟩ st.queue peeked ∧
    st.queue.beaconCount = 1 ∧ peeked.queue.beaconCount = 0 ∧
    peeked.notices = [.stale .beacon ⟨5000000⟩ ⟨7980000⟩] ∧
    peeked.queue.entries.map (·.target) = [⟨8000000⟩, ⟨9000000⟩] ∧
    peeked.result = .ok (some 0) := by
  intro s beacon reply radio st peeked
  have hreach : st.Reachable s := (Station.Reachable.fresh radio).run _
  have hne : st.queue.entries ≠ [] := by decide +kernel
  have hpeeked := (reachable_peek {} (.fixed 50000) hreach ⟨7980000⟩).2.2.1 hne
  exact ⟨hreach, hne, hpeeked, by decide +kernel⟩

/-- **Taking what is due is peeking and dequeuing.** At the queue of a reachable station a poll that
takes out what is due answers the same, and leaves the same queue, as a peek with the entry at its
index dequeued next. That the index could be refused does not happen. -/
theorem reachable_takeDue (config : QueueConfig) (airtime : AirtimeModel) {ρ : Type} [Radio ρ]
    {st : Station ρ} (h : st.Reachable (.ofConfig config airtime)) (now : Counter) :
    let s := Scheduler.ofConfig config airtime
    let q := st.queue
    (s.takeDue q now).result = (s.takePeeked q now).result ∧
    (s.takeDue q now).queue = (s.takePeeked q now).queue ∧
    ∀ i, (s.peek q now).result = .ok (some i) →
      ∃ e, (s.dequeue (s.peek q now).queue i).result = .ok e ∧
        (s.takeDue q now).result = .ok (some e) := by
  intro s q
  have hstocked : s.Stocked q := Scheduler.stocked_of_reachable h
  exact Scheduler.takeDue_agrees hstocked.length_le now

/-- A full queue of two. The second entry is due once the slot of the first has passed. -/
theorem reachable_takeDue_full :
    let s := Scheduler.ofConfig { capacity := 2 } (.fixed 50000)
    let reply := fun target =>
      Packet.timestamped 1 [0x60] ⟨target⟩ 869525000 (.loraDownlink 9 .khz125)
    let radio : SimulatedRadio := { clock := ⟨0⟩, airtime := .fixed 50000 }
    let st := Station.run s { radio } [.ask (.enqueue ⟨0⟩ (reply 1000000) .classA),
      .ask (.enqueue ⟨0⟩ (reply 2000000) .classA)]
    st.Reachable s ∧ st.queue.entries.length = s.capacity ∧
    (s.peek st.queue ⟨1980000⟩).result = .ok (some 0) ∧
    (s.takeDue st.queue ⟨1980000⟩).queue = (s.takePeeked st.queue ⟨1980000⟩).queue ∧
    ∃ e, (s.dequeue (s.peek st.queue ⟨1980000⟩).queue 0).result = .ok e ∧
      (s.takeDue st.queue ⟨1980000⟩).result = .ok (some e) := by
  intro s reply radio st
  have hreach : st.Reachable s := (Station.Reachable.fresh radio).run _
  have hdue : (s.peek st.queue ⟨1980000⟩).result = .ok (some 0) := by decide +kernel
  obtain ⟨-, hqueue, hdequeue⟩ :=
    reachable_takeDue { capacity := 2 } (.fixed 50000) hreach ⟨1980000⟩
  exact ⟨hreach, by decide +kernel, hdue, hqueue, hdequeue 0 hdue⟩

end Downlink
