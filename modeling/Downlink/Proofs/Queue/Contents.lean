import Downlink.Proofs.Clock.Distance
import Downlink.Queue.Admission
import Downlink.Queue.Selection
import Mathlib.Data.List.Perm.Basic

/-!
# What the operations do to the entries

One lemma for each operation of a queue, saying where the entries go and what else of the queue
changes. Sorting moves entries about, and so does the last entry that fills a hole, so all of this
is said up to the order of the entries.
-/

namespace Downlink

/-- Filling the hole at `i` with the last item, which leaves its own place, loses the item at `i`
and nothing else. -/
theorem getElem_cons_set_dropLast_perm {α : Type} (l : List α) (i : Nat) (h : i < l.length)
    (hne : l ≠ []) : (l[i] :: l.dropLast.set i (l.getLast hne)).Perm l := by
  obtain ⟨init, last, rfl⟩ : ∃ init last, l = init ++ [last] :=
    ⟨l.dropLast, l.getLast hne, (List.dropLast_append_getLast hne).symm⟩
  rw [List.dropLast_concat, List.getLast_concat]
  have hlast : (last :: init).Perm (init ++ [last]) := (List.perm_append_singleton last init).symm
  by_cases hi : i < init.length
  · rw [List.getElem_append_left hi]
    have hset := (List.set_perm_cons_eraseIdx hi last).cons init[i]
    have hget := (List.getElem_cons_eraseIdx_perm hi).cons last
    exact (hset.trans (.swap ..)).trans (hget.trans hlast)
  · -- the last item itself leaves, and there is no hole to fill
    have hlen : i = init.length := by rw [List.length_append] at h; simp at h; omega
    subst hlen
    rw [List.getElem_concat_length rfl, List.set_eq_of_length_le (Nat.le_refl _)]
    exact hlast

/-- The lead that programming the radio takes. -/
theorem Policy.toNat_minLead (p : Policy) : p.minLead.toNat =
    min (p.startDelay.toNat + p.margin.toNat + p.jitDelay.toNat) (2 ^ 32 - 1) := by
  simp only [minLead, Span.toNat_plus]
  omega

namespace Scheduler

variable {s : Scheduler} {q : Queue} {now : Counter}

/-! ## Sorting, putting in, taking out -/

theorem sorted_perm (s : Scheduler) (q : Queue) : (s.sorted q).entries.Perm q.entries :=
  (s.vantage q).sort_perm _ _

theorem push_perm (s : Scheduler) (q : Queue) (e : Entry) :
    (s.push q e).entries.Perm (e :: q.entries) :=
  (s.sorted_perm _).trans (List.perm_append_singleton e q.entries)

@[simp] theorem push_stats (s : Scheduler) (q : Queue) (e : Entry) :
    (s.push q e).stats = q.stats := rfl

theorem removeAt_perm (s : Scheduler) {i : Nat} (h : i < q.entries.length) :
    (q.entries[i] :: (s.removeAt q i h).2.entries).Perm q.entries := by
  have hne : q.entries ≠ [] := List.ne_nil_of_length_pos (Nat.zero_lt_of_lt h)
  exact ((s.sorted_perm _).cons _).trans (getElem_cons_set_dropLast_perm q.entries i h hne)

/-! ## Admission -/

/-- A target stands if it comes after the lead that programming the radio takes, not too early for
a class that is bounded, and overlaps nothing. -/
theorem targetRefusal?_eq_none {w : Window} {c : TrafficClass} :
    s.targetRefusal? q now w c = none ↔
      s.policy.minLead < w.time.since now ∧
      (c.isAdvanceBounded = true → w.time.since now ≤ s.policy.maxAdvance) ∧
      ∀ x ∈ q.entries, s.overlaps x w c = false := by
  have hfind : (q.entries.find? fun x => s.overlaps x w c) = none ↔
      ∀ x ∈ q.entries, s.overlaps x w c = false := by
    rw [List.find?_eq_none]
    exact forall₂_congr fun _ _ => Bool.eq_false_iff.symm
  simp only [targetRefusal?]
  by_cases hlate : w.time.since now ≤ s.policy.minLead
  · rw [if_pos hlate]
    exact ⟨nofun, fun h => absurd hlate (UInt32.not_le.mpr h.1)⟩
  · rw [if_neg hlate]
    by_cases hearly : (c.isAdvanceBounded && s.policy.maxAdvance < w.time.since now) = true
    · rw [if_pos hearly]
      obtain ⟨hc, hadv⟩ := Bool.and_eq_true_iff.mp hearly
      exact ⟨nofun, fun h => absurd (h.2.1 hc) (UInt32.not_le.mpr (of_decide_eq_true hadv))⟩
    · rw [if_neg hearly, Option.map_eq_none_iff, hfind]
      refine ⟨fun h => ⟨UInt32.not_le.mp hlate, fun hc => ?_, h⟩, fun h => h.2.2⟩
      rw [hc, Bool.true_and, decide_eq_true_eq] at hearly
      exact UInt32.not_lt.mp hearly

/-- A target that does not stand is too late, too early for a class that is bounded, or taken. -/
theorem reason_of_targetRefusal? {w : Window} {c : TrafficClass} {reason : Refusal}
    (h : s.targetRefusal? q now w c = some reason) :
    reason = .tooLate ∨ (reason = .tooEarly ∧ c.isAdvanceBounded = true) ∨
      reason = .collisionPacket ∨ reason = .collisionBeacon := by
  simp only [targetRefusal?] at h
  split at h
  · exact .inl (Option.some.inj h).symm
  split at h
  next hearly =>
    exact .inr (.inl ⟨(Option.some.inj h).symm, (Bool.and_eq_true_iff.mp hearly).1⟩)
  next =>
    obtain ⟨x, -, hx⟩ := Option.map_eq_some_iff.mp h
    split at hx
    · exact .inr (.inr (.inr hx.symm))
    · exact .inr (.inr (.inl hx.symm))

/-- A downlink that is refused by itself finds no room or is not valid. -/
theorem reason_of_entryRefusal? {p : Packet} {c : TrafficClass} {reason : Refusal}
    (h : s.entryRefusal? q p c = some reason) : reason = .full ∨ reason = .invalid := by
  simp only [entryRefusal?] at h
  split at h
  · exact .inl (Option.some.inj h).symm
  split at h
  · exact .inr (Option.some.inj h).symm
  split at h
  · exact .inl (Option.some.inj h).symm
  · cases h

theorem isWellFormed_of_entryRefusal? {p : Packet} {c : TrafficClass}
    (h : s.entryRefusal? q p c = none) : p.isWellFormed = true := by
  rw [entryRefusal?] at h
  split at h
  · cases h
  split at h
  · cases h
  next hformed =>
    by_contra hp
    rw [Bool.eq_false_iff.mpr hp] at hformed
    exact hformed rfl

/-- The time on air of a downlink that nothing by itself speaks against is that of the model. -/
theorem timeOnAir_of_entryRefusal? {p : Packet} {c : TrafficClass}
    (h : s.entryRefusal? q p c = none) : s.timeOnAir p = s.airtime p := by
  rw [timeOnAir, isWellFormed_of_entryRefusal? h, if_pos rfl]

/-- A downlink can enter the queue by itself if there is room, also beside the slots kept for
beacons, it is well formed, and it is immediate only in class C. -/
theorem entryRefusal?_eq_none {p : Packet} {c : TrafficClass} (hfull : s.isFull q = false)
    (hformed : p.isWellFormed = true) (hmode : p.mode = .immediate → c = .classC)
    (hreserved : c.isBeacon = true ∨ s.reservedBeaconSlots = 0 ∨
      q.entries.length < s.dataLimit q) :
    s.entryRefusal? q p c = none := by
  have hvalid : ¬(!p.isWellFormed || (p.mode = .immediate && c ≠ .classC)) = true := by
    rw [hformed]
    simpa using hmode
  have hroom : ¬(!c.isBeacon && 0 < s.reservedBeaconSlots && s.dataLimit q ≤ q.entries.length) =
      true := by
    rcases hreserved with hbeacon | hnone | hfits
    · simp [hbeacon]
    · simp [hnone]
    · simp [Nat.not_le.mpr hfits]
  rw [entryRefusal?, if_neg (Bool.eq_false_iff.mp hfull), if_neg hvalid, if_neg hroom]

/-- There is room for a downlink of any class while there is some beside the slots kept for
beacons. -/
theorem entryRefusal?_of_room {p : Packet} {c : TrafficClass}
    (hroom : q.entries.length < s.capacity - s.reservedBeaconSlots)
    (hformed : p.isWellFormed = true) (hmode : p.mode = .immediate → c = .classC) :
    s.entryRefusal? q p c = none := by
  refine entryRefusal?_eq_none (decide_eq_false ?_) hformed hmode (.inr (.inr ?_))
  · omega
  · rw [dataLimit]
    omega

theorem slotBehind_cons_cons (pre post : Span) (k : TrafficClass) (slot : Counter)
    (e next : Entry) (rest : List Entry) :
    s.slotBehind pre post k slot (e :: next :: rest) =
      if s.overlaps next ⟨s.policy.slotAfter e.window pre, pre, post⟩ k then
        s.slotBehind pre post k (s.policy.slotAfter e.window pre) (next :: rest)
      else s.policy.slotAfter e.window pre := rfl

/-- What is known of an entry that was admitted: it is the downlink that was handed in, with the
delays of its class, and nothing spoke against its target. -/
structure Admitted (s : Scheduler) (q : Queue) (now : Counter) (p : Packet) (c : TrafficClass)
    (e : Entry) : Prop where
  /-- nothing spoke against the downlink by itself -/
  entry : s.entryRefusal? q p c = none
  /-- its packet is the one handed in, with a target -/
  packet : e.packet = s.resolve q now p e.preDelay e.postDelay c
  /-- it takes the radio as long before its target as its class does -/
  preDelay : e.preDelay = s.policy.preDelay c
  /-- and as long after it -/
  postDelay : e.postDelay = s.policy.postDelay c (s.timeOnAir p)
  /-- it has the class it was handed in with -/
  trafficClass : e.trafficClass = c
  /-- there is time left to program the radio -/
  minLead_lt : s.policy.minLead < e.lead now
  /-- it is not too early, if its class is bounded -/
  lead_le : c.isAdvanceBounded = true → e.lead now ≤ s.policy.maxAdvance
  /-- it overlaps nothing that is queued -/
  clear : ∀ x ∈ q.entries, s.overlaps x e.window c = false

/-- What is known of a downlink that was refused: the reason, and the packet it comes back as. -/
inductive Refused (s : Scheduler) (q : Queue) (now : Counter) (p : Packet) (c : TrafficClass) :
    Rejection → Prop where
  /-- it was refused by itself, and comes back as it is -/
  | entry {reason : Refusal} (h : s.entryRefusal? q p c = some reason) :
    Refused s q now p c ⟨reason, p⟩
  /-- it was refused for its target, and comes back with that -/
  | target {reason : Refusal} {pre post : Span} (hentry : s.entryRefusal? q p c = none)
      (hpre : pre = s.policy.preDelay c) (hpost : post = s.policy.postDelay c (s.timeOnAir p))
      (h : s.targetRefusal? q now ⟨(s.resolve q now p pre post c).target, pre, post⟩ c =
        some reason) :
    Refused s q now p c ⟨reason, s.resolve q now p pre post c⟩

/-- Admission makes an entry of a downlink or refuses it. -/
theorem admission_cases (s : Scheduler) (q : Queue) (now : Counter) (p : Packet)
    (c : TrafficClass) :
    (∃ e, s.admission q now p c = .ok e ∧ s.Admitted q now p c e) ∨
      ∃ r, s.admission q now p c = .error r ∧ s.Refused q now p c r := by
  obtain ⟨pre, hpre⟩ : ∃ pre, pre = s.policy.preDelay c := ⟨_, rfl⟩
  obtain ⟨post, hpost⟩ : ∃ post, post = s.policy.postDelay c (s.timeOnAir p) := ⟨_, rfl⟩
  rcases hentry : s.entryRefusal? q p c with _ | reason
  · rcases htarget : s.targetRefusal? q now ⟨(s.resolve q now p pre post c).target, pre, post⟩ c
      with _ | reason
    · obtain ⟨hlead, hadvance, hclear⟩ := targetRefusal?_eq_none.mp htarget
      refine .inl ⟨⟨s.resolve q now p pre post c, pre, post, c⟩, ?_, ?_⟩
      · simp only [admission, hentry, ← hpre, ← hpost, htarget]
      · exact ⟨hentry, rfl, hpre, hpost, rfl, hlead, hadvance, hclear⟩
    · refine .inr ⟨_, ?_, .target hentry hpre hpost htarget⟩
      simp only [admission, hentry, ← hpre, ← hpost, htarget]
  · refine .inr ⟨_, ?_, .entry hentry⟩
    simp only [admission, hentry]

/-- The packet of an admitted entry is the one handed in but for its target, and it is to be sent
at that. -/
theorem Admitted.packet_eq {p : Packet} {c : TrafficClass} {e : Entry}
    (h : s.Admitted q now p c e) :
    e.packet = { p with target := e.target, mode := .timestamped } := by
  have hp := h.packet
  rw [resolve] at hp
  rcases hmode : p.mode with - | - <;> simp only [hmode] at hp
  · rw [Entry.target, hp]
  · rw [Entry.target, hp, ← hmode]

/-- A downlink is refused for a reason of its own; that the queue is empty is none. -/
theorem Refused.reason_ne_empty {p : Packet} {c : TrafficClass} {r : Rejection}
    (h : s.Refused q now p c r) : r.reason ≠ .empty := by
  cases h with
  | entry h => rcases reason_of_entryRefusal? h with rfl | rfl <;> nofun
  | target _ _ _ h =>
    rcases reason_of_targetRefusal? h with rfl | ⟨rfl, -⟩ | rfl | rfl <;> nofun

/-- Handing in a downlink puts an admitted entry into the queue, or leaves the entries alone. The
queue hears of the time either way. -/
theorem enqueue_cases (s : Scheduler) (q : Queue) (now : Counter) (p : Packet)
    (c : TrafficClass) :
    (∃ e, s.Admitted { q with reference := now } now p c e ∧
      (s.enqueue q now p c).result = .ok e.target ∧
      (s.enqueue q now p c).queue =
        { s.push { q with reference := now } e with stats := q.stats.recordEnqueued c }) ∨
    (∃ r, s.Refused { q with reference := now } now p c r ∧
      (s.enqueue q now p c).result = .error r ∧
      (s.enqueue q now p c).queue =
        { q with reference := now, stats := q.stats.recordRejected c r.reason }) := by
  rcases s.admission_cases { q with reference := now } now p c with ⟨e, hadm, he⟩ | ⟨r, hadm, hr⟩
  · refine .inl ⟨e, he, ?_⟩
    simp only [enqueue, hadm, push_stats, and_self]
  · refine .inr ⟨r, hr, ?_⟩
    simp only [enqueue, hadm, and_self]

/-- An accepted downlink has become an admitted entry with the target that was answered. -/
theorem enqueue_eq_ok {p : Packet} {c : TrafficClass} {target : Counter}
    (h : (s.enqueue q now p c).result = .ok target) :
    ∃ e, s.Admitted { q with reference := now } now p c e ∧ e.target = target ∧
      (s.enqueue q now p c).queue.entries = (s.push { q with reference := now } e).entries ∧
      e ∈ (s.enqueue q now p c).queue.entries := by
  rcases s.enqueue_cases q now p c with ⟨e, he, hok, hqueue⟩ | ⟨r, -, herror, -⟩
  · refine ⟨e, he, Except.ok.inj (hok.symm.trans h), by rw [hqueue], ?_⟩
    rw [hqueue]
    exact (s.push_perm _ e).mem_iff.mpr (List.mem_cons_self ..)
  · rw [herror] at h
    cases h

/-! ## Leaving by index -/

/-- Dequeuing takes out the entry at an index of the queue, or refuses and changes nothing. -/
theorem dequeue_cases (s : Scheduler) (q : Queue) (i : Nat) :
    (∃ h : i < q.entries.length, (s.dequeue q i).result = .ok q.entries[i] ∧
      (s.dequeue q i).queue = (s.removeAt q i h).2) ∨
    (∃ reason, (s.dequeue q i).result = .error reason ∧ (s.dequeue q i).queue = q) := by
  rw [dequeue]
  split
  · exact .inr ⟨_, rfl, rfl⟩
  split
  · exact .inr ⟨_, rfl, rfl⟩
  split
  next h => exact .inl ⟨h, rfl, rfl⟩
  next => exact .inr ⟨_, rfl, rfl⟩

/-! ## Leaving as stale -/

theorem dropStale_of_none (h : q.entries.findIdx? (s.isStale now) = none) :
    s.dropStale now q = ([], q) := by
  -- the two branches remember what was found, so `rw [h]` alone would not do
  rw [dropStale]
  split
  next => rfl
  next hsome => rw [h] at hsome; cases hsome

theorem dropStale_of_some {i : Nat} (h : q.entries.findIdx? (s.isStale now) = some i)
    (hi : i < q.entries.length) :
    s.dropStale now q =
      (q.entries[i] :: (s.dropStale now (s.removeAt q i hi).2).1,
        (s.dropStale now (s.removeAt q i hi).2).2) := by
  rw [dropStale]
  split
  next hnone => rw [h] at hnone; cases hnone
  next j hsome =>
    obtain rfl : i = j := Option.some.inj (h.symm.trans hsome)
    rfl

/-- What the dropping of stale entries comes to: the entries are parted into stale ones, which are
gone, and others, which stay. -/
structure Parted (s : Scheduler) (now : Counter) (q : Queue) (gone : List Entry) (left : Queue) :
    Prop where
  /-- nothing is lost -/
  perm : (gone ++ left.entries).Perm q.entries
  /-- what is gone was stale -/
  stale : ∀ e ∈ gone, s.isStale now e = true
  /-- what stays is not -/
  kept : ∀ e ∈ left.entries, s.isStale now e = false
  /-- the time that was heard of stays -/
  reference : left.reference = q.reference
  /-- nothing is counted yet -/
  stats : left.stats = q.stats

/-- Dropping stale entries parts the queue. The induction is on the drops; each leaves one entry
less. -/
theorem parted_dropStale (s : Scheduler) (now : Counter) (q : Queue) :
    s.Parted now q (s.dropStale now q).1 (s.dropStale now q).2 := by
  induction q using dropStale.induct s now with
  | case1 q h =>
    rw [dropStale_of_none h]
    refine ⟨.refl _, fun e he => ?_, fun e he => ?_, rfl, rfl⟩
    · exact absurd he List.not_mem_nil
    · exact List.findIdx?_eq_none_iff.mp h e he
  | case2 q i h hi gone ih =>
    obtain ⟨_, hstale, -⟩ := List.findIdx?_eq_some_iff_getElem.mp h
    rw [dropStale_of_some h hi]
    refine ⟨?_, ?_, ih.kept, ih.reference, ih.stats⟩
    · exact (ih.perm.cons q.entries[i]).trans (s.removeAt_perm hi)
    · intro e he
      rcases List.mem_cons.mp he with rfl | he
      · exact hstale
      · exact ih.stale e he

@[simp] theorem countStale_entries (q : Queue) (dropped : List Entry) :
    (countStale q dropped).entries = q.entries := rfl

/-- Peeking parts the queue and says which of the entries that stay is due. An empty queue has
nothing to part. -/
theorem peek_cases (s : Scheduler) (q : Queue) (now : Counter) :
    (q.entries = [] ∧ (s.peek q now).result = .error .empty ∧ (s.peek q now).queue = q) ∨
    q.entries ≠ [] ∧ ∃ gone left, s.dropStale now { q with reference := now } = (gone, left) ∧
      s.Parted now { q with reference := now } gone left ∧
      (s.peek q now).result = .ok (s.due? left now) ∧
      (s.peek q now).queue = countStale left gone := by
  rw [peek]
  split
  next h => exact .inl ⟨List.isEmpty_iff.mp h, rfl, rfl⟩
  next h => exact .inr ⟨mt List.isEmpty_iff.mpr h, _, _, rfl, s.parted_dropStale now _, rfl, rfl⟩

/-! ## Leaving because it is due -/

/-- The entry that is due has less than the look-ahead left, and none has less left than it. -/
theorem due?_eq_some {i : Nat} (h : s.due? q now = some i) :
    ∃ hi : i < q.entries.length, q.entries[i].lead now < s.policy.jitDelay ∧
      ∀ f ∈ q.entries, q.entries[i].lead now ≤ f.lead now := by
  obtain ⟨hi, hdue, -⟩ := List.findIdx?_eq_some_iff_getElem.mp h
  obtain ⟨hjit, hall⟩ := Bool.and_eq_true_iff.mp hdue
  refine ⟨hi, of_decide_eq_true hjit, fun f hf => ?_⟩
  exact of_decide_eq_true (List.all_eq_true.mp hall f hf)

/-- Taking what is due parts the queue as peeking does, and takes out the entry that is due. -/
theorem takeDue_cases (s : Scheduler) (q : Queue) (now : Counter) :
    (q.entries = [] ∧ (s.takeDue q now).result = .error .empty ∧ (s.takeDue q now).queue = q) ∨
    q.entries ≠ [] ∧ ∃ gone left, s.dropStale now { q with reference := now } = (gone, left) ∧
      s.Parted now { q with reference := now } gone left ∧
      ((s.due? left now = none ∧ (s.takeDue q now).result = .ok none ∧
        (s.takeDue q now).queue = countStale left gone) ∨
      ∃ (i : Nat) (hi : i < left.entries.length), s.due? left now = some i ∧
        (s.takeDue q now).result = .ok (some left.entries[i]) ∧
        (s.takeDue q now).queue = countStale (s.removeAt left i hi).2 gone) := by
  simp only [takeDue]
  split
  next h => exact .inl ⟨List.isEmpty_iff.mp h, rfl, rfl⟩
  next h =>
    refine .inr ⟨mt List.isEmpty_iff.mpr h, _, _, rfl, s.parted_dropStale now _, ?_⟩
    split
    next hdue => exact .inl ⟨hdue, rfl, rfl⟩
    next i hdue => exact .inr ⟨i, s.lt_of_due? hdue, hdue, rfl, rfl⟩

/-- Taking what is due at most loses entries. -/
theorem takeDue_entries (s : Scheduler) (q : Queue) (now : Counter) :
    ∃ gone, (gone ++ (s.takeDue q now).queue.entries).Perm q.entries := by
  rcases s.takeDue_cases q now with ⟨-, -, hq⟩ | ⟨-, gone, left, -, hparted, hdue⟩
  · exact ⟨[], by rw [hq]; exact .refl _⟩
  rcases hdue with ⟨-, -, hq⟩ | ⟨i, hi, -, -, hq⟩
  · exact ⟨gone, by rw [hq]; exact hparted.perm⟩
  · refine ⟨gone ++ [left.entries[i]], ?_⟩
    rw [hq, List.append_assoc]
    exact ((s.removeAt_perm hi).append_left gone).trans hparted.perm

end Scheduler

end Downlink
