import Downlink.Proofs.Clock.Distance
import Downlink.Proofs.Queue.CollisionFree

/-!
# The order of a queue

Entries that are put in or taken out leave a queue behind that is sorted, but a reference that moves
in between does not sort it again. So the entries are in order as seen from one maximum advance
behind the reference of the **last sort**, and what that says about their order as seen from behind
the reference of now depends on how the reference has moved since.

A move takes the vantage point forward round the circle. It leaves the order alone as long as the
point does not pass an entry: a point that moves forward comes closer to everything ahead of it by
the same distance (`Vantage.toNat_distance_lookingBack`). `Tracked` keeps the reference of the last
sort and the moves since beside the queue, so that both can be said of one run.
-/

namespace Downlink

/-! ## Seen from a point that moves -/

namespace Vantage

/-- The entries come strictly later and later as seen from the vantage point. -/
def Ascending (v : Vantage) (es : List Entry) : Prop :=
  es.Pairwise fun a b => v.distance a.target < v.distance b.target

/-- What is in order stays as it is when it is sorted. -/
theorem sort_of_pairwise {α : Type} {v : Vantage} {time : α → Counter} {xs : List α}
    (h : xs.Pairwise fun a b => v.distance (time a) ≤ v.distance (time b)) :
    v.sort time xs = xs := by
  induction xs with
  | nil => rfl
  | cons x xs ih =>
    obtain ⟨hx, hxs⟩ := List.pairwise_cons.mp h
    change v.insert time x (v.sort time xs) = x :: xs
    rw [ih hxs]
    cases xs with
    | nil => rfl
    | cons y ys => exact if_pos (hx y (List.mem_cons_self ..))

/-- A vantage point that does not pass a reading comes closer to it by as much as it moves. -/
theorem toNat_distance_lookingBack {old new t : Counter} {lookback : Span}
    (h : new.since old ≤ (lookingBack old lookback).distance t) :
    ((lookingBack new lookback).distance t).toNat =
      ((lookingBack old lookback).distance t).toNat - (new.since old).toNat := by
  have hmove : (new.before lookback).since (old.before lookback) = new.since old := by
    change new.ticks - lookback - (old.ticks - lookback) = new.ticks - old.ticks
    grind
  have hle := UInt32.le_iff_toNat_le.mp h
  rw [← hmove] at hle
  rw [← hmove]
  exact Counter.toNat_since_of_le hle

/-- The vantage point goes from behind `old` to behind each of the readings in turn, and on none of
these moves does it pass `t`. -/
def Unpassed (lookback : Span) (t : Counter) : Counter → List Counter → Prop
  | _, [] => True
  | old, new :: rest =>
    new.since old ≤ (lookingBack old lookback).distance t ∧ Unpassed lookback t new rest

instance decidableUnpassed (lookback : Span) (t : Counter) :
    ∀ (old : Counter) (moves : List Counter), Decidable (Unpassed lookback t old moves)
  | _, [] => isTrue trivial
  | old, new :: rest =>
    have := decidableUnpassed lookback t new rest
    inferInstanceAs (Decidable (new.since old ≤ (lookingBack old lookback).distance t ∧ _))

theorem Ascending.move {es : List Entry} {old new : Counter} {lookback : Span}
    (h : (lookingBack old lookback).Ascending es)
    (hmove : ∀ e ∈ es, new.since old ≤ (lookingBack old lookback).distance e.target) :
    (lookingBack new lookback).Ascending es := by
  refine List.Pairwise.imp_of_mem ?_ h
  intro a b ha hb hab
  have hleft := toNat_distance_lookingBack (hmove a ha)
  have hright := toNat_distance_lookingBack (hmove b hb)
  have hpast := UInt32.le_iff_toNat_le.mp (hmove a ha)
  rw [UInt32.lt_iff_toNat_lt] at hab ⊢
  omega

/-- The induction is on the moves, each of which keeps the order for the next. -/
theorem Ascending.moves {es : List Entry} {old : Counter} {lookback : Span} {moves : List Counter}
    (h : (lookingBack old lookback).Ascending es)
    (hmoves : ∀ e ∈ es, Unpassed lookback e.target old moves) :
    (lookingBack (moves.getLastD old) lookback).Ascending es := by
  induction moves generalizing old with
  | nil => exact h
  | cons new rest ih =>
    rw [List.getLastD_cons]
    apply ih
    · apply h.move
      intro e he
      exact (hmoves e he).1
    · intro e he
      exact (hmoves e he).2

end Vantage

/-! ## What sorts a queue -/

namespace Scheduler

variable {s : Scheduler} {q : Queue} {now : Counter}

/-- No entry steps back, as seen from behind the reference. -/
def InOrder (s : Scheduler) (q : Queue) : Prop :=
  q.entries.Pairwise fun a b =>
    (s.vantage q).distance a.target ≤ (s.vantage q).distance b.target

theorem inOrder_sorted (s : Scheduler) (q : Queue) : s.InOrder (s.sorted q) :=
  (s.vantage q).pairwise_sort Entry.target q.entries

/-- Entries that are apart have different targets, so their order is strict. -/
theorem InOrder.ascending (h : s.InOrder q) (hapart : q.entries.Pairwise s.Apart) :
    (s.vantage q).Ascending q.entries := by
  refine (List.Pairwise.and h hapart).imp ?_
  rintro a b ⟨hle, hab⟩
  apply UInt32.lt_of_le_of_ne hle
  intro heq
  exact hab.target_ne (Counter.since_inj.mp heq)

/-- The entries stay as they are, or there are more or fewer of them and they are in order. -/
def Reordered (s : Scheduler) (q q' : Queue) : Prop :=
  q'.entries = q.entries ∨ q'.entries.length ≠ q.entries.length ∧ s.InOrder q'

theorem enqueue_reordered (s : Scheduler) (q : Queue) (now : Counter) (p : Packet)
    (c : TrafficClass) : s.Reordered q (s.enqueue q now p c).queue := by
  rcases s.enqueue_cases q now p c with ⟨e, -, -, hq⟩ | ⟨rejection, -, -, hq⟩
  · have horder : s.InOrder (s.push { q with reference := now } e) := s.inOrder_sorted _
    rw [hq]
    refine .inr ⟨?_, horder⟩
    simp
  · rw [hq]
    exact .inl rfl

theorem removeAt_reordered (s : Scheduler) (q : Queue) (i : Nat) (h : i < q.entries.length) :
    (s.removeAt q i h).2.entries.length < q.entries.length ∧ s.InOrder (s.removeAt q i h).2 := by
  have hlen := s.length_removeAt q i h
  exact ⟨by omega, s.inOrder_sorted _⟩

theorem dequeue_reordered (s : Scheduler) (q : Queue) (i : Nat) :
    s.Reordered q (s.dequeue q i).queue := by
  rcases s.dequeue_cases q i with ⟨hi, -, hq⟩ | ⟨reason, -, hq⟩
  · obtain ⟨hlen, horder⟩ := s.removeAt_reordered q i hi
    rw [hq]
    exact .inr ⟨Nat.ne_of_lt hlen, horder⟩
  · rw [hq]
    exact .inl rfl

/-- Each stale entry that is dropped leaves a sorted queue to the next. -/
theorem dropStale_reordered (s : Scheduler) (now : Counter) (q : Queue) :
    (s.dropStale now q).2 = q ∨
      (s.dropStale now q).2.entries.length < q.entries.length ∧
        s.InOrder (s.dropStale now q).2 := by
  induction q using dropStale.induct s now with
  | case1 q h =>
    rw [dropStale_of_none h]
    exact .inl rfl
  | case2 q i h hi gone ih =>
    obtain ⟨hlen, horder⟩ := s.removeAt_reordered q i hi
    rw [dropStale_of_some h hi]
    rcases ih with hlast | ⟨hless, hleft⟩
    · rw [hlast]
      exact .inr ⟨hlen, horder⟩
    · exact .inr ⟨Nat.lt_trans hless hlen, hleft⟩

theorem peek_reordered (s : Scheduler) (q : Queue) (now : Counter) :
    s.Reordered q (s.peek q now).queue := by
  rcases s.peek_cases q now with ⟨-, -, hq⟩ | ⟨-, gone, left, hdrop, -, -, hq⟩
  · rw [hq]
    exact .inl rfl
  · have hleft := s.dropStale_reordered now { q with reference := now }
    rw [hdrop] at hleft
    rw [hq]
    rcases hleft with rfl | ⟨hless, horder⟩
    · exact .inl rfl
    · exact .inr ⟨Nat.ne_of_lt hless, horder⟩

theorem takeDue_reordered (s : Scheduler) (q : Queue) (now : Counter) :
    s.Reordered q (s.takeDue q now).queue := by
  rcases s.takeDue_cases q now with
    ⟨-, -, hq⟩ | ⟨-, gone, left, hdrop, hparted, ⟨-, -, hq⟩ | ⟨i, hi, -, -, hq⟩⟩
  · rw [hq]
    exact .inl rfl
  · have hleft := s.dropStale_reordered now { q with reference := now }
    rw [hdrop] at hleft
    rw [hq]
    rcases hleft with rfl | ⟨hless, horder⟩
    · exact .inl rfl
    · exact .inr ⟨Nat.ne_of_lt hless, horder⟩
  · -- whatever was dropped, the entry that is taken out sorts the rest
    obtain ⟨hless, horder⟩ := s.removeAt_reordered left i hi
    have hlen := hparted.perm.length_eq
    rw [List.length_append] at hlen
    rw [hq]
    refine .inr ⟨?_, horder⟩
    change (s.removeAt left i hi).2.entries.length ≠ q.entries.length
    change _ = q.entries.length at hlen
    omega

/-- Whether a request sorts the entries again. Entries are put in and taken out one at a time, each
time with a sort; only a clear takes all of them out at once. -/
def resorts (s : Scheduler) (q : Queue) (r : Request) : Bool :=
  r ≠ .clear && (s.perform q r).queue.entries.length ≠ q.entries.length

/-- A request that sorts the entries puts them in order as seen from behind the reference it leaves.
One that does not leaves the entries as they are, or none. -/
theorem perform_order (s : Scheduler) (q : Queue) (r : Request) :
    (s.resorts q r = true ∧ s.InOrder (s.perform q r).queue) ∨
    (s.resorts q r = false ∧
      ((s.perform q r).queue.entries = q.entries ∨ (s.perform q r).queue.entries = [])) := by
  by_cases hclear : r = .clear
  · refine .inr ⟨?_, .inr ?_⟩
    · simp [resorts, hclear]
    · rw [hclear]
      rfl
  have hreordered : s.Reordered q (s.perform q r).queue := by
    cases r with
    | enqueue now p c => exact s.enqueue_reordered q now p c
    | dequeue i => exact s.dequeue_reordered q i
    | peek now => exact s.peek_reordered q now
    | takeDue now => exact s.takeDue_reordered q now
    | clear => exact absurd rfl hclear
  rcases hreordered with hsame | ⟨hlen, horder⟩
  · refine .inr ⟨?_, .inl hsame⟩
    simp [resorts, hsame]
  · refine .inl ⟨?_, horder⟩
    simp [resorts, hclear, hlen]

end Scheduler

/-! ## A queue and the history of its order -/

/-- A queue, along with what its order hangs on. -/
structure Tracked where
  /-- the queue -/
  queue : Queue := {}
  /-- the reference when the entries were last sorted -/
  sortedAt : Counter := ⟨0⟩
  /-- the references that requests have left since, one after the other -/
  moves : List Counter := []

namespace Tracked

/-- Does what is asked, and takes down whether it sorts the entries. -/
def perform (s : Scheduler) (t : Tracked) (r : Request) : Tracked :=
  let q := (s.perform t.queue r).queue
  if s.resorts t.queue r then { queue := q, sortedAt := q.reference }
  else { t with queue := q, moves := t.moves ++ [q.reference] }

/-- Does one after another what is asked of a new queue. -/
def run (s : Scheduler) (rs : List Request) : Tracked := rs.foldl (perform s) {}

/-- What holds of the history at all times. -/
structure Sound (s : Scheduler) (t : Tracked) : Prop where
  /-- the queue is one that requests lead to -/
  reachable : Reachable s t.queue
  /-- the moves lead from the reference of the last sort to that of now -/
  reference : t.moves.getLastD t.sortedAt = t.queue.reference
  /-- the entries are in the order of the last sort -/
  ascending : (Vantage.lookingBack t.sortedAt s.policy.maxAdvance).Ascending t.queue.entries

theorem Sound.perform {s : Scheduler} {t : Tracked} (h : t.Sound s) (r : Request) :
    (t.perform s r).Sound s := by
  have hreachable : Reachable s (s.perform t.queue r).queue := .step r h.reachable
  rcases s.perform_order t.queue r with ⟨hsorts, horder⟩ | ⟨hsorts, hentries⟩
  · rw [Tracked.perform, if_pos hsorts]
    exact ⟨hreachable, rfl, horder.ascending (Scheduler.pairwise_apart_of_reachable hreachable)⟩
  · have hnot : ¬s.resorts t.queue r = true := by simp [hsorts]
    rw [Tracked.perform, if_neg hnot]
    refine ⟨hreachable, ?_, ?_⟩
    · simp
    · change Vantage.Ascending _ (s.perform t.queue r).queue.entries
      rcases hentries with hsame | hnone
      · rw [hsame]
        exact h.ascending
      · rw [hnone]
        exact .nil

theorem run_sound (s : Scheduler) (rs : List Request) : (run s rs).Sound s := by
  have hrun (t : Tracked) (h : t.Sound s) : (rs.foldl (perform s) t).Sound s := by
    induction rs generalizing t with
    | nil => exact h
    | cons r rs ih => exact ih _ (h.perform r)
  exact hrun {} ⟨.fresh, rfl, .nil⟩

/-- The history does not touch the queue. -/
theorem queue_run (s : Scheduler) (rs : List Request) :
    (run s rs).queue = rs.foldl (fun q r => (s.perform q r).queue) {} := by
  have hrun (t : Tracked) :
      (rs.foldl (perform s) t).queue = rs.foldl (fun q r => (s.perform q r).queue) t.queue := by
    induction rs generalizing t with
    | nil => rfl
    | cons r rs ih =>
      have hone : (t.perform s r).queue = (s.perform t.queue r).queue := by
        rw [perform]
        split <;> rfl
      rw [List.foldl_cons, List.foldl_cons, ih, hone]
  exact hrun {}

end Tracked

/-- **The order of a queue.** Whatever is asked of a new queue, its entries come strictly later and
later as seen from one maximum advance behind the reference of the last sort. If the point from
which they are seen has passed none of them on its way from there to one maximum advance behind the
reference of now, they come strictly later and later as seen from behind that, too. -/
theorem run_ascending (config : QueueConfig) (airtime : AirtimeModel) (rs : List Request) :
    let s := Scheduler.ofConfig config airtime
    let t := Tracked.run s rs
    t.queue = rs.foldl (fun q r => (s.perform q r).queue) {} ∧
    t.moves.getLastD t.sortedAt = t.queue.reference ∧
    (Vantage.lookingBack t.sortedAt config.maxAdvance).Ascending t.queue.entries ∧
    ((∀ e ∈ t.queue.entries,
        Vantage.Unpassed config.maxAdvance e.target t.sortedAt t.moves) →
      (Vantage.lookingBack t.queue.reference config.maxAdvance).Ascending t.queue.entries) := by
  intro s t
  have hsound : t.Sound s := Tracked.run_sound s rs
  refine ⟨Tracked.queue_run s rs, hsound.reference, hsound.ascending, ?_⟩
  intro hmoves
  rw [← hsound.reference]
  exact hsound.ascending.moves hmoves

/-- Two downlinks on either side of the counter's zero, and a third that is refused a second later
and moves the reference. -/
theorem run_ascending_zero :
    let rs := [(4293000000, 500000), (4293000000, 4294900000), (4294000000, 4294000000)].map
      fun (now, target) => Request.enqueue ⟨now⟩
        (.timestamped 1 [0x60] ⟨target⟩ 869525000 (.loraDownlink 9 .khz125)) .classA
    ∃ t, t = Tracked.run (.ofConfig {} (.fixed 50000)) rs ∧
      (t.queue.entries.map (·.target), t.sortedAt, t.moves, t.queue.reference) =
        ([⟨4294900000⟩, ⟨500000⟩], ⟨4293000000⟩, [⟨4294000000⟩], ⟨4294000000⟩) ∧
      (∀ e ∈ t.queue.entries,
        Vantage.Unpassed (QueueConfig.maxAdvance {}) e.target t.sortedAt t.moves) ∧
      (Vantage.lookingBack t.queue.reference (QueueConfig.maxAdvance {})).Ascending
        t.queue.entries := by
  intro rs
  have hmoves : ∀ e ∈ (Tracked.run (.ofConfig {} (.fixed 50000)) rs).queue.entries,
      Vantage.Unpassed (QueueConfig.maxAdvance {}) e.target
        (Tracked.run (.ofConfig {} (.fixed 50000)) rs).sortedAt
        (Tracked.run (.ofConfig {} (.fixed 50000)) rs).moves := by
    decide +kernel
  have hrun := run_ascending {} (.fixed 50000) rs
  obtain ⟨t, ht⟩ : ∃ t, t = Tracked.run (.ofConfig {} (.fixed 50000)) rs := ⟨_, rfl⟩
  simp only [← ht] at hrun hmoves
  refine ⟨t, ht, ?_, hmoves, hrun.2.2.2 hmoves⟩
  rw [ht]
  decide +kernel

end Downlink
