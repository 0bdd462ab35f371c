import Downlink.Proofs.Queue.Contents
import Mathlib.Tactic.Ring

/-!
# The scan for stale entries

To find what is stale, a poll goes through the entries from the first one on. When it comes to a
stale entry it takes that out, which moves the last entry into the hole and sorts the rest, so the
entries it has passed may lie anywhere now. It starts again at the first.

An index that goes back is no measure of what is left to do, and neither is the number of entries,
which stays while the index goes on. Here the scan is taken apart into steps (`Scan.next?`), and it
is shown to end: before each entry that is dropped, and after the last of them, no more are passed
than there are entries then, so `n` entries take `n * (n + 1) / 2` steps at most
(`Scan.ends_dropStale`). What it comes to is what dropping the first stale entry over and over comes
to, which is how the operations of a queue have it.
-/

namespace Downlink

/-- A scan for stale entries on its way. -/
structure Scan where
  /-- the index of the entry it has come to -/
  index : Nat := 0
  /-- what it has taken out, in the order it went -/
  dropped : List Entry := []
  /-- the queue as it is now -/
  queue : Queue

namespace Scan

variable {s : Scheduler} {now : Counter} {q : Queue} {dropped : List Entry}

/-- One step of a scan. An entry that is not stale is passed; a stale one is taken out, and the scan
starts again. Behind the last entry there is nothing left to do. -/
def next? (s : Scheduler) (now : Counter) (c : Scan) : Option Scan :=
  if h : c.index < c.queue.entries.length then
    if s.isStale now c.queue.entries[c.index] then
      some { dropped := c.dropped ++ [(s.removeAt c.queue c.index h).1]
             queue := (s.removeAt c.queue c.index h).2 }
    else some { c with index := c.index + 1 }
  else none

/-- The scan takes that many steps and ends as another. -/
inductive Ends (s : Scheduler) (now : Counter) : Scan → Nat → Scan → Prop where
  /-- there is nothing left to do -/
  | rest {c : Scan} (h : c.next? s now = none) : Ends s now c 0 c
  /-- one step more -/
  | step {c c' d : Scan} {n : Nat} (h : c.next? s now = some c') (hrest : Ends s now c' n d) :
    Ends s now c (n + 1) d

/-- A scan has one end only. -/
theorem Ends.unique {c d d' : Scan} {n n' : Nat} (h : Ends s now c n d) (h' : Ends s now c n' d') :
    n = n' ∧ d = d' := by
  induction h generalizing n' with
  | rest hnone =>
    cases h' with
    | rest => exact ⟨rfl, rfl⟩
    | step hsome => cases hnone.symm.trans hsome
  | step hsome _ ih =>
    cases h' with
    | rest hnone => cases hnone.symm.trans hsome
    | step hsome' hrest' =>
      obtain rfl := Option.some.inj (hsome.symm.trans hsome')
      obtain ⟨rfl, rfl⟩ := ih hrest'
      exact ⟨rfl, rfl⟩

theorem Ends.iff {c d d' : Scan} {n n' : Nat} (h : Ends s now c n d) :
    Ends s now c n' d' ↔ n' = n ∧ d' = d := by
  constructor
  · intro h'
    exact h'.unique h
  · rintro ⟨rfl, rfl⟩
    exact h

/-! ## Passing entries and dropping one -/

theorem next?_of_fresh {i : Nat} (hi : i < q.entries.length)
    (h : s.isStale now q.entries[i] = false) :
    next? s now ⟨i, dropped, q⟩ = some ⟨i + 1, dropped, q⟩ := by
  rw [next?, dif_pos hi, h, if_neg Bool.false_ne_true]

theorem next?_of_stale {i : Nat} (hi : i < q.entries.length)
    (h : s.isStale now q.entries[i] = true) :
    next? s now ⟨i, dropped, q⟩ =
      some ⟨0, dropped ++ [q.entries[i]], (s.removeAt q i hi).2⟩ := by
  rw [next?, dif_pos hi, if_pos h]
  rfl

/-- Behind entries that are not stale a scan goes on as one that began there. -/
theorem Ends.passed {i n : Nat} {d : Scan} (h : Ends s now ⟨i, dropped, q⟩ n d)
    (hi : i ≤ q.entries.length)
    (hfresh : ∀ (j : Nat) (hj : j < i), s.isStale now q.entries[j] = false) :
    Ends s now ⟨0, dropped, q⟩ (n + i) d := by
  induction i generalizing n with
  | zero => exact h
  | succ i ih =>
    have hone : Ends s now ⟨i, dropped, q⟩ (n + 1) d :=
      .step (next?_of_fresh hi (hfresh i (Nat.lt_succ_self i))) h
    have hall := ih hone (Nat.le_of_succ_le hi) fun j hj => hfresh j (Nat.lt_succ_of_lt hj)
    rwa [Nat.add_assoc, Nat.add_comm 1 i] at hall

/-! ## The whole scan -/

/-- Twice the most steps that the scan of one entry more takes. -/
theorem twice_steps_succ (m : Nat) : (m + 1) * (m + 1 + 1) = m * (m + 1) + 2 * (m + 1) := by
  ring

/-- A scan ends, and it has dropped what is stale. The induction is on the drops; each begins a scan
of one entry less. -/
theorem ends_dropStale (s : Scheduler) (now : Counter) (q : Queue) (dropped : List Entry) :
    ∃ n, 2 * n ≤ q.entries.length * (q.entries.length + 1) ∧
      Ends s now ⟨0, dropped, q⟩ n
        ⟨(s.dropStale now q).2.entries.length, dropped ++ (s.dropStale now q).1,
          (s.dropStale now q).2⟩ := by
  induction q using Scheduler.dropStale.induct s now generalizing dropped with
  | case1 q hnone =>
    rw [Scheduler.dropStale_of_none hnone, List.append_nil]
    have hend : Ends s now ⟨q.entries.length, dropped, q⟩ 0 ⟨q.entries.length, dropped, q⟩ := by
      refine .rest ?_
      rw [next?, dif_neg (Nat.lt_irrefl _)]
    have hall := hend.passed (Nat.le_refl _) fun j hj =>
      List.findIdx?_eq_none_iff.mp hnone _ (List.getElem_mem hj)
    refine ⟨_, ?_, hall⟩
    cases hlength : q.entries.length with
    | zero => omega
    | succ m =>
      rw [twice_steps_succ]
      omega
  | case2 q i hsome hi gone ih =>
    obtain ⟨_, hstale, hfirst⟩ := List.findIdx?_eq_some_iff_getElem.mp hsome
    have hlength := s.length_removeAt q i hi
    obtain ⟨n, hn, hrest⟩ := ih (dropped ++ [q.entries[i]])
    rw [List.append_assoc, List.singleton_append] at hrest
    have hone : Ends s now ⟨i, dropped, q⟩ (n + 1) _ := .step (next?_of_stale hi hstale) hrest
    have hall := hone.passed (Nat.le_of_lt hi) fun j hj => Bool.eq_false_iff.mpr (hfirst j hj)
    rw [Scheduler.dropStale_of_some hsome hi]
    refine ⟨_, ?_, hall⟩
    -- what is left to scan is one entry less, and `i` of the entries were passed
    rw [← hlength, twice_steps_succ]
    change gone.2.entries.length + 1 = _ at hlength
    change _ ≤ gone.2.entries.length * (gone.2.entries.length + 1) +
      2 * (gone.2.entries.length + 1)
    omega

end Scan

end Downlink
