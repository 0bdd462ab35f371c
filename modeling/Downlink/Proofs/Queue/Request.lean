import Downlink.Proofs.Queue.Contents

/-!
# Runs of a queue

The operations of a queue as data: a `Request` with its arguments, the `Answer` it gets, and one
function that performs it. A queue is `Reachable` if some requests in some order, each at whatever
counter reading, lead to it from an empty one. What only depends on the entries and survives both
losing entries and admitting one holds of every reachable queue (`Reachable.entries_induction`).
-/

namespace Downlink

/-- What can be asked of a queue. -/
inductive Request where
  /-- to take a downlink in -/
  | enqueue (now : Counter) (p : Packet) (c : TrafficClass)
  /-- to give out the entry at an index -/
  | dequeue (i : Nat)
  /-- which entry is due -/
  | peek (now : Counter)
  /-- to give out the entry that is due -/
  | takeDue (now : Counter)
  /-- to start over empty -/
  | clear
deriving DecidableEq, Repr

/-- The answer to a request. -/
inductive Answer where
  /-- the target of the downlink that was handed in, or the downlink given back -/
  | enqueued (outcome : Except Rejection Counter)
  /-- the entry that was taken out -/
  | dequeued (outcome : Except Refusal Entry)
  /-- the index of the entry that is due, if any -/
  | peeked (outcome : Except Refusal (Option Nat))
  /-- the entry that was due and is taken out, if any -/
  | taken (outcome : Except Refusal (Option Entry))
  /-- the queue is empty now -/
  | cleared
deriving DecidableEq

/-- The step with its answer changed by `f`. -/
def Step.map {α β : Type} (f : α → β) (st : Step α) : Step β :=
  { result := f st.result, queue := st.queue, notices := st.notices }

namespace Scheduler

variable {s : Scheduler} {q : Queue}

/-- Does what is asked. -/
def perform (s : Scheduler) (q : Queue) : Request → Step Answer
  | .enqueue now p c => (s.enqueue q now p c).map .enqueued
  | .dequeue i => (s.dequeue q i).map .dequeued
  | .peek now => (s.peek q now).map .peeked
  | .takeDue now => (s.takeDue q now).map .taken
  | .clear => { result := .cleared, queue := q.clear }

/-- A request admits one entry, if it hands in a downlink that is accepted, or it at most loses
some. -/
theorem perform_entries (s : Scheduler) (q : Queue) (r : Request) :
    (∃ now p c e, r = .enqueue now p c ∧ (s.enqueue q now p c).result = .ok e.target ∧
      s.Admitted { q with reference := now } now p c e ∧
      (s.perform q r).queue.entries.Perm (e :: q.entries)) ∨
    ∃ gone, (gone ++ (s.perform q r).queue.entries).Perm q.entries := by
  cases r with
  | enqueue now p c =>
    rcases s.enqueue_cases q now p c with ⟨e, he, hok, hq⟩ | ⟨r, -, -, hq⟩
    · refine .inl ⟨now, p, c, e, rfl, hok, he, ?_⟩
      change (s.enqueue q now p c).queue.entries.Perm _
      rw [hq]
      exact s.push_perm _ e
    · refine .inr ⟨[], ?_⟩
      change (s.enqueue q now p c).queue.entries.Perm _
      rw [hq]
  | dequeue i =>
    rcases s.dequeue_cases q i with ⟨hi, -, hq⟩ | ⟨reason, -, hq⟩
    · refine .inr ⟨[q.entries[i]], ?_⟩
      change (_ :: (s.dequeue q i).queue.entries).Perm _
      rw [hq]
      exact s.removeAt_perm hi
    · refine .inr ⟨[], ?_⟩
      change (s.dequeue q i).queue.entries.Perm _
      rw [hq]
  | peek now =>
    rcases s.peek_cases q now with ⟨-, -, hq⟩ | ⟨-, gone, left, -, hparted, -, hq⟩
    · refine .inr ⟨[], ?_⟩
      change (s.peek q now).queue.entries.Perm _
      rw [hq]
    · refine .inr ⟨gone, ?_⟩
      change (gone ++ (s.peek q now).queue.entries).Perm _
      rw [hq]
      exact hparted.perm
  | takeDue now =>
    obtain ⟨gone, hq⟩ := s.takeDue_entries q now
    exact .inr ⟨gone, hq⟩
  | clear =>
    refine .inr ⟨q.entries, ?_⟩
    change (q.entries ++ []).Perm q.entries
    rw [List.append_nil]

end Scheduler

/-- The queues that some requests lead to from an empty queue. -/
inductive Reachable (s : Scheduler) : Queue → Prop where
  /-- the new queue -/
  | fresh : Reachable s {}
  /-- one request more -/
  | step {q : Queue} (r : Request) : Reachable s q → Reachable s (s.perform q r).queue

/-- What survives the loss of entries and the admission of one holds of every reachable queue. -/
theorem Reachable.entries_induction {s : Scheduler} {P : List Entry → Prop} (nil : P [])
    (lose : ∀ {gone left all : List Entry}, (gone ++ left).Perm all → P all → P left)
    (gain : ∀ {q now p c e} {all : List Entry}, s.Admitted q now p c e → P q.entries →
      all.Perm (e :: q.entries) → P all)
    {q : Queue} (h : Reachable s q) : P q.entries := by
  induction h with
  | fresh => exact nil
  | @step q r _ ih =>
    rcases s.perform_entries q r with ⟨now, p, c, e, -, -, he, hperm⟩ | ⟨gone, hperm⟩
    · exact gain he ih hperm
    · exact lose hperm ih

end Downlink
