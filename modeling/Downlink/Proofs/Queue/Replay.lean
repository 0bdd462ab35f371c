import Downlink.Proofs.Queue.Rotation

/-!
# Requests on a rotated circle

A rotated request to a rotated queue gets the rotated answer, with one reservation. A queue that is
new or was cleared has the reference zero, wherever the circle was turned to, so what comes out is
the rotated queue but for the reference of an empty one (`Queue.Alike`). That is as good as the
rotated queue itself: an empty queue looks at its reference for nothing, and handing in a downlink
overwrites it.
-/

namespace Downlink

/-! ## The reference of an empty queue -/

/-- Two queues that are the same, or empty and the same but for the time they last heard of. -/
def Queue.Alike (q q' : Queue) : Prop :=
  q' = q ∨ q.entries = [] ∧ q' = { q with reference := q'.reference }

namespace Queue.Alike

variable {q q' : Queue}

theorem refl (q : Queue) : q.Alike q := .inl rfl

theorem trans {q'' : Queue} (h : q.Alike q') (h' : q'.Alike q'') : q.Alike q'' := by
  rcases h with rfl | ⟨hq, h⟩
  · exact h'
  rcases h' with rfl | ⟨-, h'⟩
  · exact .inr ⟨hq, h⟩
  · refine .inr ⟨hq, ?_⟩
    rw [h', h]

/-- The reference is all they may differ in. -/
theorem eq_but_reference (h : q.Alike q') : q' = { q with reference := q'.reference } := by
  rcases h with rfl | ⟨-, h⟩
  · rfl
  · exact h

theorem entries_eq (h : q.Alike q') : q'.entries = q.entries := by
  rw [h.eq_but_reference]

theorem beaconCount_eq (h : q.Alike q') : q'.beaconCount = q.beaconCount := by
  rw [h.eq_but_reference]

theorem stats_eq (h : q.Alike q') : q'.stats = q.stats := by
  rw [h.eq_but_reference]

/-- Setting the counts keeps queues alike. -/
theorem with_stats (h : q.Alike q') (n : Stats) :
    Queue.Alike { q with stats := n } { q' with stats := n } := by
  rcases h with rfl | ⟨hq, h⟩
  · exact .refl _
  · refine .inr ⟨hq, ?_⟩
    rw [h]

end Queue.Alike

namespace Scheduler

variable (s : Scheduler) {q q' : Queue} (c : Span) (now : Counter)

theorem dequeue_of_empty (h : q.entries = []) (i : Nat) :
    s.dequeue q i =
      { result := .error (if s.capacity ≤ i then .invalid else .empty), queue := q } := by
  have hq : q.entries.isEmpty = true := List.isEmpty_iff.mpr h
  by_cases hi : s.capacity ≤ i
  · rw [dequeue, if_pos hi, if_pos hi]
  · rw [dequeue, if_neg hi, if_pos hq, if_neg hi]

theorem peek_of_empty (h : q.entries = []) :
    s.peek q now = { result := .error .empty, queue := q } := by
  rw [peek, if_pos (List.isEmpty_iff.mpr h)]

theorem takeDue_of_empty (h : q.entries = []) :
    s.takeDue q now = { result := .error .empty, queue := q } := by
  rw [takeDue, if_pos (List.isEmpty_iff.mpr h)]

/-- Alike queues give the same answers and become alike again. -/
theorem perform_alike (h : q.Alike q') (r : Request) :
    (s.perform q' r).result = (s.perform q r).result ∧
      (s.perform q r).queue.Alike (s.perform q' r).queue := by
  rcases h with rfl | ⟨hq, h⟩
  · exact ⟨rfl, .refl _⟩
  have hq' : q'.entries = [] := by rw [h]; exact hq
  cases r with
  | enqueue now p k =>
    -- the first thing it does is to set the reference
    rw [h]
    exact ⟨rfl, .refl _⟩
  | dequeue i =>
    rw [perform, perform, dequeue_of_empty s hq, dequeue_of_empty s hq']
    exact ⟨rfl, .inr ⟨hq, h⟩⟩
  | peek now =>
    rw [perform, perform, peek_of_empty s now hq, peek_of_empty s now hq']
    exact ⟨rfl, .inr ⟨hq, h⟩⟩
  | takeDue now =>
    rw [perform, perform, takeDue_of_empty s now hq, takeDue_of_empty s now hq']
    exact ⟨rfl, .inr ⟨hq, h⟩⟩
  | clear =>
    rw [h]
    exact ⟨rfl, .refl _⟩

/-! ## Rotated requests -/

end Scheduler

/-- The request with the readings in it rotated. -/
def Request.rotate (c : Span) : Request → Request
  | .enqueue now p k => .enqueue (now.after c) (p.rotateTimed c) k
  | .dequeue i => .dequeue i
  | .peek now => .peek (now.after c)
  | .takeDue now => .takeDue (now.after c)
  | .clear => .clear

/-- The answer with the targets in it rotated. -/
def Answer.rotate (c : Span) : Answer → Answer
  | .enqueued outcome => .enqueued ((outcome.map (·.after c)).mapError (Rejection.rotate c))
  | .dequeued outcome => .dequeued (outcome.map (Entry.rotate c))
  | .peeked outcome => .peeked outcome
  | .taken outcome => .taken (outcome.map (Option.map (Entry.rotate c)))
  | .cleared => .cleared

namespace Scheduler

variable (s : Scheduler) (q : Queue) (c : Span)

/-- A rotated queue is asked for the rotated thing. Only a cleared queue is not quite the rotated
one. -/
theorem perform_rotate (hair : s.airtime.FrameOnly) (r : Request) :
    (s.perform (q.rotate c) (r.rotate c)).result = (s.perform q r).result.rotate c ∧
      ((s.perform q r).queue.rotate c).Alike (s.perform (q.rotate c) (r.rotate c)).queue := by
  cases r with
  | enqueue now p k =>
    obtain ⟨hres, hqueue⟩ := s.enqueue_rotate c q now hair p k
    exact ⟨congrArg Answer.enqueued hres, .inl hqueue⟩
  | dequeue i =>
    obtain ⟨hres, hqueue⟩ := s.dequeue_rotate c q i
    exact ⟨congrArg Answer.dequeued hres, .inl hqueue⟩
  | peek now =>
    obtain ⟨hres, hqueue⟩ := s.peek_rotate c q now
    exact ⟨congrArg Answer.peeked hres, .inl hqueue⟩
  | takeDue now =>
    obtain ⟨hres, hqueue⟩ := s.takeDue_rotate c q now
    exact ⟨congrArg Answer.taken hres, .inl hqueue⟩
  | clear =>
    -- the reference is zero on both sides, but only one zero is rotated
    exact ⟨rfl, .inr ⟨rfl, rfl⟩⟩

end Scheduler

end Downlink
