import Downlink.Queue.Basic

/-!
# Selection

An entry leaves the queue by its index, because it is due, or because its slot has passed.

A reading does not say whether an entry's target lies ahead or behind. What decides is how far ahead
it *seems* to lie: less than one maximum advance, and it is still to come; otherwise it has passed,
or lies absurdly far ahead, and is **stale**. An entry is **due** once less than the look-ahead is
left until its target.
-/

namespace Downlink

namespace Scheduler

variable (s : Scheduler)

/-! ## By index -/

/-- Takes the entry at an index out. An index that no queue of this capacity can have is refused
before the queue is looked at. -/
def dequeue (q : Queue) (i : Nat) : Step (Except Refusal Entry) :=
  if s.capacity ≤ i then { result := .error .invalid, queue := q }
  else if q.entries.isEmpty then { result := .error .empty, queue := q }
  else if h : i < q.entries.length then
    let (e, q) := s.removeAt q i h
    { result := .ok e, queue := q, notices := [.dequeued e.trafficClass e.target i] }
  else { result := .error .invalid, queue := q }

/-! ## Stale entries -/

/-- Whether an entry's slot has passed, or lies absurdly far ahead. -/
def isStale (now : Counter) (e : Entry) : Bool := s.policy.maxAdvance ≤ e.lead now

/-- Takes stale entries out, one at a time, always the first in the queue as it is then. Gives them
in the order they went. -/
def dropStale (now : Counter) (q : Queue) : List Entry × Queue :=
  match h : q.entries.findIdx? (s.isStale now) with
  | none => ([], q)
  | some i =>
    have hi : i < q.entries.length := (List.findIdx?_eq_some_iff_findIdx_eq.mp h).1
    let gone := s.removeAt q i hi
    let rest := dropStale now gone.2
    (gone.1 :: rest.1, rest.2)
termination_by q.entries.length
decreasing_by
  have := s.length_removeAt q i hi
  omega

/-- The queue with stale entries counted as dropped. -/
def countStale (q : Queue) (dropped : List Entry) : Queue :=
  { q with stats := dropped.foldl (fun st e => st.recordStale e.trafficClass) q.stats }

/-- What is logged for stale entries. -/
def staleNotices (now : Counter) (dropped : List Entry) : List Notice :=
  dropped.map fun e => .stale e.trafficClass e.target now

/-! ## The entry that is due -/

/-- The index of the first entry with the least lead, if less than the look-ahead is left for it. -/
def due? (q : Queue) (now : Counter) : Option Nat :=
  q.entries.findIdx? fun e =>
    e.lead now < s.policy.jitDelay && q.entries.all fun f => e.lead now ≤ f.lead now

theorem lt_of_due? {q : Queue} {now : Counter} {i : Nat} (h : s.due? q now = some i) :
    i < q.entries.length := (List.findIdx?_eq_some_iff_findIdx_eq.mp h).1

/-- Drops stale entries and says which entry is due, if any. Of an empty queue it is an error to
ask, and the queue does not hear of the time. -/
def peek (q : Queue) (now : Counter) : Step (Except Refusal (Option Nat)) :=
  if q.entries.isEmpty then { result := .error .empty, queue := q }
  else
    let (dropped, q) := s.dropStale now { q with reference := now }
    { result := .ok (s.due? q now), queue := countStale q dropped
      notices := staleNotices now dropped }

/-- Drops stale entries and takes out the entry that is due, if any. -/
def takeDue (q : Queue) (now : Counter) : Step (Except Refusal (Option Entry)) :=
  if q.entries.isEmpty then { result := .error .empty, queue := q }
  else
    let (dropped, q) := s.dropStale now { q with reference := now }
    match h : s.due? q now with
    | none =>
      { result := .ok none, queue := countStale q dropped, notices := staleNotices now dropped }
    | some i =>
      let (e, q) := s.removeAt q i (s.lt_of_due? h)
      { result := .ok (some e), queue := countStale q dropped
        notices := staleNotices now dropped ++ [.due e.trafficClass e.target (e.lead now)] }

end Scheduler

end Downlink
