import Downlink.Queue.Selection

/-!
# The counts one by one

What became of the downlinks is counted in five tables, and one of them has a count for each reason.
Here each count has a name (`Count`), so that one statement can be about all of them: what is
recorded adds to one count and leaves every other as it is.
-/

namespace Downlink

/-- One of the counts that are kept. -/
inductive Count where
  /-- accepted downlinks of a class -/
  | enqueued (c : TrafficClass)
  /-- downlinks of a class that were refused for a reason -/
  | rejected (c : TrafficClass) (reason : Refusal)
  /-- entries of a class that were dropped as stale -/
  | staleDropped (c : TrafficClass)
  /-- downlinks of a class that were handed to the radio -/
  | transmitted (c : TrafficClass)
  /-- downlinks of a class that the radio did not take -/
  | txFailed (c : TrafficClass)
deriving DecidableEq, Repr

namespace Stats

/-- What a count stands at. -/
def get (n : Stats) : Count → UInt64
  | .enqueued c => n.enqueued.get c
  | .rejected c reason => (n.rejected.get c).get reason
  | .staleDropped c => n.staleDropped.get c
  | .transmitted c => n.transmitted.get c
  | .txFailed c => n.txFailed.get c

end Stats

/-- In a table, one more of a class is counted for that class only. -/
theorem PerClass.get_modify_add_one (t : PerClass UInt64) (c d : TrafficClass) :
    (t.modify c (· + 1)).get d = t.get d + if d = c then 1 else 0 := by
  by_cases hd : d = c
  · subst hd
    rw [get_modify_self, if_pos rfl]
  · rw [get_modify_of_ne _ _ hd, if_neg hd, UInt64.add_zero]

/-- A refusal is counted once, under its reason. -/
theorem RefusalCounts.get_record (n : RefusalCounts) {reason : Refusal} (h : reason ≠ .empty)
    (x : Refusal) : (n.record reason).get x = n.get x + if x = reason then 1 else 0 := by
  cases reason with
  | empty => exact absurd rfl h
  | _ => cases x <;> simp [record, get]

namespace Stats

/-- A downlink that was refused is counted once, under its class and the reason. -/
theorem get_recordRejected (n : Stats) (c : TrafficClass) {reason : Refusal} (h : reason ≠ .empty)
    (x : Count) : (n.recordRejected c reason).get x =
      n.get x + if x = .rejected c reason then 1 else 0 := by
  cases x with
  | rejected d why =>
    by_cases hd : d = c
    · subst hd
      simp only [get, recordRejected, PerClass.get_modify_self, RefusalCounts.get_record _ h,
        Count.rejected.injEq, true_and]
    · simp [get, recordRejected, PerClass.get_modify_of_ne _ _ hd, hd]
  | _ => simp [get, recordRejected]

/-- An entry that is dropped as stale is counted once, under its class. -/
theorem get_recordStale (n : Stats) (c : TrafficClass) (x : Count) :
    (n.recordStale c).get x = n.get x + if x = .staleDropped c then 1 else 0 := by
  cases x with
  | staleDropped d => simp [get, recordStale, PerClass.get_modify_add_one]
  | _ => simp [get, recordStale]

/-- A downlink that was handed to the radio is counted once, under its class and by whether the radio
took it. -/
theorem get_recordOutcome (n : Stats) (c : TrafficClass) (sent : Bool) (x : Count) :
    (if sent then n.recordTransmitted c else n.recordTxFailed c).get x =
      n.get x + if x = (if sent then .transmitted c else .txFailed c) then 1 else 0 := by
  cases sent with
  | true =>
    cases x with
    | transmitted d => simp [get, recordTransmitted, PerClass.get_modify_add_one]
    | _ => simp [get, recordTransmitted]
  | false =>
    cases x with
    | txFailed d => simp [get, recordTxFailed, PerClass.get_modify_add_one]
    | _ => simp [get, recordTxFailed]

end Stats

/-- Each of several entries that are dropped as stale is counted once. The induction is on them. -/
theorem Scheduler.get_countStale (q : Queue) (gone : List Entry) (x : Count) :
    (countStale q gone).stats.get x = q.stats.get x +
      UInt64.ofNat (gone.countP fun e => x = .staleDropped e.trafficClass) := by
  rw [countStale]
  generalize q.stats = n
  induction gone generalizing n with
  | nil => simp
  | cons e gone ih =>
    rw [List.foldl_cons, ih, Stats.get_recordStale, List.countP_cons, UInt64.ofNat_add]
    by_cases hx : x = .staleDropped e.trafficClass
    · simp only [hx, if_true, decide_true]
      grind
    · simp [hx]

/-- The other counts do not move with them. -/
theorem Scheduler.get_countStale_of_ne (q : Queue) (gone : List Entry) {x : Count}
    (hx : ∀ c, x ≠ .staleDropped c) : (countStale q gone).stats.get x = q.stats.get x := by
  have hnone : gone.countP (fun e => x = .staleDropped e.trafficClass) = 0 := by
    rw [List.countP_eq_zero]
    intro e _
    rw [decide_eq_true_iff]
    exact hx e.trafficClass
  rw [get_countStale, hnone]
  exact UInt64.add_zero _

end Downlink
