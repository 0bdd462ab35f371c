import Downlink.Clock

/-!
# Planning beacons

Beacons follow each other at a fixed period, counted from the time the planner was started. The
planner hands out each slot once, when it comes within a horizon ahead of now; slots that passed
while nobody asked are skipped, and the next one is still aligned on the period.
-/

namespace Downlink

/-- What is known about the beacons to come. -/
structure BeaconPlanner where
  /-- time from one beacon to the next -/
  period : Span
  /-- how many beacons are handed out at a time, at most -/
  ahead : UInt32
  /-- how far ahead of now a slot is handed out -/
  horizon : Span
  /-- the first slot that was neither handed out nor skipped -/
  next : Counter
deriving DecidableEq, Repr

namespace BeaconPlanner

/-- A planner started at `start`, whose first slot comes one period later. At least one beacon is
planned ahead, and the horizon ends at a quarter of a turn. -/
def new (start : Counter) (period : Span) (ahead : UInt32) : BeaconPlanner :=
  let ahead := if ahead = 0 then 1 else ahead
  { period, ahead, next := start.after period
    horizon := Span.clamp (min (period.toNat * ahead.toNat) 1073741823) }

/-- The planner with the slots behind `now` skipped. A slot counts as behind if it lies less than
half a turn back. -/
def skipMissed (b : BeaconPlanner) (now : Counter) : BeaconPlanner :=
  let behind := now.since b.next
  if behind ≠ 0 ∧ behind < 2147483647 then
    let missed := (behind.toNat + b.period.toNat - 1) / b.period.toNat
    { b with next := b.next.after (Span.clamp (missed * b.period.toNat)) }
  else b

/-- Hands out at most `n` slots, up to the first beyond the horizon. -/
def handOut (now : Counter) : Nat → BeaconPlanner → List Counter × BeaconPlanner
  | 0, b => ([], b)
  | n + 1, b =>
    if b.horizon < b.next.since now then ([], b)
    else
      let rest := handOut now n { b with next := b.next.after b.period }
      (b.next :: rest.1, rest.2)

/-- The slots that came within the horizon since the planner was last asked. Without a period there
are none. -/
def due (b : BeaconPlanner) (now : Counter) : List Counter × BeaconPlanner :=
  if b.period = 0 then ([], b) else handOut now b.ahead.toNat (b.skipMissed now)

end BeaconPlanner

end Downlink
