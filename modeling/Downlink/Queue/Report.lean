import Downlink.Queue.Basic

/-!
# Reports on a queue

The texts in which a queue is shown to a person: its contents, and its constants.
-/

namespace Downlink

/-- The line for an entry at an index of the queue. -/
def Entry.describe (e : Entry) (i : Nat) : String :=
  s!"\n - node[{i}]: count_us=" ++ toString e.target.ticks ++ " pre=" ++ toString e.preDelay
    ++ " post=" ++ toString e.postDelay ++ " type=" ++ e.trafficClass.label
    ++ " size=" ++ toString e.packet.size

namespace Queue

/-- The contents of a queue: how much there is and, if `all` is asked for, every entry. -/
def describe (q : Queue) (all : Bool) : String :=
  if q.entries.isEmpty then "queue is empty"
  else
    let entries := if all then q.entries.mapIdx fun i e => e.describe i else []
    "queue contains " ++ toString q.entries.length ++ " packets (" ++ toString q.beaconCount
      ++ " beacons)" ++ String.join entries

/-- What is logged to show the contents: information if the verbosity is positive, and a line for
debugging otherwise. -/
def announce (q : Queue) (all : Bool) (verbosity : Nat) : Notice :=
  .description (if 0 < verbosity then .info else .debug) (q.describe all)

end Queue

/-- The constants of a queue and how many entries it has. -/
def Scheduler.inspect (s : Scheduler) (q : Queue) : String :=
  "JitQueue \x7b policy: TimingPolicy \x7b start_delay_us: " ++ toString s.policy.startDelay
    ++ ", jit_delay_us: " ++ toString s.policy.jitDelay
    ++ ", margin_us: " ++ toString s.policy.margin
    ++ ", max_advance_us: " ++ toString s.policy.maxAdvance
    ++ ", beacon_guard_us: " ++ toString s.policy.beaconGuard
    ++ ", beacon_reserved_us: " ++ toString s.policy.beaconReserved
    ++ " \x7d, capacity: " ++ toString s.capacity
    ++ ", len: " ++ toString q.entries.length ++ " \x7d"

end Downlink
