import Downlink.Clock
import Downlink.Files

/-!
# Configuration

The sizes and times a gateway runs with. Every value has a default, so nothing has to be given.

`QueueConfig.validate` refuses values that do not fit together. The rule that matters most is the
third: entries are ordered as seen from a point one maximum advance behind now, and reach up to one
maximum advance ahead of it, so both stretches together must not go round the counter.
-/

namespace Downlink

/-! ## Why a configuration is refused -/

/-- Values that do not fit together. -/
inductive Inconsistency where
  /-- the queue could hold nothing -/
  | noCapacity
  /-- the slots kept for beacons leave none for data -/
  | reservedTooMany (reserved capacity : UInt64)
  /-- the maximum advance does not fit twice into the counter -/
  | advanceTooLong (advance : Span)
  /-- nothing would ever be due -/
  | noJitDelay
deriving DecidableEq, Repr

/-- The wording of an inconsistency. -/
def Inconsistency.message : Inconsistency → String
  | .noCapacity => "capacity must be at least 1"
  | .reservedTooMany reserved capacity =>
    s!"reserved_beacon_slots ({reserved}) must be below capacity ({capacity})"
  | .advanceTooLong advance =>
    s!"max advance of {advance} us does not fit twice in the counter range"
  | .noJitDelay => "jit_delay_us must be non-zero"

/-- Why no configuration was obtained. -/
inductive ConfigError where
  /-- the file could not be read -/
  | file (cause : FileError)
  /-- the text does not describe a configuration -/
  | malformed
  /-- the values do not fit together -/
  | inconsistent (cause : Inconsistency)
deriving DecidableEq, Repr

/-- The wording of a configuration error. -/
def ConfigError.message : ConfigError → String
  | .file cause => "IO error: " ++ cause.message
  | .malformed => "JSON error"
  | .inconsistent cause => "invalid configuration: " ++ cause.message

/-! ## The queue -/

/-- The size of a queue and its timing constants. Times are in microseconds. -/
structure QueueConfig where
  /-- entries the queue can hold -/
  capacity : UInt64 := 32
  /-- time the radio needs to start a frame -/
  startDelay : Span := 1500
  /-- how far ahead of its target an entry is due -/
  jitDelay : Span := 40000
  /-- gap kept between two transmissions -/
  margin : Span := 1000
  /-- time from one beacon to the next -/
  beaconPeriod : Span := 128000000
  /-- beacons that are queued ahead -/
  beaconsInQueue : UInt32 := 3
  /-- quiet time before a beacon -/
  beaconGuard : Span := 3000000
  /-- time that is kept for a beacon itself -/
  beaconReserved : Span := 2120000
  /-- entries that only beacons may take once the queue fills up; none if zero -/
  reservedBeaconSlots : UInt64 := 0
deriving DecidableEq, Repr, Inhabited

namespace QueueConfig

/-- How far ahead a class A or B downlink may be scheduled, and also how far ahead an entry may
seem to lie before it is taken for one that has passed: a period for each queued beacon and one
more, or the longest span. -/
def maxAdvance (c : QueueConfig) : Span :=
  Span.clamp ((c.beaconsInQueue.toNat + 1) * c.beaconPeriod.toNat)

/-- Checks that the values fit together; of several faults the first in this order is reported. -/
def validate (c : QueueConfig) : Except Inconsistency Unit :=
  if c.capacity = 0 then .error .noCapacity
  else if c.capacity ≤ c.reservedBeaconSlots then
    .error (.reservedTooMany c.reservedBeaconSlots c.capacity)
  else if UInt32.size ≤ 2 * c.maxAdvance.toNat then .error (.advanceTooLong c.maxAdvance)
  else if c.jitDelay = 0 then .error .noJitDelay
  else .ok ()

/-- What a configuration that was checked is known to satisfy. -/
theorem validate_eq_ok_iff {c : QueueConfig} : c.validate = .ok () ↔
    c.capacity ≠ 0 ∧ c.reservedBeaconSlots < c.capacity ∧ 2 * c.maxAdvance.toNat < UInt32.size ∧
      c.jitDelay ≠ 0 := by
  rw [validate, ← UInt64.not_le, ← Nat.not_le]
  split
  next h => exact ⟨nofun, fun hall => absurd h hall.1⟩
  next hcapacity =>
  split
  next h => exact ⟨nofun, fun hall => absurd h hall.2.1⟩
  next hreserved =>
  split
  next h => exact ⟨nofun, fun hall => absurd h hall.2.2.1⟩
  next hadvance =>
  split
  next h => exact ⟨nofun, fun hall => absurd h hall.2.2.2⟩
  next hjit => exact ⟨fun _ => ⟨hcapacity, hreserved, hadvance, hjit⟩, fun _ => rfl⟩

/-- The slots kept for beacons leave some for data. -/
theorem reservedBeaconSlots_lt {c : QueueConfig} (h : c.validate = .ok ()) :
    c.reservedBeaconSlots.toNat < c.capacity.toNat :=
  UInt64.lt_iff_toNat_lt.mp (validate_eq_ok_iff.mp h).2.1

end QueueConfig

/-! ## The gateway -/

/-- How the queue is drained into the radio. -/
structure DispatcherConfig where
  /-- time slept when nothing was due, in milliseconds -/
  pollInterval : UInt64 := 10
  /-- the processor core to stay on, if any -/
  core : Option UInt64 := none
  /-- the priority to run at, from 0 to 3 -/
  threadPriority : Int32 := 2
deriving DecidableEq, Repr, Inhabited

/-- The time slept when nothing was due, in microseconds. -/
def DispatcherConfig.pollMicros (c : DispatcherConfig) : Nat := c.pollInterval.toNat * 1000

/-- All that can be configured. -/
structure GatewayConfig where
  /-- the queue -/
  queue : QueueConfig := {}
  /-- the dispatcher -/
  dispatcher : DispatcherConfig := {}
deriving DecidableEq, Repr, Inhabited

end Downlink
