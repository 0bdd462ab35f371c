import Downlink.Config
import Downlink.Json.Fields
import Downlink.Json.Tree

/-!
# Configuration as JSON

Every field of a configuration may be left out and then has its default. Reading a gateway's
configuration from a text can fail in two ways, in this order: the text does not describe one, or
the values do not fit together.
-/

namespace Downlink

open Json

namespace QueueConfig

/-- The fields of a queue's configuration, in order. -/
def fieldNames : List String :=
  ["capacity", "start_delay_us", "jit_delay_us", "margin_us", "beacon_period_us",
    "beacons_in_queue", "beacon_guard_us", "beacon_reserved_us", "reserved_beacon_slots"]

/-- A queue's configuration. -/
def ofJson? (v : Json) : Option QueueConfig := do
  let field ← v.fields? fieldNames
  let d : QueueConfig := {}
  return {
    capacity := ← defaulted (field "capacity") uint64? d.capacity
    startDelay := ← defaulted (field "start_delay_us") uint32? d.startDelay
    jitDelay := ← defaulted (field "jit_delay_us") uint32? d.jitDelay
    margin := ← defaulted (field "margin_us") uint32? d.margin
    beaconPeriod := ← defaulted (field "beacon_period_us") uint32? d.beaconPeriod
    beaconsInQueue := ← defaulted (field "beacons_in_queue") uint32? d.beaconsInQueue
    beaconGuard := ← defaulted (field "beacon_guard_us") uint32? d.beaconGuard
    beaconReserved := ← defaulted (field "beacon_reserved_us") uint32? d.beaconReserved
    reservedBeaconSlots :=
      ← defaulted (field "reserved_beacon_slots") uint64? d.reservedBeaconSlots }

/-- A queue's configuration as an object. -/
def toJson (c : QueueConfig) : Json := .ofMembers [
  ("capacity", .ofNat c.capacity.toNat),
  ("start_delay_us", .ofNat c.startDelay.toNat),
  ("jit_delay_us", .ofNat c.jitDelay.toNat),
  ("margin_us", .ofNat c.margin.toNat),
  ("beacon_period_us", .ofNat c.beaconPeriod.toNat),
  ("beacons_in_queue", .ofNat c.beaconsInQueue.toNat),
  ("beacon_guard_us", .ofNat c.beaconGuard.toNat),
  ("beacon_reserved_us", .ofNat c.beaconReserved.toNat),
  ("reserved_beacon_slots", .ofNat c.reservedBeaconSlots.toNat)]

end QueueConfig

namespace DispatcherConfig

/-- The fields of a dispatcher's configuration, in order. -/
def fieldNames : List String := ["poll_interval_ms", "core", "thread_priority"]

/-- A dispatcher's configuration. -/
def ofJson? (v : Json) : Option DispatcherConfig := do
  let field ← v.fields? fieldNames
  let d : DispatcherConfig := {}
  return {
    pollInterval := ← defaulted (field "poll_interval_ms") uint64? d.pollInterval
    core := ← defaulted (field "core") (option? uint64?) d.core
    threadPriority := ← defaulted (field "thread_priority") int32? d.threadPriority }

/-- A dispatcher's configuration as an object. -/
def toJson (c : DispatcherConfig) : Json := .ofMembers [
  ("poll_interval_ms", .ofNat c.pollInterval.toNat),
  ("core", match c.core with
    | none => .null
    | some core => .ofNat core.toNat),
  ("thread_priority", .ofInt c.threadPriority.toInt)]

end DispatcherConfig

namespace GatewayConfig

/-- The fields of a gateway's configuration, in order. -/
def fieldNames : List String := ["jit", "dispatcher"]

/-- A gateway's configuration. -/
def ofJson? (v : Json) : Option GatewayConfig := do
  let field ← v.fields? fieldNames
  let d : GatewayConfig := {}
  return {
    queue := ← defaulted (field "jit") QueueConfig.ofJson? d.queue
    dispatcher := ← defaulted (field "dispatcher") DispatcherConfig.ofJson? d.dispatcher }

/-- A gateway's configuration as an object. -/
def toJson (c : GatewayConfig) : Json :=
  .ofMembers [("jit", c.queue.toJson), ("dispatcher", c.dispatcher.toJson)]

/-- The configuration that a text describes, if its values fit together. -/
def ofText (text : String) : Except ConfigError GatewayConfig :=
  match (parse text).bind ofJson? with
  | none => .error .malformed
  | some c =>
    match c.queue.validate with
    | .error cause => .error (.inconsistent cause)
    | .ok () => .ok c

/-- The configuration in a file that was read, or could not be. -/
def ofFile (contents : Except ReadError ByteArray) : Except ConfigError GatewayConfig :=
  match contents with
  | .error cause => .error (.file (.unreadable cause))
  | .ok bytes =>
    match String.fromUTF8? bytes with
    | none => .error (.file .notText)
    | some text => ofText text

end GatewayConfig

end Downlink
