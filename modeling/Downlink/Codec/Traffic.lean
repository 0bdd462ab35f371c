import Downlink.Json.Fields
import Downlink.Traffic

/-!
# Traffic profiles as JSON

Every field of a profile may be left out and then has its default.
-/

namespace Downlink

open Json

namespace TrafficProfile

/-- The fields of a profile, in order. -/
def fieldNames : List String :=
  ["class_a_interval_ms", "class_c_interval_ms", "rx1_delay_us", "payload_size",
    "spreading_factor", "frequency_hz", "beacons"]

/-- A profile. -/
def ofJson? (v : Json) : Option TrafficProfile := do
  let field ← v.fields? fieldNames
  let d : TrafficProfile := {}
  return {
    classAInterval := ← defaulted (field "class_a_interval_ms") uint64? d.classAInterval
    classCInterval := ← defaulted (field "class_c_interval_ms") uint64? d.classCInterval
    rx1Delay := ← defaulted (field "rx1_delay_us") uint32? d.rx1Delay
    payloadSize := ← defaulted (field "payload_size") uint64? d.payloadSize
    spreadingFactor := ← defaulted (field "spreading_factor") uint8? d.spreadingFactor
    frequency := ← defaulted (field "frequency_hz") uint32? d.frequency
    beacons := ← defaulted (field "beacons") bool? d.beacons }

/-- A profile as an object. -/
def toJson (p : TrafficProfile) : Json := .ofMembers [
  ("class_a_interval_ms", .ofNat p.classAInterval.toNat),
  ("class_c_interval_ms", .ofNat p.classCInterval.toNat),
  ("rx1_delay_us", .ofNat p.rx1Delay.toNat),
  ("payload_size", .ofNat p.payloadSize.toNat),
  ("spreading_factor", .ofNat p.spreadingFactor.toNat),
  ("frequency_hz", .ofNat p.frequency.toNat),
  ("beacons", .ofBool p.beacons)]

end TrafficProfile

end Downlink
