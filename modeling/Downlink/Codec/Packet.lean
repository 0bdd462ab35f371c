import Downlink.Json.Fields
import Downlink.Packet
import Downlink.TrafficClass

/-!
# Packets as JSON

Classes, modes and radio settings are written by name. A modulation is one record whose member
`modulation` says which modem it is for and so which other fields it has; until that is known the
other members are held back.
-/

namespace Downlink

open Json

/-! ## Names -/

/-- The names of the classes. -/
def TrafficClass.names : List (String × TrafficClass) := all.map fun c => (c.label, c)

/-- A class by name. -/
def TrafficClass.ofJson? : Json → Option TrafficClass := named? isNull names

/-- The name of a class. -/
def TrafficClass.toJson (c : TrafficClass) : Json := .ofString c.label

/-- The name of a mode. -/
def TxMode.label : TxMode → String
  | .immediate => "immediate"
  | .timestamped => "timestamped"

/-- A mode by name. -/
def TxMode.ofJson? : Json → Option TxMode :=
  named? isNull [(immediate.label, .immediate), (timestamped.label, .timestamped)]

/-- The name of a mode as JSON. -/
def TxMode.toJson (m : TxMode) : Json := .ofString m.label

/-- The name of a bandwidth, its kilohertz. -/
def Bandwidth.label : Bandwidth → String
  | .khz125 => "125"
  | .khz250 => "250"
  | .khz500 => "500"

/-- A bandwidth by name. -/
def Bandwidth.ofJson? (isAbsent : Json → Bool) : Json → Option Bandwidth :=
  named? isAbsent ([.khz125, .khz250, .khz500].map fun b => (b.label, b))

/-- The name of a bandwidth as JSON. -/
def Bandwidth.toJson (b : Bandwidth) : Json := .ofString b.label

/-- The name of a coding rate, a fraction. -/
def CodingRate.label : CodingRate → String
  | .fourFifths => "4/5"
  | .fourSixths => "4/6"
  | .fourSevenths => "4/7"
  | .fourEighths => "4/8"

/-- A coding rate by name. -/
def CodingRate.ofJson? (isAbsent : Json → Bool) : Json → Option CodingRate :=
  named? isAbsent
    ([.fourFifths, .fourSixths, .fourSevenths, .fourEighths].map fun r => (r.label, r))

/-- The name of a coding rate as JSON. -/
def CodingRate.toJson (r : CodingRate) : Json := .ofString r.label

/-! ## Modulations -/

/-- The fields of the LoRa settings, in order. -/
def LoraSettings.fieldNames : List String :=
  ["spreading_factor", "bandwidth", "coding_rate", "preamble_symbols", "implicit_header", "crc"]

/-- The LoRa settings from their fields, all of which must be given. -/
def LoraSettings.ofFields? (field : String → Option Json) : Option LoraSettings := do
  return {
    spreadingFactor := ← required (field "spreading_factor") uint8?
    bandwidth := ← required (field "bandwidth") (Bandwidth.ofJson? isHeldAbsent)
    codingRate := ← required (field "coding_rate") (CodingRate.ofJson? isHeldAbsent)
    preambleSymbols := ← required (field "preamble_symbols") uint16?
    implicitHeader := ← required (field "implicit_header") bool?
    crc := ← required (field "crc") bool? }

/-- The fields of the FSK settings, in order. -/
def FskSettings.fieldNames : List String := ["datarate_bps", "preamble_bytes", "crc"]

/-- The FSK settings from their fields, all of which must be given. -/
def FskSettings.ofFields? (field : String → Option Json) : Option FskSettings := do
  return {
    datarate := ← required (field "datarate_bps") uint32?
    preambleBytes := ← required (field "preamble_bytes") uint16?
    crc := ← required (field "crc") bool? }

namespace Modulation

/-- The member that names the modem. -/
def tag : String := "modulation"

/-- The settings of the named modem from a record that holds its fields. -/
def ofTagged? (modem : String) (record : Json) : Option Modulation :=
  if modem = "lora" then
    ((record.fields? LoraSettings.fieldNames).bind LoraSettings.ofFields?).map .lora
  else if modem = "fsk" then
    ((record.fields? FskSettings.fieldNames).bind FskSettings.ofFields?).map .fsk
  else none

/-- A modulation that stands at a level of a text. As an object it names its modem once, anywhere;
as a list it does so first. -/
def ofJson? (level : Nat) : Json → Option Modulation
  | .object members =>
    let (tags, rest) := members.partition fun m => m.1 == some tag
    match tags with
    | [(_, .atom (.string (some modem)))] =>
      if membersAreHoldable (level + 1) rest then ofTagged? modem (.object rest) else none
    | _ => none
  | .array (.atom (.string (some modem)) :: items) =>
    if areHoldable (level + 1) items then ofTagged? modem (.array items) else none
  | _ => none

/-- A modulation as an object. -/
def toJson : Modulation → Json
  | .lora m => .ofMembers [
      (tag, .ofString "lora"),
      ("spreading_factor", .ofNat m.spreadingFactor.toNat),
      ("bandwidth", m.bandwidth.toJson),
      ("coding_rate", m.codingRate.toJson),
      ("preamble_symbols", .ofNat m.preambleSymbols.toNat),
      ("implicit_header", .ofBool m.implicitHeader),
      ("crc", .ofBool m.crc)]
  | .fsk m => .ofMembers [
      (tag, .ofString "fsk"),
      ("datarate_bps", .ofNat m.datarate.toNat),
      ("preamble_bytes", .ofNat m.preambleBytes.toNat),
      ("crc", .ofBool m.crc)]

end Modulation

/-! ## Packets -/

namespace Packet

/-- The fields of a packet, in order. -/
def fieldNames : List String :=
  ["id", "target_time_us", "tx_mode", "frequency_hz", "rf_power_dbm", "modulation", "payload"]

/-- A packet, all fields of which must be given. -/
def ofJson? (v : Json) : Option Packet := do
  let field ← v.fields? fieldNames
  return {
    id := ← required (field "id") uint64?
    target := ⟨← required (field "target_time_us") uint32?⟩
    mode := ← required (field "tx_mode") TxMode.ofJson?
    frequency := ← required (field "frequency_hz") uint32?
    power := ← required (field "rf_power_dbm") int8?
    modulation := ← required (field "modulation") (Modulation.ofJson? 2)
    payload := ← required (field "payload") bytes? }

/-- A packet as an object. -/
def toJson (p : Packet) : Json := .ofMembers [
  ("id", .ofNat p.id.toNat),
  ("target_time_us", .ofNat p.target.ticks.toNat),
  ("tx_mode", p.mode.toJson),
  ("frequency_hz", .ofNat p.frequency.toNat),
  ("rf_power_dbm", .ofInt p.power.toInt),
  ("modulation", p.modulation.toJson),
  ("payload", .array (p.payload.map fun b => .ofNat b.toNat))]

end Packet

end Downlink
