import Downlink.Clock

/-!
# Downlinks

A downlink is a payload with the radio settings it is to be sent with and the time it is to be sent
at. The settings are those of a LoRa or an FSK modem; which of them a radio can emit at all is
`Modulation.isSupported`, and which downlinks a queue looks at is `Packet.isWellFormed`.
-/

namespace Downlink

/-! ## Radio settings -/

/-- The width of a LoRa channel. -/
inductive Bandwidth where
  | khz125
  | khz250
  | khz500
deriving DecidableEq, Repr, Inhabited

/-- The width in hertz. -/
def Bandwidth.hertz : Bandwidth → UInt32
  | .khz125 => 125000
  | .khz250 => 250000
  | .khz500 => 500000

/-- The forward error correction of a LoRa frame: how many bits are sent for each four. -/
inductive CodingRate where
  | fourFifths
  | fourSixths
  | fourSevenths
  | fourEighths
deriving DecidableEq, Repr, Inhabited

/-- The parity bits added to each four bits of data. -/
def CodingRate.parityBits : CodingRate → UInt32
  | .fourFifths => 1
  | .fourSixths => 2
  | .fourSevenths => 3
  | .fourEighths => 4

/-- The settings of the LoRa modem. -/
structure LoraSettings where
  /-- the logarithm of the chips in a symbol -/
  spreadingFactor : UInt8
  /-- the width of the channel -/
  bandwidth : Bandwidth
  /-- the error correction -/
  codingRate : CodingRate
  /-- the length of the preamble in symbols -/
  preambleSymbols : UInt16
  /-- whether the header is left out, both sides knowing what it would say -/
  implicitHeader : Bool
  /-- whether the payload carries a checksum -/
  crc : Bool
deriving DecidableEq, Repr

/-- The settings of the FSK modem. -/
structure FskSettings where
  /-- bits sent in a second -/
  datarate : UInt32
  /-- the length of the preamble in bytes -/
  preambleBytes : UInt16
  /-- whether the frame carries a checksum -/
  crc : Bool
deriving DecidableEq, Repr

/-- How a frame is put on air. -/
inductive Modulation where
  | lora (settings : LoraSettings)
  | fsk (settings : FskSettings)
deriving DecidableEq, Repr

namespace Modulation

/-- The usual downlink: a preamble of eight symbols, a header, no checksum. -/
def loraDownlink (spreadingFactor : UInt8) (bandwidth : Bandwidth) : Modulation :=
  .lora ⟨spreadingFactor, bandwidth, .fourFifths, 8, false, false⟩

/-- The network beacon: a preamble of ten symbols, no header, no checksum. -/
def loraBeacon (spreadingFactor : UInt8) (bandwidth : Bandwidth) : Modulation :=
  .lora ⟨spreadingFactor, bandwidth, .fourFifths, 10, true, false⟩

/-- The usual FSK downlink: a preamble of five bytes and a checksum. -/
def fskDownlink (datarate : UInt32) : Modulation := .fsk ⟨datarate, 5, true⟩

/-- Whether a radio can emit with these settings. -/
def isSupported : Modulation → Bool
  | .lora m => 7 ≤ m.spreadingFactor && m.spreadingFactor ≤ 12
  | .fsk m => 500 ≤ m.datarate && m.datarate ≤ 250000

end Modulation

/-! ## Downlinks -/

/-- Who chooses the time of a downlink. -/
inductive TxMode where
  /-- the queue does: as soon as possible -/
  | immediate
  /-- the sender did: when the counter reaches the target -/
  | timestamped
deriving DecidableEq, Repr, Inhabited

/-- A frame with the settings it is sent with. -/
structure Packet where
  /-- what the sender calls it -/
  id : UInt64
  /-- when it is sent; of no meaning while an immediate packet has no slot yet -/
  target : Counter
  /-- who chooses the target -/
  mode : TxMode
  /-- the centre of the channel in hertz -/
  frequency : UInt32
  /-- the power in dBm -/
  power : Int8
  /-- the radio settings -/
  modulation : Modulation
  /-- the bytes to send -/
  payload : List UInt8
deriving DecidableEq, Repr

namespace Packet

/-- The most bytes a frame can carry. -/
def maxPayload : Nat := 255

/-- The power of a packet that names none. -/
def defaultPower : Int8 := 14

/-- A packet to be sent at a given time. -/
def timestamped (id : UInt64) (payload : List UInt8) (target : Counter) (frequency : UInt32)
    (modulation : Modulation) : Packet :=
  { id, target, mode := .timestamped, frequency, power := defaultPower, modulation
    payload }

/-- A packet to be sent as soon as the queue allows. -/
def immediate (id : UInt64) (payload : List UInt8) (frequency : UInt32)
    (modulation : Modulation) : Packet :=
  { id, target := ⟨0⟩, mode := .immediate, frequency, power := defaultPower, modulation
    payload }

/-- The number of bytes it carries. -/
def size (p : Packet) : Nat := p.payload.length

/-- Whether it carries nothing. -/
def isEmpty (p : Packet) : Bool := p.payload.isEmpty

/-- Whether a radio could send it at all. -/
def isWellFormed (p : Packet) : Bool :=
  !p.isEmpty && p.size ≤ maxPayload && p.modulation.isSupported

end Packet

end Downlink
