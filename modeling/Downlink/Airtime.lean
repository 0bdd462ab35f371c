import Downlink.Packet

/-!
# Time on air

How long a frame occupies the channel. LoRa counts symbols: the preamble with its 4.25 symbols of
synchronisation, eight symbols that every frame has, and blocks of four to eight symbols that carry
the payload, a symbol being `2 ^ SF` chips long. FSK counts bytes.

The modem's arithmetic is that of 64-bit words. Two products may leave that range, for spreading
factors no radio has, and stop at the largest word; the result stops at the longest span.
-/

namespace Downlink

/-! ## Words of 64 bits -/

namespace Word

/-- The largest word of 64 bits. -/
def largest : UInt64 := 18446744073709551615

/-- The product of two words, stopping at the largest. -/
def times (a b : UInt64) : UInt64 :=
  if a.toNat * b.toNat < UInt64.size then a * b else largest

/-- The quotient of two words, rounded up. -/
def ceilDiv (a b : UInt64) : UInt64 := if a % b = 0 then a / b else a / b + 1

end Word

/-! ## LoRa -/

namespace LoraSettings

/-- Whether the modem runs in its low data rate mode, which it does when a symbol takes sixteen
milliseconds or more. -/
def lowDataRate (spreadingFactor : UInt8) (hertz : UInt32) : Bool :=
  (11 ≤ spreadingFactor && hertz == 125000) || (spreadingFactor == 12 && hertz == 250000)

/-- Bits that are left for the coding blocks once the fixed symbols are filled; negative if they
hold the whole frame. -/
def spareBits (m : LoraSettings) (bytes : UInt64) : Int64 :=
  8 * bytes.toInt64 - 4 * Int64.ofNat m.spreadingFactor.toNat + 28
    + (if m.crc then 16 else 0) - (if m.implicitHeader then 20 else 0)

/-- Bits that one coding block carries, taken as one where the settings leave none. -/
def blockBits (m : LoraSettings) : Int64 :=
  let lost : Int64 := if lowDataRate m.spreadingFactor m.bandwidth.hertz then 2 else 0
  let bits := 4 * (Int64.ofNat m.spreadingFactor.toNat - lost)
  if bits ≤ 1 then 1 else bits

/-- The number of coding blocks of a frame of `bytes` bytes. -/
def codingBlocks (m : LoraSettings) (bytes : UInt64) : Int64 :=
  let spare := m.spareBits bytes
  if 0 < spare then (spare + m.blockBits - 1) / m.blockBits else 0

/-- The length of a frame in quarters of a symbol, the preamble being 4.25 symbols longer than the
settings say. -/
def quarterSymbols (m : LoraSettings) (bytes : UInt64) : UInt64 :=
  let symbols := 8 + (m.codingBlocks bytes).toUInt64 * (m.codingRate.parityBits.toUInt64 + 4)
  4 * m.preambleSymbols.toUInt64 + 17 + 4 * symbols

/-- The chips in a symbol, stopping at the largest word. -/
def chips (m : LoraSettings) : UInt64 :=
  if m.spreadingFactor < 64 then 1 <<< m.spreadingFactor.toUInt64 else Word.largest

/-- Microseconds on air. -/
def micros (m : LoraSettings) (bytes : UInt64) : UInt64 :=
  Word.ceilDiv (Word.times (Word.times (m.quarterSymbols bytes) m.chips) 1000000)
    (4 * m.bandwidth.hertz.toUInt64)

end LoraSettings

/-! ## FSK -/

namespace FskSettings

/-- The length of the synchronisation word in bytes. -/
def syncBytes : UInt64 := 3

/-- The bytes on air: preamble, synchronisation word, length, payload and checksum. -/
def frameBytes (m : FskSettings) (bytes : UInt64) : UInt64 :=
  m.preambleBytes.toUInt64 + syncBytes + 1 + bytes + (if m.crc then 2 else 0)

/-- Microseconds on air. A data rate of nothing counts as one bit in a second. -/
def micros (m : FskSettings) (bytes : UInt64) : UInt64 :=
  let rate := if m.datarate = 0 then 1 else m.datarate
  Word.ceilDiv (8 * m.frameBytes bytes * 1000000) rate.toUInt64

end FskSettings

/-! ## Both -/

/-- How long a frame with a payload of `bytes` bytes is on air, rounded up to a microsecond and
never more than the longest span. Settings that no radio supports have a time on air too. -/
def Modulation.timeOnAir (m : Modulation) (bytes : UInt64) : Span :=
  match m with
  | .lora settings => Span.clamp (settings.micros bytes).toNat
  | .fsk settings => Span.clamp (settings.micros bytes).toNat

/-- What a queue or a radio takes for the time on air of a packet. -/
abbrev AirtimeModel := Packet → Span

namespace AirtimeModel

/-- The time the modem takes. -/
def modem : AirtimeModel := fun p => p.modulation.timeOnAir (UInt64.ofNat p.size)

/-- The same time for every packet. -/
def fixed (d : Span) : AirtimeModel := fun _ => d

end AirtimeModel

end Downlink
