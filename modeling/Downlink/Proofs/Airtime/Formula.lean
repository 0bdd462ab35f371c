import Downlink.Proofs.Airtime.Checked
import Downlink.Proofs.Clock.Distance
import Mathlib.Data.Rat.Floor
import Mathlib.Tactic.FieldSimp
import Mathlib.Tactic.Linarith
import Mathlib.Tactic.NormNum
import Mathlib.Tactic.Positivity
import Mathlib.Tactic.Ring

/-!
# The time on air as a formula

What a modem takes for a frame is a rational number of microseconds (`Modulation.exactMicros`), and
the time on air is that number rounded up. The computation gets there with whole words: it counts
quarters of a symbol, rounds the coding blocks up with a signed division, shifts a bit to get the
chips of a symbol, and lets two products stop at the largest word.

None of its other operations leaves the range, for no settings and up to four gigabytes of payload:
it comes to the same if each of them is checked (`Modulation.timeOnAir?`). The products do leave it,
for spreading factors no radio has, but then the time on air is longer than the longest span either
way.
-/

namespace Downlink

/-! ## The formulas -/

namespace LoraSettings

/-- Bits that are left for the coding blocks; negative if there is more room than needed. -/
def spare (m : LoraSettings) (bytes : ℕ) : ℤ :=
  8 * bytes - 4 * m.spreadingFactor.toNat + 28 + 16 * m.crc.toInt - 20 * m.implicitHeader.toInt

/-- The bits that each symbol loses in the low data rate mode. -/
def lost (m : LoraSettings) : ℤ := 2 * (lowDataRate m.spreadingFactor m.bandwidth.hertz).toInt

/-- Bits that a coding block carries. -/
def perBlock (m : LoraSettings) : ℤ := max 1 (4 * (m.spreadingFactor.toNat - m.lost))

/-- The coding blocks of a frame: what is left, divided into blocks and rounded up, or none. -/
def blocks (m : LoraSettings) (bytes : ℕ) : ℕ := ⌈(m.spare bytes : ℚ) / m.perBlock⌉₊

/-- Microseconds on air: symbols times the chips in each, divided by the chips in a second. -/
def exactMicros (m : LoraSettings) (bytes : ℕ) : ℚ :=
  (m.preambleSymbols.toNat + 4.25 + 8 + m.blocks bytes * (m.codingRate.parityBits.toNat + 4)) *
    2 ^ m.spreadingFactor.toNat * 10 ^ 6 / m.bandwidth.hertz.toNat

end LoraSettings

/-- Microseconds on air: bits divided by the bits in a second. -/
def FskSettings.exactMicros (m : FskSettings) (bytes : ℕ) : ℚ :=
  8 * (m.preambleBytes.toNat + 3 + 1 + bytes + 2 * m.crc.toNat) * 10 ^ 6 / max 1 m.datarate.toNat

/-- The exact time on air of a frame with so many bytes of payload, in microseconds. -/
def Modulation.exactMicros : Modulation → ℕ → ℚ
  | .lora m => m.exactMicros
  | .fsk m => m.exactMicros

/-! ## The computation with its operations checked -/

namespace LoraSettings

open SignedWord in
/-- The bits that are left. -/
def spareBits? (m : LoraSettings) (bytes : UInt64) : Option Int64 :=
  sub? (add? (add? (sub? (mul? (some 8) (ofWord? (some bytes)))
    (mul? (some 4) (some (.ofNat m.spreadingFactor.toNat)))) (some 28))
    (some (if m.crc then 16 else 0))) (some (if m.implicitHeader then 20 else 0))

open SignedWord in
/-- The bits of a block. -/
def blockBits? (m : LoraSettings) : Option Int64 :=
  atLeastOne? (mul? (some 4) (sub? (some (.ofNat m.spreadingFactor.toNat))
    (some (if lowDataRate m.spreadingFactor m.bandwidth.hertz then 2 else 0))))

open SignedWord in
/-- The number of blocks. -/
def codingBlocks? (m : LoraSettings) (bytes : UInt64) : Option Int64 := do
  if 0 < (← m.spareBits? bytes) then
    div? (sub? (add? (m.spareBits? bytes) m.blockBits?) (some 1)) m.blockBits?
  else some 0

open Word in
/-- The quarters of a symbol. -/
def quarterSymbols? (m : LoraSettings) (bytes : UInt64) : Option UInt64 :=
  let symbols := add? (some 8) (mul? (ofSigned? (m.codingBlocks? bytes))
    (add? (some m.codingRate.parityBits.toUInt64) (some 4)))
  add? (add? (mul? (some 4) (some m.preambleSymbols.toUInt64)) (some 17)) (mul? (some 4) symbols)

open Word in
/-- The time on air. The products stop at the largest word and need no check. -/
def micros? (m : LoraSettings) (bytes : UInt64) : Option UInt64 := do
  let quarters ← m.quarterSymbols? bytes
  let chipsPerSecond ← mul? (some 4) (some m.bandwidth.hertz.toUInt64)
  return ceilDiv (times (times quarters m.chips) 1000000) chipsPerSecond

end LoraSettings

namespace FskSettings

open Word in
/-- The bytes on air. -/
def frameBytes? (m : FskSettings) (bytes : UInt64) : Option UInt64 :=
  add? (add? (add? (add? (some m.preambleBytes.toUInt64) (some syncBytes)) (some 1)) (some bytes))
    (some (if m.crc then 2 else 0))

open Word in
/-- The time on air. -/
def micros? (m : FskSettings) (bytes : UInt64) : Option UInt64 := do
  let bits ← mul? (mul? (some 8) (m.frameBytes? bytes)) (some 1000000)
  let rate := if m.datarate = 0 then 1 else m.datarate
  return ceilDiv bits rate.toUInt64

end FskSettings

/-- The time on air, if no operation on the way there leaves the range. -/
def Modulation.timeOnAir? (m : Modulation) (bytes : UInt64) : Option Span :=
  match m with
  | .lora settings => (settings.micros? bytes).map fun t => Span.clamp t.toNat
  | .fsk settings => (settings.micros? bytes).map fun t => Span.clamp t.toNat

/-! ## Rounding up and stopping -/

/-- Rounding up does not exceed what is large enough. -/
theorem ceil_div_le_iff {a b k : ℕ} (hb : 0 < b) : ⌈(a : ℚ) / b⌉₊ ≤ k ↔ a ≤ k * b := by
  have hpos : (0 : ℚ) < b := by exact_mod_cast hb
  rw [Nat.ceil_le, div_le_iff₀ hpos]
  norm_cast

/-- Rounding up does not fall below what is reached. -/
theorem le_ceil_div {a b k : ℕ} (hb : 0 < b) (h : k * b ≤ a) : k ≤ ⌈(a : ℚ) / b⌉₊ := by
  have hpos : (0 : ℚ) < b := by exact_mod_cast hb
  have hle : (k : ℚ) ≤ a / b := by
    rw [le_div_iff₀ hpos]
    exact_mod_cast h
  exact_mod_cast hle.trans (Nat.le_ceil _)

/-- Stopping before the division makes no difference where the quotient is large enough. -/
theorem min_ceil_div_min {a b limit top : ℕ} (hb : 0 < b) (h : limit * b ≤ top) :
    min ⌈((min a top : ℕ) : ℚ) / b⌉₊ limit = min ⌈(a : ℚ) / b⌉₊ limit := by
  rcases Nat.le_total a top with htop | htop
  · rw [min_eq_left htop]
  · rw [min_eq_right htop, min_eq_right (le_ceil_div hb h),
      min_eq_right (le_ceil_div hb (h.trans htop))]

/-- Stopping on the way makes no difference if one stops at the end. -/
theorem min_mul_min {a b limit : ℕ} (hb : 0 < b) :
    min (min a limit * b) limit = min (a * b) limit := by
  rcases Nat.le_total a limit with h | h
  · rw [min_eq_left h]
  · have hlimit : limit ≤ limit * b := Nat.le_mul_of_pos_right limit hb
    have hproduct : limit * b ≤ a * b := Nat.mul_le_mul_right b h
    rw [min_eq_right h, min_eq_right hlimit, min_eq_right (hlimit.trans hproduct)]

namespace Word

theorem toNat_times (a b : UInt64) : (times a b).toNat = min (a.toNat * b.toNat) (2 ^ 64 - 1) := by
  have hsize : UInt64.size = 2 ^ 64 := rfl
  rw [times]
  split
  next h =>
    rw [UInt64.toNat_mul, Nat.mod_eq_of_lt (by omega)]
    omega
  next h =>
    change 18446744073709551615 = _
    omega

theorem toNat_ceilDiv {a b : UInt64} (hb : 0 < b.toNat) :
    (ceilDiv a b).toNat = ⌈(a.toNat : ℚ) / b.toNat⌉₊ := by
  have hrest : a % b = 0 ↔ a.toNat % b.toNat = 0 := by
    rw [← UInt64.toNat_inj, UInt64.toNat_mod]
    rfl
  have ha := a.toNat_lt
  refine eq_of_forall_ge_iff fun k => ?_
  rw [ceil_div_le_iff hb, ceilDiv]
  split
  next h =>
    have hdvd : b.toNat ∣ a.toNat := Nat.dvd_of_mod_eq_zero (hrest.mp h)
    rw [UInt64.toNat_div, Nat.div_le_iff_le_mul_of_dvd (Nat.ne_of_gt hb) hdvd]
  next h =>
    have hnot : ¬b.toNat ∣ a.toNat := fun hdvd => h (hrest.mpr (Nat.mod_eq_zero_of_dvd hdvd))
    -- with a remainder the quotient is at most half of the range
    have htwo : 2 ≤ b.toNat := by
      by_contra hlt
      have hone : b.toNat = 1 := by omega
      exact hnot (hone ▸ one_dvd _)
    have hhalf : a.toNat / b.toNat ≤ a.toNat / 2 := Nat.div_le_div_left htwo Nat.two_pos
    have hsucc : (a / b + 1).toNat = a.toNat / b.toNat + 1 := by
      rw [UInt64.toNat_add, UInt64.toNat_div]
      exact Nat.mod_eq_of_lt (show a.toNat / b.toNat + 1 < 2 ^ 64 by omega)
    rw [hsucc, Nat.succ_le_iff, Nat.div_lt_iff_lt_mul hb]
    refine ⟨Nat.le_of_lt, fun hle => lt_of_le_of_ne hle ?_⟩
    rintro heq
    exact hnot (heq ▸ dvd_mul_left ..)

end Word

/-! ## LoRa, step by step -/

namespace LoraSettings

variable {m : LoraSettings} {bytes : UInt64}

theorem toInt_cases (flag : Bool) : flag.toInt = 0 ∨ flag.toInt = 1 := by
  cases flag <;> decide

theorem lost_cases (m : LoraSettings) : m.lost = 0 ∨ m.lost = 2 := by
  have hlow := toInt_cases (lowDataRate m.spreadingFactor m.bandwidth.hertz)
  rw [lost]
  omega

theorem one_le_perBlock (m : LoraSettings) : 1 ≤ m.perBlock := le_max_left ..

/-- So many blocks are enough if they carry all bits that are left. -/
theorem blocks_le_iff {bytes k : ℕ} : m.blocks bytes ≤ k ↔ m.spare bytes ≤ k * m.perBlock := by
  have hpos : (0 : ℚ) < m.perBlock := by exact_mod_cast m.one_le_perBlock
  rw [blocks, Nat.ceil_le, div_le_iff₀ hpos]
  norm_cast

open SignedWord in
theorem yields_factor (m : LoraSettings) : Yields (some (.ofNat m.spreadingFactor.toNat))
    (.ofNat m.spreadingFactor.toNat) m.spreadingFactor.toNat := by
  have hsf : m.spreadingFactor.toNat < 2 ^ 8 := m.spreadingFactor.toNat_lt
  exact ⟨rfl, Int64.toInt_ofNat_of_lt (by omega)⟩

open SignedWord in
theorem yields_spareBits (h : bytes.toNat ≤ 2 ^ 32) :
    Yields (m.spareBits? bytes) (m.spareBits bytes) (m.spare bytes.toNat) := by
  have hsf : m.spreadingFactor.toNat < 2 ^ 8 := m.spreadingFactor.toNat_lt
  have hcrc := toInt_cases m.crc
  have hheader := toInt_cases m.implicitHeader
  have eight : Yields (some 8) 8 8 := ⟨rfl, rfl⟩
  have payload : Yields (ofWord? (some bytes)) bytes.toInt64 bytes.toNat :=
    (Word.Yields.given bytes).toSigned (by omega)
  have four : Yields (some 4) 4 4 := ⟨rfl, rfl⟩
  have fixed : Yields (some 28) 28 28 := ⟨rfl, rfl⟩
  have crc : Yields (some (if m.crc then 16 else 0)) (if m.crc then 16 else 0)
      (16 * m.crc.toInt) := ⟨rfl, by cases m.crc <;> decide⟩
  have header : Yields (some (if m.implicitHeader then 20 else 0))
      (if m.implicitHeader then 20 else 0) (20 * m.implicitHeader.toInt) :=
    ⟨rfl, by cases m.implicitHeader <;> decide⟩
  have payloadBits := eight.mul payload (by omega) (by omega)
  have factorBits := four.mul m.yields_factor (by omega) (by omega)
  have left := payloadBits.sub factorBits (by omega) (by omega)
  have left := left.add fixed (by omega) (by omega)
  have left := left.add crc (by omega) (by omega)
  exact left.sub header (by omega) (by omega)

open SignedWord in
theorem yields_blockBits (m : LoraSettings) : Yields m.blockBits? m.blockBits m.perBlock := by
  have hsf : m.spreadingFactor.toNat < 2 ^ 8 := m.spreadingFactor.toNat_lt
  have hlost := m.lost_cases
  have four : Yields (some 4) 4 4 := ⟨rfl, rfl⟩
  have bit : ∀ low : Bool, Yields (some (if low then 2 else 0)) (if low then 2 else 0)
      (2 * low.toInt) := fun low => ⟨rfl, by cases low <;> decide⟩
  have lost : Yields _ _ m.lost := bit (lowDataRate m.spreadingFactor m.bandwidth.hertz)
  have left := m.yields_factor.sub lost (by omega) (by omega)
  exact (four.mul left (by omega) (by omega)).atLeastOne

/-- Rounding a quotient up by hand. -/
theorem blocks_eq (m : LoraSettings) (bytes : ℕ) : (m.blocks bytes : ℤ) =
    if 0 < m.spare bytes then (m.spare bytes + m.perBlock - 1).tdiv m.perBlock else 0 := by
  have hpos := m.one_le_perBlock
  split
  next hspare =>
    rw [Int.tdiv_eq_ediv_of_nonneg (by omega)]
    apply le_antisymm
    · have hnonneg : 0 ≤ (m.spare bytes + m.perBlock - 1) / m.perBlock :=
        Int.ediv_nonneg (by omega) (by omega)
      rw [← Int.le_toNat hnonneg, blocks_le_iff, Int.toNat_of_nonneg hnonneg]
      have hmod := Int.emod_lt_of_pos (m.spare bytes + m.perBlock - 1) (by omega : 0 < m.perBlock)
      have hdiv := Int.mul_ediv_add_emod (m.spare bytes + m.perBlock - 1) m.perBlock
      rw [mul_comm]
      omega
    · have henough := blocks_le_iff.mp (le_refl (m.blocks bytes))
      apply Int.le_of_lt_add_one
      apply Int.ediv_lt_of_lt_mul (by omega)
      rw [add_mul]
      omega
  next hspare =>
    have hnone : m.blocks bytes ≤ 0 := by
      rw [blocks_le_iff]
      omega
    omega

theorem perBlock_le (m : LoraSettings) : m.perBlock ≤ 2 ^ 10 := by
  have hsf : m.spreadingFactor.toNat < 2 ^ 8 := m.spreadingFactor.toNat_lt
  have hlost := m.lost_cases
  rw [perBlock]
  omega

theorem spare_le (m : LoraSettings) (bytes : ℕ) : m.spare bytes ≤ 8 * bytes + 44 := by
  have hcrc := toInt_cases m.crc
  have hheader := toInt_cases m.implicitHeader
  rw [spare]
  omega

/-- A block for each bit is more than enough. -/
theorem blocks_le (m : LoraSettings) (bytes : ℕ) : m.blocks bytes ≤ 8 * bytes + 44 := by
  rw [blocks_le_iff]
  calc m.spare bytes ≤ 8 * bytes + 44 := m.spare_le bytes
    _ = (8 * bytes + 44 : ℕ) * 1 := by norm_num
    _ ≤ (8 * bytes + 44 : ℕ) * m.perBlock :=
      mul_le_mul_of_nonneg_left m.one_le_perBlock (Int.natCast_nonneg _)

open SignedWord in
theorem yields_codingBlocks (h : bytes.toNat ≤ 2 ^ 32) :
    Yields (m.codingBlocks? bytes) (m.codingBlocks bytes) (m.blocks bytes.toNat) := by
  have spare := yields_spareBits (m := m) h
  have block := m.yields_blockBits
  have one : Yields (some 1) 1 1 := ⟨rfl, rfl⟩
  have hspare := m.spare_le bytes.toNat
  have hblock := m.perBlock_le
  have hone := m.one_le_perBlock
  have hblocks := m.blocks_le bytes.toNat
  have hpos : 0 < m.spareBits bytes ↔ 0 < m.spare bytes.toNat := by
    rw [Int64.lt_iff_toInt_lt, spare.toInt]
    rfl
  rw [codingBlocks?, codingBlocks, spare.answer, Option.bind_eq_bind, Option.bind_some,
    ← spare.answer]
  split
  next hleft =>
    have hexact := m.blocks_eq bytes.toNat
    rw [if_pos (hpos.mp hleft)] at hexact
    have hleft := hpos.mp hleft
    have more := (spare.add block (by omega) (by omega)).sub one (by omega) (by omega)
    rw [hexact]
    exact more.div block (by omega) (by omega) (by omega)
  next hleft =>
    refine ⟨rfl, ?_⟩
    rw [blocks_eq, if_neg (mt hpos.mpr hleft)]
    rfl

/-- The length of a frame in quarters of a symbol. -/
def quarters (m : LoraSettings) (bytes : ℕ) : ℕ :=
  4 * m.preambleSymbols.toNat + 17 + 4 * (8 + m.blocks bytes * (m.codingRate.parityBits.toNat + 4))

theorem hertz_bounds (w : Bandwidth) : 125000 ≤ w.hertz.toNat ∧ w.hertz.toNat ≤ 500000 := by
  cases w <;> decide

/-- What a time is divided by in the end. -/
theorem fourfold_hertz_pos (w : Bandwidth) : (0 : ℚ) < (4 * w.hertz.toNat : ℕ) := by
  have hertz := (hertz_bounds w).1
  exact_mod_cast (by omega : 0 < 4 * w.hertz.toNat)

theorem parityBits_le (r : CodingRate) : r.parityBits.toNat ≤ 4 := by
  cases r <;> decide

theorem codedSymbols_le (m : LoraSettings) (bytes : ℕ) :
    m.blocks bytes * (m.codingRate.parityBits.toNat + 4) ≤ 8 * (8 * bytes + 44) := by
  rw [Nat.mul_comm 8]
  exact Nat.mul_le_mul (m.blocks_le bytes) (by have := parityBits_le m.codingRate; omega)

open Word in
theorem yields_quarterSymbols (h : bytes.toNat ≤ 2 ^ 32) :
    Yields (m.quarterSymbols? bytes) (m.quarterSymbols bytes) (m.quarters bytes.toNat) := by
  have hpreamble : m.preambleSymbols.toNat < 2 ^ 16 := m.preambleSymbols.toNat_lt
  have hparity := parityBits_le m.codingRate
  have hsymbols := m.codedSymbols_le bytes.toNat
  have four : Yields (some 4) 4 4 := ⟨rfl, rfl⟩
  have eight : Yields (some 8) 8 8 := ⟨rfl, rfl⟩
  have fixed : Yields (some 17) 17 17 := ⟨rfl, rfl⟩
  have preamble : Yields (some m.preambleSymbols.toUInt64) m.preambleSymbols.toUInt64
      m.preambleSymbols.toNat := ⟨rfl, UInt16.toNat_toUInt64 _⟩
  have parity : Yields (some m.codingRate.parityBits.toUInt64) m.codingRate.parityBits.toUInt64
      m.codingRate.parityBits.toNat := ⟨rfl, UInt32.toNat_toUInt64 _⟩
  have blocks := (yields_codingBlocks (m := m) h).toWord (Int.natCast_nonneg _)
  rw [Int.toNat_natCast] at blocks
  have coded := blocks.mul (parity.add four (by omega)) (by omega)
  have payload := four.mul (eight.add coded (by omega)) (by omega)
  have sync := (four.mul preamble (by omega)).add fixed (by omega)
  exact sync.add payload (by omega)

/-- A quarter of a symbol in microseconds. -/
def quarterMicros (m : LoraSettings) : ℚ :=
  (2 ^ m.spreadingFactor.toNat * 10 ^ 6 : ℕ) / (4 * m.bandwidth.hertz.toNat : ℕ)

theorem exactMicros_eq (m : LoraSettings) (bytes : ℕ) :
    m.exactMicros bytes = m.quarters bytes * m.quarterMicros := by
  rw [exactMicros, quarters, quarterMicros]
  push_cast
  ring

theorem quarters_le (m : LoraSettings) (bytes : ℕ) :
    m.quarters bytes ≤ 32 * (8 * bytes + 44) + 262189 := by
  have hpreamble : m.preambleSymbols.toNat < 2 ^ 16 := m.preambleSymbols.toNat_lt
  have hsymbols := m.codedSymbols_le bytes
  rw [quarters]
  omega

theorem quarters_pos (m : LoraSettings) (bytes : ℕ) : 0 < m.quarters bytes := by
  rw [quarters]
  omega

theorem quarterMicros_pos (m : LoraSettings) : 0 < m.quarterMicros := by
  have hertz := fourfold_hertz_pos m.bandwidth
  rw [quarterMicros]
  positivity

theorem quarterMicros_le (h : m.spreadingFactor.toNat ≤ 12) : m.quarterMicros ≤ 2 ^ 13 := by
  have hertz := (hertz_bounds m.bandwidth).1
  have hchips : 2 ^ m.spreadingFactor.toNat ≤ 2 ^ 12 := Nat.pow_le_pow_right Nat.two_pos h
  rw [quarterMicros, div_le_iff₀ (fourfold_hertz_pos _)]
  exact_mod_cast (by omega :
    2 ^ m.spreadingFactor.toNat * 10 ^ 6 ≤ 2 ^ 13 * (4 * m.bandwidth.hertz.toNat))

theorem toNat_chips (m : LoraSettings) :
    m.chips.toNat = min (2 ^ m.spreadingFactor.toNat) (2 ^ 64 - 1) := by
  rw [chips]
  split
  next h =>
    have hlt : m.spreadingFactor.toNat < 64 := h
    have hpow : 2 ^ m.spreadingFactor.toNat < 2 ^ 64 := Nat.pow_lt_pow_right (by omega) hlt
    rw [UInt64.toNat_shiftLeft]
    change 1 <<< (m.spreadingFactor.toNat % 64) % 2 ^ 64 = _
    rw [Nat.mod_eq_of_lt hlt, Nat.one_shiftLeft, Nat.mod_eq_of_lt hpow]
    omega
  next h =>
    have hle : 64 ≤ m.spreadingFactor.toNat := Nat.le_of_not_lt h
    have hpow : 2 ^ 64 ≤ 2 ^ m.spreadingFactor.toNat := Nat.pow_le_pow_right (by omega) hle
    rw [min_eq_right (by omega)]
    rfl

open Word in
theorem yields_micros (h : bytes.toNat ≤ 2 ^ 32) :
    Yields (m.micros? bytes) (m.micros bytes)
      ⌈((min (m.quarters bytes.toNat * 2 ^ m.spreadingFactor.toNat * 10 ^ 6)
        (2 ^ 64 - 1) : ℕ) : ℚ) / (4 * m.bandwidth.hertz.toNat : ℕ)⌉₊ := by
  have hertz := hertz_bounds m.bandwidth
  have quarters := yields_quarterSymbols (m := m) h
  have four : Yields (some 4) 4 4 := ⟨rfl, rfl⟩
  have width : Yields (some m.bandwidth.hertz.toUInt64) m.bandwidth.hertz.toUInt64
      m.bandwidth.hertz.toNat := ⟨rfl, UInt32.toNat_toUInt64 _⟩
  have chipsPerSecond := four.mul width (by omega)
  have hproduct : (times (times (m.quarterSymbols bytes) m.chips) 1000000).toNat =
      min (m.quarters bytes.toNat * 2 ^ m.spreadingFactor.toNat * 10 ^ 6) (2 ^ 64 - 1) := by
    rw [toNat_times, toNat_times, quarters.toNat, toNat_chips, Nat.mul_comm (m.quarters _),
      min_mul_min (m.quarters_pos _), min_mul_min (by decide), Nat.mul_comm (m.quarters _)]
    rfl
  refine ⟨?_, ?_⟩
  · rw [micros?, quarters.answer, chipsPerSecond.answer]
    rfl
  · rw [micros, toNat_ceilDiv (by rw [chipsPerSecond.toNat]; omega), hproduct,
      chipsPerSecond.toNat]

theorem min_toNat_micros (h : bytes.toNat ≤ 2 ^ 32) :
    min (m.micros bytes).toNat (2 ^ 32 - 1) =
      min ⌈m.exactMicros bytes.toNat⌉₊ (2 ^ 32 - 1) := by
  have hertz := hertz_bounds m.bandwidth
  rw [(yields_micros h).toNat, min_ceil_div_min (by omega) (by omega), exactMicros_eq,
    quarterMicros, ← mul_div_assoc, mul_assoc]
  push_cast
  rfl

end LoraSettings

/-! ## FSK, step by step -/

namespace FskSettings

variable {m : FskSettings} {bytes : UInt64}

/-- The bytes on air. -/
def onAir (m : FskSettings) (bytes : ℕ) : ℕ :=
  m.preambleBytes.toNat + 3 + 1 + bytes + 2 * m.crc.toNat

theorem onAir_le (m : FskSettings) (bytes : ℕ) : m.onAir bytes ≤ bytes + 65541 := by
  have hpreamble : m.preambleBytes.toNat < 2 ^ 16 := m.preambleBytes.toNat_lt
  have hcrc : m.crc.toNat ≤ 1 := by cases m.crc <;> decide
  rw [onAir]
  omega

theorem exactMicros_eq (m : FskSettings) (bytes : ℕ) :
    m.exactMicros bytes = (8 * m.onAir bytes * 10 ^ 6 : ℕ) / (max 1 m.datarate.toNat : ℕ) := by
  rw [exactMicros, onAir]
  push_cast
  rfl

open Word in
theorem yields_frameBytes (h : bytes.toNat ≤ 2 ^ 32) :
    Yields (m.frameBytes? bytes) (m.frameBytes bytes) (m.onAir bytes.toNat) := by
  have hall := m.onAir_le bytes.toNat
  rw [onAir] at hall
  have preamble : Yields (some m.preambleBytes.toUInt64) m.preambleBytes.toUInt64
      m.preambleBytes.toNat := ⟨rfl, UInt16.toNat_toUInt64 _⟩
  have sync : Yields (some syncBytes) syncBytes 3 := ⟨rfl, rfl⟩
  have length : Yields (some 1) 1 1 := ⟨rfl, rfl⟩
  have crc : Yields (some (if m.crc then 2 else 0)) (if m.crc then 2 else 0)
      (2 * m.crc.toNat) := ⟨rfl, by cases m.crc <;> decide⟩
  have head := (preamble.add sync (by omega)).add length (by omega)
  exact (head.add (.given bytes) (by omega)).add crc (by omega)

open Word in
theorem yields_micros (h : bytes.toNat ≤ 2 ^ 32) :
    Yields (m.micros? bytes) (m.micros bytes) ⌈m.exactMicros bytes.toNat⌉₊ := by
  have hall := m.onAir_le bytes.toNat
  have eight : Yields (some 8) 8 8 := ⟨rfl, rfl⟩
  have million : Yields (some 1000000) 1000000 (10 ^ 6) := ⟨rfl, rfl⟩
  have bits := (eight.mul (yields_frameBytes (m := m) h) (by omega)).mul million (by omega)
  have rate : (if m.datarate = 0 then 1 else m.datarate).toUInt64.toNat =
      max 1 m.datarate.toNat := by
    rw [UInt32.toNat_toUInt64]
    split
    next hzero => rw [hzero]; rfl
    next hnot =>
      have hpos : m.datarate.toNat ≠ 0 := fun hzero => hnot (UInt32.toNat_inj.mp hzero)
      omega
  refine ⟨?_, ?_⟩
  · rw [micros?, bits.answer]
    rfl
  · rw [micros, toNat_ceilDiv (by rw [rate]; omega), bits.toNat, rate, exactMicros_eq]

end FskSettings

/-! ## Both -/

namespace Modulation

variable {m : Modulation} {bytes : UInt64}

theorem toNat_timeOnAir (m : Modulation) (h : bytes.toNat ≤ 2 ^ 32) :
    (m.timeOnAir bytes).toNat = min ⌈m.exactMicros bytes.toNat⌉₊ (2 ^ 32 - 1) := by
  cases m with
  | lora m => exact (Span.toNat_clamp _).trans (LoraSettings.min_toNat_micros h)
  | fsk m =>
    have hmicros := (FskSettings.yields_micros (m := m) h).toNat
    exact (Span.toNat_clamp _).trans (congrArg (min · (2 ^ 32 - 1)) hmicros)

theorem timeOnAir?_eq (m : Modulation) (h : bytes.toNat ≤ 2 ^ 32) :
    m.timeOnAir? bytes = some (m.timeOnAir bytes) := by
  cases m with
  | lora m => rw [timeOnAir?, (LoraSettings.yields_micros h).answer, Option.map_some]; rfl
  | fsk m => rw [timeOnAir?, (FskSettings.yields_micros h).answer, Option.map_some]; rfl

theorem exactMicros_pos (m : Modulation) (bytes : ℕ) : 0 < m.exactMicros bytes := by
  cases m with
  | lora m =>
    have hquarters : (0 : ℚ) < m.quarters bytes := by exact_mod_cast m.quarters_pos bytes
    rw [exactMicros, LoraSettings.exactMicros_eq]
    exact mul_pos hquarters m.quarterMicros_pos
  | fsk m =>
    rw [exactMicros, FskSettings.exactMicros]
    positivity

theorem isSupported_lora {m : LoraSettings} : (Modulation.lora m).isSupported ↔
    7 ≤ m.spreadingFactor.toNat ∧ m.spreadingFactor.toNat ≤ 12 := by
  rw [isSupported, Bool.and_eq_true, decide_eq_true_iff, decide_eq_true_iff, UInt8.le_iff_toNat_le,
    UInt8.le_iff_toNat_le]
  rfl

theorem isSupported_fsk {m : FskSettings} : (Modulation.fsk m).isSupported ↔
    500 ≤ m.datarate.toNat ∧ m.datarate.toNat ≤ 250000 := by
  rw [isSupported, Bool.and_eq_true, decide_eq_true_iff, decide_eq_true_iff, UInt32.le_iff_toNat_le,
    UInt32.le_iff_toNat_le]
  rfl

theorem exactMicros_le (hsupported : m.isSupported) {bytes : ℕ} (h : bytes ≤ 255) :
    m.exactMicros bytes ≤ (2 ^ 32 - 2 : ℕ) := by
  cases m with
  | lora m =>
    have hquarters : m.quarters bytes ≤ 328877 := (m.quarters_le bytes).trans (by omega)
    calc m.exactMicros bytes = m.quarters bytes * m.quarterMicros := m.exactMicros_eq bytes
      _ ≤ m.quarters bytes * 2 ^ 13 :=
        mul_le_mul_of_nonneg_left
          (LoraSettings.quarterMicros_le (isSupported_lora.mp hsupported).2) (Nat.cast_nonneg _)
      _ ≤ (2 ^ 32 - 2 : ℕ) := by exact_mod_cast (by omega : m.quarters bytes * 2 ^ 13 ≤ 2 ^ 32 - 2)
  | fsk m =>
    have hrate := (isSupported_fsk.mp hsupported).1
    have hall := m.onAir_le bytes
    have hpos : (0 : ℚ) < (max 1 m.datarate.toNat : ℕ) := by
      exact_mod_cast (by omega : 0 < max 1 m.datarate.toNat)
    rw [exactMicros, FskSettings.exactMicros_eq, div_le_iff₀ hpos]
    have hmost : 8 * m.onAir bytes * 10 ^ 6 ≤ (2 ^ 32 - 2) * 500 := by omega
    exact_mod_cast hmost.trans (Nat.mul_le_mul_left _ (by omega))

/-- The computed time on air is the exact one, rounded up and stopped at the longest span, for all
settings and up to four gigabytes. Nothing on the way there leaves its range. It is never nothing,
and what a radio supports with the payload of a frame stays below the longest span. -/
theorem timeOnAir_exact (m : Modulation) (h : bytes.toNat ≤ 2 ^ 32) :
    (m.timeOnAir bytes).toNat = min ⌈m.exactMicros bytes.toNat⌉₊ (2 ^ 32 - 1) ∧
      m.timeOnAir? bytes = some (m.timeOnAir bytes) ∧
      0 < m.timeOnAir bytes ∧
      (m.isSupported → bytes.toNat ≤ 255 → m.timeOnAir bytes < Span.longest) := by
  have hexact := m.toNat_timeOnAir h
  have hpos : 0 < ⌈m.exactMicros bytes.toNat⌉₊ := Nat.ceil_pos.mpr (m.exactMicros_pos _)
  refine ⟨hexact, m.timeOnAir?_eq h, ?_, fun hsupported hbytes => ?_⟩
  · exact UInt32.lt_iff_toNat_lt.mpr (show 0 < (m.timeOnAir bytes).toNat by omega)
  · have hceil := Nat.ceil_le.mpr (exactMicros_le hsupported hbytes)
    exact UInt32.lt_iff_toNat_lt.mpr (show (m.timeOnAir bytes).toNat < 2 ^ 32 - 1 by omega)

/-- The slowest rate with the longest preamble and a full frame is on air for 36 minutes. At a rate
that no radio has a symbol is longer than time can be told. -/
theorem timeOnAir_exact_slowest :
    let slowest := Modulation.lora ⟨12, .khz125, .fourEighths, 65535, false, true⟩
    let beyond := Modulation.lora ⟨255, .khz125, .fourEighths, 65535, false, true⟩
    slowest.isSupported ∧ ⌈slowest.exactMicros 255⌉₊ = 2161221632 ∧
      slowest.timeOnAir? 255 = some 2161221632 ∧
      (2161221632 : Span) < Span.longest ∧
      2 ^ 32 - 1 ≤ ⌈beyond.exactMicros (2 ^ 32)⌉₊ ∧
      beyond.timeOnAir? 4294967296 = some Span.longest := by
  intro slowest beyond
  have hslow : slowest.timeOnAir 255 = 2161221632 := by decide +kernel
  have hbeyond : beyond.timeOnAir 4294967296 = Span.longest := by decide +kernel
  obtain ⟨hexact, hchecked, -, hbelow⟩ :=
    timeOnAir_exact slowest (show (255 : UInt64).toNat ≤ 2 ^ 32 by decide)
  obtain ⟨hsaturated, hfits, -⟩ :=
    timeOnAir_exact beyond (show (4294967296 : UInt64).toNat ≤ 2 ^ 32 by decide)
  have hbelow := hbelow (by decide) (by decide)
  rw [hslow] at hexact hchecked hbelow
  rw [hbeyond] at hsaturated hfits
  change 2161221632 = min ⌈slowest.exactMicros 255⌉₊ (2 ^ 32 - 1) at hexact
  change 2 ^ 32 - 1 = min ⌈beyond.exactMicros (2 ^ 32)⌉₊ (2 ^ 32 - 1) at hsaturated
  exact ⟨by decide, by omega, hchecked, hbelow, by omega, hfits⟩

/-- The bits of so large a payload are not a signed word. -/
example : (loraDownlink 7 .khz125).timeOnAir? 1152921504606846976 = none := by decide +kernel

end Modulation

end Downlink
