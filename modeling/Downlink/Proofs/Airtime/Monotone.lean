import Downlink.Proofs.Airtime.Formula

/-!
# How the time on air moves with the settings

Each setting moves the time on air one way (`LoraSettings.Graded`, `FskSettings.Graded`). For most
of them the exact time moves that way, and rounding up keeps it. Where the time on air moves
strictly, the exact time moves by a microsecond at least, which rounding up cannot hide.

The spreading factor and the bandwidth need more. The next spreading factor makes each symbol twice
as long, but a block then carries more bits and fewer are left for the blocks. At least half of the
blocks, rounded down, are still there (`LoraSettings.blocks_le_twice`), and what was rounded off is
shorter than the symbols that every frame has. A wider channel makes each symbol half as long, and
the blocks no more.
-/

namespace Downlink

/-! ## From the exact time to the time on air -/

namespace Modulation

variable {m n : Modulation} {bytes more : UInt64}

theorem timeOnAir_le (hbytes : bytes.toNat ≤ 2 ^ 32) (hmore : more.toNat ≤ 2 ^ 32)
    (h : m.exactMicros bytes.toNat ≤ n.exactMicros more.toNat) :
    m.timeOnAir bytes ≤ n.timeOnAir more := by
  rw [UInt32.le_iff_toNat_le, toNat_timeOnAir m hbytes, toNat_timeOnAir n hmore]
  exact min_le_min_right _ (Nat.ceil_le_ceil h)

/-- A microsecond more is not lost to the rounding, and nor is it to the longest span. -/
theorem timeOnAir_lt (hbytes : bytes.toNat ≤ 255) (hsupported : n.isSupported)
    (h : m.exactMicros bytes.toNat + 1 ≤ n.exactMicros bytes.toNat) :
    m.timeOnAir bytes < n.timeOnAir bytes := by
  have hceil : ⌈m.exactMicros bytes.toNat⌉₊ + 1 ≤ ⌈n.exactMicros bytes.toNat⌉₊ := by
    rw [← Nat.ceil_add_one (m.exactMicros_pos _).le]
    exact Nat.ceil_le_ceil h
  have hbelow := Nat.ceil_le.mpr (exactMicros_le hsupported hbytes)
  rw [UInt32.lt_iff_toNat_lt, toNat_timeOnAir m (by omega), toNat_timeOnAir n (by omega)]
  omega

end Modulation

/-! ## LoRa -/

namespace LoraSettings

variable {m n : LoraSettings} {bytes more : ℕ}

theorem blocks_mono (hspare : m.spare bytes ≤ n.spare more) (hblock : n.perBlock ≤ m.perBlock) :
    m.blocks bytes ≤ n.blocks more := by
  rw [blocks_le_iff]
  calc m.spare bytes ≤ n.spare more := hspare
    _ ≤ n.blocks more * n.perBlock := blocks_le_iff.mp le_rfl
    _ ≤ n.blocks more * m.perBlock := mul_le_mul_of_nonneg_left hblock (Int.natCast_nonneg _)

theorem quarters_mono (hpreamble : m.preambleSymbols.toNat ≤ n.preambleSymbols.toNat)
    (hrate : m.codingRate.parityBits.toNat ≤ n.codingRate.parityBits.toNat)
    (hblocks : m.blocks bytes ≤ n.blocks more) : m.quarters bytes ≤ n.quarters more := by
  have hsymbols := Nat.mul_le_mul hblocks (Nat.add_le_add_right hrate 4)
  rw [quarters, quarters]
  omega

/-- With the same symbols the exact time grows with all that is in a frame. -/
theorem exactMicros_mono (hfactor : m.spreadingFactor = n.spreadingFactor)
    (hwidth : m.bandwidth = n.bandwidth)
    (hpreamble : m.preambleSymbols.toNat ≤ n.preambleSymbols.toNat)
    (hrate : m.codingRate.parityBits.toNat ≤ n.codingRate.parityBits.toNat)
    (hheader : n.implicitHeader ≤ m.implicitHeader) (hcrc : m.crc ≤ n.crc) (hbytes : bytes ≤ more) :
    m.exactMicros bytes ≤ n.exactMicros more := by
  have htoInt : ∀ a b : Bool, a ≤ b → a.toInt ≤ b.toInt := by decide
  have hheader := htoInt _ _ hheader
  have hcrc := htoInt _ _ hcrc
  have hspare : m.spare bytes ≤ n.spare more := by
    rw [spare, spare, hfactor]
    omega
  have hblock : n.perBlock = m.perBlock := by rw [perBlock, perBlock, lost, lost, hfactor, hwidth]
  have hmicros : n.quarterMicros = m.quarterMicros := by
    rw [quarterMicros, quarterMicros, hfactor, hwidth]
  have hquarters : m.quarters bytes ≤ n.quarters more :=
    quarters_mono hpreamble hrate (blocks_mono hspare hblock.le)
  rw [exactMicros_eq, exactMicros_eq, hmicros]
  exact mul_le_mul_of_nonneg_right (by exact_mod_cast hquarters) m.quarterMicros_pos.le

theorem one_le_quarterMicros (h : 7 ≤ m.spreadingFactor.toNat) : 1 ≤ m.quarterMicros := by
  have hertz := hertz_bounds m.bandwidth
  have hchips : 2 ^ 7 ≤ 2 ^ m.spreadingFactor.toNat := Nat.pow_le_pow_right Nat.two_pos h
  rw [quarterMicros, le_div_iff₀ (fourfold_hertz_pos _)]
  exact_mod_cast (by omega :
    1 * (4 * m.bandwidth.hertz.toNat) ≤ 2 ^ m.spreadingFactor.toNat * 10 ^ 6)

/-- A quarter of a symbol more is a microsecond more. -/
theorem exactMicros_add_one_le (h : 7 ≤ m.spreadingFactor.toNat) (bytes : ℕ) :
    m.exactMicros bytes + 1 ≤ (m.quarters bytes + 1 : ℕ) * m.quarterMicros := by
  calc m.exactMicros bytes + 1 ≤ m.quarters bytes * m.quarterMicros + m.quarterMicros :=
        add_le_add (m.exactMicros_eq bytes).le (one_le_quarterMicros h)
    _ = (m.quarters bytes + 1 : ℕ) * m.quarterMicros := by push_cast; ring

/-! ## The low data rate mode -/

theorem lowDataRate_khz125 (factor : UInt8) :
    lowDataRate factor Bandwidth.khz125.hertz = decide (11 ≤ factor) := by
  simp [lowDataRate, Bandwidth.hertz]

theorem lowDataRate_khz250 (factor : UInt8) :
    lowDataRate factor Bandwidth.khz250.hertz = (factor == 12) := by
  simp [lowDataRate, Bandwidth.hertz]

theorem lowDataRate_khz500 (factor : UInt8) :
    lowDataRate factor Bandwidth.khz500.hertz = false := by
  simp [lowDataRate, Bandwidth.hertz]

/-- It stays on with the next spreading factor. -/
theorem lowDataRate_succ {factor : UInt8} {width : Bandwidth} (h : factor.toNat ≤ 11)
    (hlow : lowDataRate factor width.hertz) : lowDataRate (factor + 1) width.hertz := by
  cases width with
  | khz125 =>
    rw [lowDataRate_khz125, decide_eq_true_iff, UInt8.le_iff_toNat_le] at hlow
    have heleven : factor = 11 := UInt8.toNat_inj.mp (le_antisymm h hlow)
    rw [heleven]
    decide
  | khz250 =>
    rw [lowDataRate_khz250, beq_iff_eq] at hlow
    rw [hlow] at h
    exact absurd h (by decide)
  | khz500 =>
    rw [lowDataRate_khz500] at hlow
    cases hlow

/-- It stays on in a narrower channel. -/
theorem lowDataRate_narrower {factor : UInt8} {narrow wide : Bandwidth}
    (h : narrow.hertz < wide.hertz) (hlow : lowDataRate factor wide.hertz) :
    lowDataRate factor narrow.hertz := by
  cases wide with
  | khz125 => cases narrow <;> exact absurd h (by decide)
  | khz250 =>
    rw [lowDataRate_khz250, beq_iff_eq] at hlow
    rw [hlow]
    cases narrow with
    | khz125 => decide
    | khz250 => decide
    | khz500 => exact absurd h (by decide)
  | khz500 =>
    rw [lowDataRate_khz500] at hlow
    cases hlow

theorem lost_mono (h : lowDataRate m.spreadingFactor m.bandwidth.hertz →
    lowDataRate n.spreadingFactor n.bandwidth.hertz) : m.lost ≤ n.lost := by
  have hle : ∀ a b : Bool, (a → b) → 2 * a.toInt ≤ 2 * b.toInt := by decide
  exact hle _ _ h

theorem perBlock_eq (h : 7 ≤ m.spreadingFactor.toNat) :
    m.perBlock = 4 * (m.spreadingFactor.toNat - m.lost) := by
  have hlost := m.lost_cases
  rw [perBlock]
  omega

/-! ## The next spreading factor -/

/-- The same settings with the next spreading factor. -/
def nextFactor (m : LoraSettings) : LoraSettings :=
  { m with spreadingFactor := m.spreadingFactor + 1 }

theorem toNat_nextFactor (h : m.spreadingFactor.toNat ≤ 11) :
    m.nextFactor.spreadingFactor.toNat = m.spreadingFactor.toNat + 1 := by
  change (m.spreadingFactor + 1).toNat = _
  rw [UInt8.toNat_add]
  change (m.spreadingFactor.toNat + 1) % 2 ^ 8 = _
  omega

theorem spare_nextFactor (h : m.spreadingFactor.toNat ≤ 11) (bytes : ℕ) :
    m.spare bytes = m.nextFactor.spare bytes + 4 := by
  rw [spare, spare, toNat_nextFactor h]
  change _ = 8 * _ - 4 * _ + 28 + 16 * m.crc.toInt - 20 * m.implicitHeader.toInt + 4
  push_cast
  ring

/-- A block of the next spreading factor carries at most four bits more, so there are at least half
as many blocks, less one. -/
theorem blocks_le_twice (hlow : 7 ≤ m.spreadingFactor.toNat) (hhigh : m.spreadingFactor.toNat ≤ 11)
    (bytes : ℕ) : m.blocks bytes ≤ 2 * m.nextFactor.blocks bytes + 1 := by
  have hfactor := toNat_nextFactor hhigh
  have hlost := lost_mono (n := m.nextFactor) (lowDataRate_succ hhigh)
  have hblock : 20 ≤ m.perBlock := by
    have := m.lost_cases
    rw [perBlock_eq hlow]
    omega
  have hnext : m.nextFactor.perBlock ≤ m.perBlock + 4 := by
    rw [perBlock_eq hlow, perBlock_eq (by omega), hfactor]
    push_cast
    omega
  rw [blocks_le_iff]
  have hcount : (0 : ℤ) ≤ m.nextFactor.blocks bytes := Int.natCast_nonneg _
  push_cast
  calc m.spare bytes = m.nextFactor.spare bytes + 4 := spare_nextFactor hhigh bytes
    _ ≤ m.nextFactor.blocks bytes * m.nextFactor.perBlock + 4 :=
      Int.add_le_add_right (blocks_le_iff.mp le_rfl) 4
    _ ≤ m.nextFactor.blocks bytes * (2 * m.perBlock) + m.perBlock :=
      add_le_add (mul_le_mul_of_nonneg_left (by omega) hcount) (by omega)
    _ = (2 * m.nextFactor.blocks bytes + 1) * m.perBlock := by ring

theorem quarterMicros_nextFactor (h : m.spreadingFactor.toNat ≤ 11) :
    m.nextFactor.quarterMicros = 2 * m.quarterMicros := by
  rw [quarterMicros, quarterMicros, toNat_nextFactor h, pow_succ]
  change ((_ : ℕ) : ℚ) / (4 * m.bandwidth.hertz.toNat : ℕ) = _
  push_cast
  ring

/-- What the blocks lose is less than the preamble gains. -/
theorem quarters_lt_twice (hlow : 7 ≤ m.spreadingFactor.toNat)
    (hhigh : m.spreadingFactor.toNat ≤ 11) (bytes : ℕ) :
    m.quarters bytes + 1 ≤ 2 * m.nextFactor.quarters bytes := by
  have hparity := parityBits_le m.codingRate
  have hblocks := Nat.mul_le_mul_right (m.codingRate.parityBits.toNat + 4)
    (blocks_le_twice hlow hhigh bytes)
  rw [quarters, quarters]
  change _ ≤ 2 * (4 * m.preambleSymbols.toNat + 17 +
    4 * (8 + m.nextFactor.blocks bytes * (m.codingRate.parityBits.toNat + 4)))
  rw [add_mul, mul_assoc, one_mul] at hblocks
  omega

/-! ## A wider channel -/

/-- The same settings in another channel. -/
def inChannel (m : LoraSettings) (width : Bandwidth) : LoraSettings :=
  { m with bandwidth := width }

theorem hertz_of_lt {narrow wide : Bandwidth} (h : narrow.hertz < wide.hertz) :
    2 * narrow.hertz.toNat ≤ wide.hertz.toNat := by
  cases narrow <;> cases wide <;> first | decide | exact absurd h (by decide)

theorem quarterMicros_wider {wide : Bandwidth} (h : m.bandwidth.hertz < wide.hertz) :
    2 * (m.inChannel wide).quarterMicros ≤ m.quarterMicros := by
  have hpos := fourfold_hertz_pos m.bandwidth
  have htwice : 2 * (4 * m.bandwidth.hertz.toNat) ≤ 4 * wide.hertz.toNat := by
    have := hertz_of_lt h
    omega
  have htwice : 2 * ((4 * m.bandwidth.hertz.toNat : ℕ) : ℚ) ≤ (4 * wide.hertz.toNat : ℕ) := by
    exact_mod_cast htwice
  rw [quarterMicros, quarterMicros]
  change 2 * (((2 ^ m.spreadingFactor.toNat * 10 ^ 6 : ℕ) : ℚ) / (4 * wide.hertz.toNat : ℕ)) ≤ _
  generalize 2 ^ m.spreadingFactor.toNat * 10 ^ 6 = chips
  calc 2 * ((chips : ℚ) / (4 * wide.hertz.toNat : ℕ))
      ≤ 2 * (chips / (2 * (4 * m.bandwidth.hertz.toNat : ℕ))) := by gcongr
    _ = chips / (4 * m.bandwidth.hertz.toNat : ℕ) := by
      field_simp

/-- The blocks carry as many bits in a wider channel, or more. -/
theorem quarters_wider {wide : Bandwidth} (hlow : 7 ≤ m.spreadingFactor.toNat)
    (h : m.bandwidth.hertz < wide.hertz) (bytes : ℕ) :
    (m.inChannel wide).quarters bytes ≤ m.quarters bytes := by
  have hlost : (m.inChannel wide).lost ≤ m.lost := lost_mono (lowDataRate_narrower h)
  have hblock : m.perBlock ≤ (m.inChannel wide).perBlock := by
    rw [perBlock_eq hlow, perBlock_eq (m := m.inChannel wide) hlow]
    change _ ≤ 4 * (m.spreadingFactor.toNat - (m.inChannel wide).lost)
    omega
  exact quarters_mono (m := m.inChannel wide) (n := m) le_rfl le_rfl (blocks_mono le_rfl hblock)

/-! ## All settings of LoRa -/

open Modulation (lora)

/-- How the time on air of a frame with so many bytes moves with each of its settings, the others
being what they are. -/
structure Graded (m : LoraSettings) (bytes : UInt64) : Prop where
  /-- fewer bytes do not take longer -/
  payload : ∀ fewer ≤ bytes, (lora m).timeOnAir fewer ≤ (lora m).timeOnAir bytes
  /-- more parity bits are not faster -/
  codingRate : ∀ rate : CodingRate, m.codingRate.parityBits ≤ rate.parityBits →
    (lora m).timeOnAir bytes ≤ (lora { m with codingRate := rate }).timeOnAir bytes
  /-- leaving the header out does not take longer -/
  header : (lora { m with implicitHeader := true }).timeOnAir bytes ≤
    (lora { m with implicitHeader := false }).timeOnAir bytes
  /-- a checksum is not faster -/
  crc : (lora { m with crc := false }).timeOnAir bytes ≤
    (lora { m with crc := true }).timeOnAir bytes
  /-- a longer preamble takes longer -/
  preamble : ∀ symbols, m.preambleSymbols < symbols →
    (lora m).timeOnAir bytes < (lora { m with preambleSymbols := symbols }).timeOnAir bytes
  /-- the next spreading factor takes longer -/
  spreadingFactor : m.spreadingFactor ≤ 11 →
    (lora m).timeOnAir bytes < (lora m.nextFactor).timeOnAir bytes
  /-- a wider channel is faster -/
  bandwidth : ∀ wide : Bandwidth, m.bandwidth.hertz < wide.hertz →
    (lora (m.inChannel wide)).timeOnAir bytes < (lora m).timeOnAir bytes

theorem exactMicros_preamble {symbols : UInt16} (hlow : 7 ≤ m.spreadingFactor.toNat)
    (h : m.preambleSymbols < symbols) (bytes : ℕ) :
    m.exactMicros bytes + 1 ≤ { m with preambleSymbols := symbols }.exactMicros bytes := by
  have hlonger : m.quarters bytes + 1 ≤ { m with preambleSymbols := symbols }.quarters bytes := by
    have hsymbols := UInt16.lt_iff_toNat_lt.mp h
    rw [quarters, quarters]
    change _ ≤ 4 * symbols.toNat + 17 +
      4 * (8 + m.blocks bytes * (m.codingRate.parityBits.toNat + 4))
    omega
  rw [exactMicros_eq { m with preambleSymbols := symbols }]
  exact (exactMicros_add_one_le hlow bytes).trans
    (mul_le_mul_of_nonneg_right (by exact_mod_cast hlonger) m.quarterMicros_pos.le)

theorem exactMicros_nextFactor (hlow : 7 ≤ m.spreadingFactor.toNat)
    (hhigh : m.spreadingFactor.toNat ≤ 11) (bytes : ℕ) :
    m.exactMicros bytes + 1 ≤ m.nextFactor.exactMicros bytes := by
  have hlonger : ((m.quarters bytes + 1 : ℕ) : ℚ) ≤ (2 * m.nextFactor.quarters bytes : ℕ) := by
    exact_mod_cast quarters_lt_twice hlow hhigh bytes
  calc m.exactMicros bytes + 1 ≤ (m.quarters bytes + 1 : ℕ) * m.quarterMicros :=
        exactMicros_add_one_le hlow bytes
    _ ≤ (2 * m.nextFactor.quarters bytes : ℕ) * m.quarterMicros :=
        mul_le_mul_of_nonneg_right hlonger m.quarterMicros_pos.le
    _ = m.nextFactor.quarters bytes * m.nextFactor.quarterMicros := by
        rw [quarterMicros_nextFactor hhigh]
        push_cast
        ring
    _ = m.nextFactor.exactMicros bytes := (exactMicros_eq _ bytes).symm

theorem exactMicros_wider {wide : Bandwidth} (hlow : 7 ≤ m.spreadingFactor.toNat)
    (h : m.bandwidth.hertz < wide.hertz) (bytes : ℕ) :
    (m.inChannel wide).exactMicros bytes + 1 ≤ m.exactMicros bytes := by
  have hshorter : (m.inChannel wide).quarters bytes + 1 ≤ 2 * m.quarters bytes := by
    have hle := quarters_wider hlow h bytes
    have hpos := m.quarters_pos bytes
    omega
  have hshorter : (((m.inChannel wide).quarters bytes + 1 : ℕ) : ℚ) ≤
      (2 * m.quarters bytes : ℕ) := by
    exact_mod_cast hshorter
  calc (m.inChannel wide).exactMicros bytes + 1
      ≤ ((m.inChannel wide).quarters bytes + 1 : ℕ) * (m.inChannel wide).quarterMicros :=
        exactMicros_add_one_le (m := m.inChannel wide) hlow bytes
    _ ≤ (2 * m.quarters bytes : ℕ) * (m.inChannel wide).quarterMicros :=
        mul_le_mul_of_nonneg_right hshorter (quarterMicros_pos _).le
    _ = m.quarters bytes * (2 * (m.inChannel wide).quarterMicros) := by
        push_cast
        ring
    _ ≤ m.quarters bytes * m.quarterMicros :=
        mul_le_mul_of_nonneg_left (quarterMicros_wider h) (Nat.cast_nonneg _)
    _ = m.exactMicros bytes := (m.exactMicros_eq bytes).symm

theorem graded {m : LoraSettings} (hsupported : (lora m).isSupported) {bytes : UInt64}
    (hbytes : bytes.toNat ≤ 255) : m.Graded bytes := by
  obtain ⟨hlow, hhigh⟩ := Modulation.isSupported_lora.mp hsupported
  have hfits : bytes.toNat ≤ 2 ^ 32 := by omega
  have hflag : false ≤ true := by decide
  constructor
  case payload =>
    intro fewer h
    have hfewer := UInt64.le_iff_toNat_le.mp h
    exact Modulation.timeOnAir_le (hfewer.trans hfits) hfits
      (exactMicros_mono rfl rfl le_rfl le_rfl le_rfl le_rfl hfewer)
  case codingRate =>
    intro rate h
    have hrate := UInt32.le_iff_toNat_le.mp h
    exact Modulation.timeOnAir_le hfits hfits (exactMicros_mono
      (n := { m with codingRate := rate }) rfl rfl le_rfl hrate le_rfl le_rfl le_rfl)
  case header =>
    exact Modulation.timeOnAir_le hfits hfits
      (exactMicros_mono (m := { m with implicitHeader := true })
        (n := { m with implicitHeader := false }) rfl rfl le_rfl le_rfl hflag le_rfl le_rfl)
  case crc =>
    exact Modulation.timeOnAir_le hfits hfits
      (exactMicros_mono (m := { m with crc := false })
        (n := { m with crc := true }) rfl rfl le_rfl le_rfl le_rfl hflag le_rfl)
  case preamble =>
    intro symbols h
    have hsame : (lora { m with preambleSymbols := symbols }).isSupported := hsupported
    exact Modulation.timeOnAir_lt hbytes hsame (exactMicros_preamble hlow h _)
  case spreadingFactor =>
    intro h
    have hhigh : m.spreadingFactor.toNat ≤ 11 := UInt8.le_iff_toNat_le.mp h
    have hnext : (lora m.nextFactor).isSupported := by
      rw [Modulation.isSupported_lora, toNat_nextFactor hhigh]
      omega
    exact Modulation.timeOnAir_lt hbytes hnext (exactMicros_nextFactor hlow hhigh _)
  case bandwidth =>
    intro wide h
    exact Modulation.timeOnAir_lt hbytes hsupported (exactMicros_wider hlow h _)

end LoraSettings

/-! ## FSK -/

namespace FskSettings

open Modulation (fsk)

/-- How the time on air of a frame with so many bytes moves with each of its settings, the others
being what they are. -/
structure Graded (m : FskSettings) (bytes : UInt64) : Prop where
  /-- fewer bytes do not take longer -/
  payload : ∀ fewer ≤ bytes, (fsk m).timeOnAir fewer ≤ (fsk m).timeOnAir bytes
  /-- a longer preamble is not faster -/
  preamble : ∀ long, m.preambleBytes ≤ long →
    (fsk m).timeOnAir bytes ≤ (fsk { m with preambleBytes := long }).timeOnAir bytes
  /-- a checksum is not faster -/
  crc : (fsk { m with crc := false }).timeOnAir bytes ≤
    (fsk { m with crc := true }).timeOnAir bytes
  /-- a higher rate does not take longer -/
  datarate : ∀ rate, m.datarate ≤ rate →
    (fsk { m with datarate := rate }).timeOnAir bytes ≤ (fsk m).timeOnAir bytes

/-- The exact time grows with all that is in a frame, and shrinks with the rate. -/
theorem exactMicros_mono {m n : FskSettings} {bytes more : ℕ}
    (hrate : n.datarate.toNat ≤ m.datarate.toNat)
    (hpreamble : m.preambleBytes.toNat ≤ n.preambleBytes.toNat) (hcrc : m.crc ≤ n.crc)
    (hbytes : bytes ≤ more) : m.exactMicros bytes ≤ n.exactMicros more := by
  have htoNat : ∀ a b : Bool, a ≤ b → a.toNat ≤ b.toNat := by decide
  have hcrc := htoNat _ _ hcrc
  have honAir : m.onAir bytes ≤ n.onAir more := by
    rw [onAir, onAir]
    omega
  rw [exactMicros_eq, exactMicros_eq]
  gcongr

theorem graded (m : FskSettings) {bytes : UInt64} (hbytes : bytes.toNat ≤ 255) :
    m.Graded bytes := by
  have hfits : bytes.toNat ≤ 2 ^ 32 := by omega
  have hflag : false ≤ true := by decide
  constructor
  case payload =>
    intro fewer h
    have hfewer := UInt64.le_iff_toNat_le.mp h
    exact Modulation.timeOnAir_le (hfewer.trans hfits) hfits
      (exactMicros_mono le_rfl le_rfl le_rfl hfewer)
  case preamble =>
    intro long h
    have hlong := UInt16.le_iff_toNat_le.mp h
    exact Modulation.timeOnAir_le hfits hfits
      (exactMicros_mono (n := { m with preambleBytes := long }) le_rfl hlong le_rfl le_rfl)
  case crc =>
    exact Modulation.timeOnAir_le hfits hfits
      (exactMicros_mono (m := { m with crc := false }) (n := { m with crc := true }) le_rfl le_rfl
        hflag le_rfl)
  case datarate =>
    intro rate h
    have hrate := UInt32.le_iff_toNat_le.mp h
    exact Modulation.timeOnAir_le hfits hfits
      (exactMicros_mono (m := { m with datarate := rate }) hrate le_rfl le_rfl le_rfl)

end FskSettings

/-! ## Both -/

namespace Modulation

/-- How the time on air of a frame with so many bytes moves with each of its settings. -/
def Graded : Modulation → UInt64 → Prop
  | .lora m => m.Graded
  | .fsk m => m.Graded

/-- With settings that a radio supports, each of them moves the time on air of a frame one way. -/
theorem timeOnAir_graded {m : Modulation} (hsupported : m.isSupported) {bytes : UInt64}
    (hbytes : bytes.toNat ≤ 255) : m.Graded bytes := by
  cases m with
  | lora m => exact LoraSettings.graded hsupported hbytes
  | fsk m => exact m.graded hbytes

/-- From the tenth spreading factor to the next the low data rate mode begins, and the blocks are
more. From there to the last they are fewer. -/
theorem timeOnAir_graded_low_rate :
    let ten : LoraSettings := ⟨10, .khz125, .fourEighths, 8, false, true⟩
    let eleven := ten.nextFactor
    let fast : FskSettings := ⟨50000, 5, true⟩
    (lora ten).isSupported ∧ (lora eleven).isSupported ∧ (fsk fast).isSupported ∧
      ten.codingBlocks 255 = 52 ∧ eleven.codingBlocks 255 = 57 ∧
      eleven.nextFactor.codingBlocks 255 = 51 ∧
      (lora ten).timeOnAir 255 < (lora eleven).timeOnAir 255 ∧
      (lora eleven).timeOnAir 255 < (lora eleven.nextFactor).timeOnAir 255 ∧
      (lora (eleven.inChannel .khz250)).timeOnAir 255 < (lora eleven).timeOnAir 255 ∧
      (fsk fast).timeOnAir 40 ≤ (fsk fast).timeOnAir 255 := by
  intro ten eleven fast
  have hbytes : (255 : UInt64).toNat ≤ 255 := by decide
  have hten : (lora ten).Graded 255 := timeOnAir_graded (by decide) hbytes
  have heleven : (lora eleven).Graded 255 := timeOnAir_graded (by decide) hbytes
  have hfast : (fsk fast).Graded 255 := timeOnAir_graded (by decide) hbytes
  exact ⟨by decide, by decide, by decide, by decide +kernel, by decide +kernel, by decide +kernel,
    hten.spreadingFactor (by decide), heleven.spreadingFactor (by decide),
    heleven.bandwidth .khz250 (by decide), hfast.payload 40 (by decide)⟩

end Modulation

end Downlink
