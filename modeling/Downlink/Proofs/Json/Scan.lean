import Downlink.Json.Token
import Mathlib.Data.List.Chain

/-!
# Scanning what was written

Tokens that are written one after another, with any blanks around them, can be cut apart again, as
long as no two atoms stand next to each other (`Spells.scan`). Punctuation and names end by
themselves, and a string literal at its closing quote. A number goes on for as long as its grammar
allows, so the text behind it must not begin with a character that would continue a number; blanks
and punctuation do not.
-/

namespace Downlink

namespace Json

variable {cs rest : List Char}

/-! ## Numbers -/

/-- Whether a number may go on with this character. -/
def continuesNumber (c : Char) : Bool := c.isDigit || c == '.' || c == 'e' || c == 'E'

/-- The text does not continue a number in front of it. -/
def EndsNumber (rest : List Char) : Prop := ∀ c ∈ rest.head?, continuesNumber c = false

/-- The text does not continue the digits in front of it. -/
def EndsDigits (rest : List Char) : Prop := ∀ c ∈ rest.head?, c.isDigit = false

theorem EndsNumber.endsDigits (h : EndsNumber rest) : EndsDigits rest := by
  intro c hc
  have := h c hc
  simp only [continuesNumber, Bool.or_eq_false_iff] at this
  exact this.1.1.1

theorem decimal_writeNat (n : Nat) : decimal (writeNat n) = n := by
  have h := Nat.ofDigitChars_ten_toDigits (n := n)
  rw [Nat.ofDigitChars_eq_foldl] at h
  simpa only [decimal, writeNat, Nat.mul_comm] using h

theorem isDigit_of_mem_writeNat {n : Nat} {c : Char} (h : c ∈ writeNat n) : c.isDigit :=
  Nat.isDigit_of_mem_toDigits (by decide) (by decide) h

theorem writeNat_eq_cons (n : Nat) : ∃ c cs, writeNat n = c :: cs ∧ c.isDigit := by
  obtain ⟨c, cs, h⟩ := List.exists_cons_of_ne_nil (show writeNat n ≠ [] from Nat.toDigits_ne_nil)
  exact ⟨c, cs, h, isDigit_of_mem_writeNat (h ▸ List.mem_cons_self)⟩

/-- Only zero is written with a zero in front. -/
theorem writeNat_zero_cons {n : Nat} (h : writeNat n = '0' :: cs) : cs = [] := by
  induction n using Nat.strongRecOn generalizing cs with
  | ind n ih =>
    rcases Nat.lt_or_ge n 10 with hlt | hge
    · rw [writeNat, Nat.toDigits_of_lt_base hlt] at h
      exact (List.cons.inj h).2.symm
    · -- the digits in front of the last one are those of a smaller number, which is not zero
      have hsplit : writeNat n = writeNat (n / 10) ++ [(n % 10).digitChar] :=
        Nat.toDigits_of_base_le (by decide) hge
      obtain ⟨c, front, hfront, -⟩ := writeNat_eq_cons (n / 10)
      rw [hsplit, hfront, List.cons_append, List.cons.injEq] at h
      have hnil := ih (n / 10) (by omega) (h.1 ▸ hfront)
      have hvalue := decimal_writeNat (n / 10)
      rw [hfront, h.1, hnil] at hvalue
      change 0 = _ at hvalue
      omega

theorem digits_writeNat (n : Nat) (hrest : EndsDigits rest) :
    digits (writeNat n ++ rest) = (writeNat n, rest) := by
  have hds : ∀ c ∈ writeNat n, c.isDigit := fun _ => isDigit_of_mem_writeNat
  rw [digits, List.takeWhile_append_of_pos hds, List.dropWhile_append_of_pos hds]
  cases rest with
  | nil => simp
  | cons c cs =>
    have := hrest c rfl
    simp [this]

theorem whole?_writeNat (n : Nat) (hrest : EndsDigits rest) :
    whole? (writeNat n ++ rest) = some (writeNat n, rest) := by
  rw [whole?, digits_writeNat n hrest]
  split
  next heq => exact absurd (Prod.mk.inj heq).1 Nat.toDigits_ne_nil
  next heq => cases writeNat_zero_cons (Prod.mk.inj heq).1
  next => rfl

theorem minus_of_isDigit {c : Char} (h : c.isDigit) : minus (c :: cs) = (false, c :: cs) := by
  unfold minus
  split
  next heq =>
    cases heq
    cases h
  next => rfl

theorem sign_of_isDigit {c : Char} (h : c.isDigit) : sign (c :: cs) = (false, c :: cs) := by
  unfold sign
  split
  next heq =>
    cases heq
    cases h
  next => exact minus_of_isDigit h

/-- A sign is read as it was written, in front of digits. -/
theorem minus_writeNat (negative : Bool) (n : Nat) :
    minus ((if negative then ['-'] else []) ++ (writeNat n ++ rest)) =
      (negative, writeNat n ++ rest) := by
  obtain ⟨c, cs, hn, hc⟩ := writeNat_eq_cons n
  cases negative with
  | true => rfl
  | false =>
    rw [hn]
    exact minus_of_isDigit hc

theorem sign_writeNat (negative : Bool) (n : Nat) :
    sign ((if negative then ['-'] else []) ++ (writeNat n ++ rest)) =
      (negative, writeNat n ++ rest) := by
  obtain ⟨c, cs, hn, hc⟩ := writeNat_eq_cons n
  cases negative with
  | true => rfl
  | false =>
    rw [hn]
    exact sign_of_isDigit hc

/-- Nothing is written behind a point. -/
theorem fraction?_of_ne (h : ∀ c ∈ cs.head?, c ≠ '.') : fraction? cs = some ([], cs) := by
  unfold fraction?
  split
  next => exact absurd rfl (h _ rfl)
  next => rfl

/-- How the scale of a number is written. -/
def writeScale : Option Int → List Char
  | none => []
  | some e => 'e' :: ((if e < 0 then ['-'] else []) ++ writeNat e.natAbs)

theorem exponent?_writeScale (scale : Option Int) (hrest : EndsNumber rest) :
    exponent? (writeScale scale ++ rest) = some (scale, rest) := by
  cases scale with
  | none =>
    cases rest with
    | nil => rfl
    | cons c cs =>
      have hc := hrest c rfl
      simp only [continuesNumber, Bool.or_eq_false_iff, beq_eq_false_iff_ne, ne_eq] at hc
      simp [writeScale, exponent?, hc]
  | some e =>
    have hsign : sign ((if e < 0 then ['-'] else []) ++ (writeNat e.natAbs ++ rest)) =
        (decide (e < 0), writeNat e.natAbs ++ rest) := by
      simpa only [decide_eq_true_eq] using sign_writeNat (decide (e < 0)) e.natAbs
    rw [writeScale, List.cons_append, List.append_assoc, exponent?, if_pos (by decide), hsign,
      digits_writeNat _ hrest.endsDigits]
    split
    next heq => exact absurd (Prod.mk.inj heq).1 Nat.toDigits_ne_nil
    next heq =>
      obtain ⟨rfl, rfl⟩ := Prod.mk.inj heq
      rw [decimal_writeNat]
      simp only [decide_eq_true_eq, Option.some.injEq, Prod.mk.injEq, and_true]
      split <;> omega

theorem writeNumber_eq (n : Number) :
    writeNumber n =
      (if n.negative then ['-'] else []) ++ (writeNat n.digits ++ writeScale n.scale) := by
  rcases n with ⟨negative, n, _ | e⟩ <;> simp [writeNumber, writeScale]

/-- A number is read as it was written, sign, digits and scale. -/
theorem scanNumber_writeNumber (n : Number) (hrest : EndsNumber rest) :
    scanNumber (writeNumber n ++ rest) = some (n, rest) := by
  have hscale : ∀ c ∈ (writeScale n.scale ++ rest).head?, c.isDigit = false ∧ c ≠ '.' := by
    intro c hc
    cases hs : n.scale with
    | none =>
      rw [hs] at hc
      have := hrest c hc
      simp only [continuesNumber, Bool.or_eq_false_iff, beq_eq_false_iff_ne] at this
      exact this.1.1
    | some e =>
      rw [hs] at hc
      cases hc
      decide
  rw [writeNumber_eq, List.append_assoc, List.append_assoc]
  simp only [scanNumber, minus_writeNat, whole?_writeNat _ fun c hc => (hscale c hc).1,
    fraction?_of_ne fun c hc => (hscale c hc).2, exponent?_writeScale _ hrest,
    Option.bind_eq_bind, Option.bind_some, Option.pure_def, List.append_nil, decimal_writeNat]
  rcases n with ⟨negative, n, _ | e⟩ <;> simp

/-! ## String literals -/

theorem hexDigit?_hexDigit : ∀ n < 16, hexDigit? (hexDigit n) = some n := by decide

theorem hexUnit?_hexDigit {n : Nat} (h : n < 256) :
    hexUnit? '0' '0' (hexDigit (n / 16)) (hexDigit (n % 16)) = some n := by
  have hzero : hexDigit? '0' = some 0 := rfl
  simp only [hexUnit?, hzero, hexDigit?_hexDigit (n / 16) (by omega),
    hexDigit?_hexDigit (n % 16) (by omega), Option.bind_eq_bind, Option.bind_some, Option.pure_def,
    Option.some.injEq]
  omega

/-- A character is read as it was escaped. -/
theorem literal?_escape (seen : List Nat) (c : Char) :
    literal? seen (escape c ++ cs) = literal? (c.toNat :: seen) cs := by
  by_cases hnamed : c ∈ ['"', '\\', '\x08', '\x0c', '\n', '\r', '\t']
  · -- the escape is one of those that are a backslash and a character
    simp only [List.mem_cons, List.not_mem_nil, or_false] at hnamed
    rcases hnamed with rfl | rfl | rfl | rfl | rfl | rfl | rfl <;> rfl
  · simp only [List.mem_cons, List.not_mem_nil, or_false, not_or] at hnamed
    obtain ⟨hquote, hslash, hrest⟩ := hnamed
    by_cases hcontrol : c < ' '
    · have hlt : c.toNat < 32 := hcontrol
      simp only [escape, hquote, hslash, hrest, hcontrol, if_true, if_false, List.cons_append,
        List.nil_append, literal?, hexUnit?_hexDigit (n := c.toNat) (by omega)]
    · simp only [escape, hquote, hslash, hrest, hcontrol, if_false, List.cons_append,
        List.nil_append]
      conv_lhs => unfold literal?
      have hplain : ' ' ≤ c := Char.not_lt.mp hcontrol
      split
      next heq => cases heq
      next heq => exact absurd (List.cons.inj heq).1 hquote
      next heq => exact absurd (List.cons.inj heq).1 hslash
      next heq => exact absurd (List.cons.inj heq).1 hslash
      next heq =>
        cases heq
        rw [if_neg (by simp [hslash, hplain])]

theorem literal?_flatMap_escape (seen : List Nat) (text : List Char) :
    literal? seen (text.flatMap escape ++ '"' :: rest) =
      some (seen.reverse ++ text.map Char.toNat, rest) := by
  induction text generalizing seen with
  | nil => simp [literal?]
  | cons c text ih =>
    rw [List.flatMap_cons, List.append_assoc, literal?_escape, ih]
    simp

/-- No character is half of a surrogate pair. -/
theorem toNat_not_surrogate (c : Char) : c.toNat < 0xD800 ∨ 0xE000 ≤ c.toNat := by
  have hvalid : c.toNat < 0xD800 ∨ 0xDFFF < c.toNat ∧ c.toNat < 0x110000 := c.valid
  omega

/-- The code points of characters are joined into the same characters. -/
theorem joinPairs_map_toNat (seen text : List Char) :
    joinPairs seen (text.map Char.toNat) = some (seen.reverse ++ text) := by
  induction text generalizing seen with
  | nil => simp [joinPairs]
  | cons c text ih =>
    have hwhole := toNat_not_surrogate c
    cases text with
    | nil =>
      rw [List.map_singleton, joinPairs, if_neg (by simp; omega), Char.ofNat_toNat]
      simp
    | cons d text =>
      have hnext := ih (c :: seen)
      rw [List.map_cons] at hnext
      rw [List.map_cons, List.map_cons, joinPairs, if_neg (by simp; omega), if_neg (by simp; omega),
        Char.ofNat_toNat, hnext]
      simp

/-- A string literal is read as it was written, whether or not it stands for a text. -/
theorem scanString_writeString (t : Text) (rest : List Char) :
    ∃ cs, writeString t ++ rest = '"' :: cs ∧ scanString cs = some (t, rest) := by
  cases t with
  | none => exact ⟨_, rfl, rfl⟩
  | some s =>
    refine ⟨s.toList.flatMap escape ++ '"' :: rest, by simp [writeString], ?_⟩
    have hpairs := joinPairs_map_toNat [] s.toList
    simp only [List.reverse_nil, List.nil_append] at hpairs
    simp only [scanString, literal?_flatMap_escape, List.reverse_nil, List.nil_append, hpairs,
      Option.map_some, String.ofList_toList]

/-! ## Tokens -/

/-- Whether a token is a value without parts. -/
def Token.isAtom : Token → Bool
  | .atom _ => true
  | _ => false

/-- Two tokens that are not both atoms. -/
def Token.Apart (s t : Token) : Prop := s.isAtom = false ∨ t.isAtom = false

theorem isBlank_cases {c : Char} (h : isBlank c) : c = ' ' ∨ c = '\t' ∨ c = '\n' ∨ c = '\r' := by
  simpa [isBlank, or_assoc] using h

theorem isBlank_of_isDigit {c : Char} (h : c.isDigit) : isBlank c = false := by
  cases hblank : isBlank c with
  | false => rfl
  | true => rcases isBlank_cases hblank with rfl | rfl | rfl | rfl <;> cases h

/-- Signs and digits begin a number and nothing else. -/
theorem scanToken_of_number {c : Char} (h : c = '-' ∨ c.isDigit) :
    scanToken c cs = (scanNumber (c :: cs)).map fun r => (.atom (.number r.1), r.2) := by
  unfold scanToken
  split
  all_goals first | rfl | exact absurd h (by decide)

theorem writeNumber_eq_cons (n : Number) :
    ∃ c cs, writeNumber n = c :: cs ∧ (c = '-' ∨ c.isDigit) := by
  obtain ⟨c, cs, hn, hc⟩ := writeNat_eq_cons n.digits
  rw [writeNumber_eq, hn]
  cases n.negative with
  | true => exact ⟨'-', _, rfl, .inl rfl⟩
  | false => exact ⟨c, _, rfl, .inr hc⟩

/-- A token is read as it was written, and the blanks in front of it have an end. -/
theorem scanToken_text (t : Token) (hrest : t.isAtom → EndsNumber rest) :
    ∃ c cs, t.text ++ rest = c :: cs ∧ isBlank c = false ∧ scanToken c cs = some (t, rest) := by
  match t with
  | .openArray | .closeArray | .openObject | .closeObject | .comma | .colon | .atom .null
  | .atom (.bool true) | .atom (.bool false) => exact ⟨_, _, rfl, rfl, rfl⟩
  | .atom (.string s) =>
    obtain ⟨cs, htext, hscan⟩ := scanString_writeString s rest
    exact ⟨'"', cs, htext, rfl, by rw [scanToken, hscan, Option.map_some]⟩
  | .atom (.number n) =>
    obtain ⟨c, cs, htext, hc⟩ := writeNumber_eq_cons n
    have hscan := scanNumber_writeNumber n (hrest rfl)
    rw [htext] at hscan
    refine ⟨c, cs ++ rest, by rw [Token.text, htext, List.cons_append], ?_, ?_⟩
    · rcases hc with rfl | hdigit
      · rfl
      · exact isBlank_of_isDigit hdigit
    · rw [scanToken_of_number hc, ← List.cons_append, hscan, Option.map_some]

/-! ## The text as a whole -/

/-- A text that consists of the given tokens in order, with blanks before, between and behind
them. -/
inductive Spells : List Token → List Char → Prop where
  /-- nothing -/
  | nil : Spells [] []
  /-- a blank in front -/
  | blank {ts : List Token} {cs : List Char} (c : Char) (hc : isBlank c) (h : Spells ts cs) :
    Spells ts (c :: cs)
  /-- a token in front -/
  | token {ts : List Token} {cs : List Char} (t : Token) (h : Spells ts cs) :
    Spells (t :: ts) (t.text ++ cs)

variable {ts : List Token}

/-- Neither a blank nor punctuation continues a number. -/
theorem Spells.endsNumber (h : Spells ts cs) (hts : ∀ t ∈ ts.head?, t.isAtom = false) :
    EndsNumber cs := by
  cases h with
  | nil => nofun
  | blank c hc _ =>
    rintro _ ⟨⟩
    rcases isBlank_cases hc with rfl | rfl | rfl | rfl <;> rfl
  | token t _ =>
    rintro _ hhead
    have ht := hts t rfl
    match t with
    | .openArray | .closeArray | .openObject | .closeObject | .comma | .colon =>
      cases hhead
      rfl

/-- The tokens of a text are found again. -/
theorem Spells.scanAll (h : Spells ts cs) (hts : ts.IsChain Token.Apart) (seen : List Token) :
    scanAll seen cs = some (seen.reverse ++ ts) := by
  induction h generalizing seen with
  | nil => simp [Json.scanAll]
  | blank c hc _ ih => rw [Json.scanAll, if_pos hc, ih hts]
  | @token ts cs t h ih =>
    rw [List.isChain_cons] at hts
    have hrest : t.isAtom → EndsNumber cs := by
      intro hatom
      refine h.endsNumber fun next hnext => ?_
      rcases hts.1 next hnext with hapart | hapart
      · rw [hatom] at hapart
        cases hapart
      · exact hapart
    obtain ⟨c, cs, htext, hblank, hscan⟩ := scanToken_text t hrest
    rw [htext, Json.scanAll, if_neg (by simp [hblank])]
    split
    next hnone => cases hscan.symm.trans hnone
    next hsome =>
      cases hscan.symm.trans hsome
      rw [ih hts.2]
      simp

/-- A text scans to the tokens it spells. -/
theorem Spells.scan {text : String} (h : Spells ts text.toList) (hts : ts.IsChain Token.Apart) :
    Token.scan text = some ts := by
  rw [Token.scan, h.scanAll hts, List.reverse_nil, List.nil_append]

end Json

end Downlink
