import Downlink.Json.Basic

/-!
# Tokens

A JSON text is a sequence of tokens with blanks between them: brackets, braces, commas, colons and
atoms. `Token.scan` cuts a text into its tokens and refuses what contains anything else;
`Token.text` is how a token is written.

Two tokens never need a blank between them. A number ends where the longest run of its grammar ends,
and what follows is a token of its own, which the grammar of values then refuses if it does not
belong there.
-/

namespace Downlink

namespace Json

/-- A token of a JSON text. -/
inductive Token where
  | openArray
  | closeArray
  | openObject
  | closeObject
  | comma
  | colon
  | atom (a : Atom)
deriving DecidableEq, Repr

/-- Whether a character may stand between tokens: space, tab, line feed or carriage return. -/
def isBlank (c : Char) : Bool := c == ' ' || c == '\t' || c == '\n' || c == '\r'

/-! ## String literals

A literal is read as a list of code points, surrogates included, since an escape names sixteen bits
at a time. The text it stands for is found afterwards by joining the halves of pairs.
-/

/-- The value of a hexadecimal digit. -/
def hexDigit? (c : Char) : Option Nat :=
  if '0' ≤ c && c ≤ '9' then some (c.toNat - '0'.toNat)
  else if 'a' ≤ c && c ≤ 'f' then some (c.toNat - 'a'.toNat + 10)
  else if 'A' ≤ c && c ≤ 'F' then some (c.toNat - 'A'.toNat + 10)
  else none

/-- The value of four hexadecimal digits. -/
def hexUnit? (a b c d : Char) : Option Nat := do
  let a ← hexDigit? a
  let b ← hexDigit? b
  let c ← hexDigit? c
  let d ← hexDigit? d
  return ((a * 16 + b) * 16 + c) * 16 + d

/-- The code point that a backslash and one character stand for. -/
def escaped? : Char → Option Nat
  | '"' => some 0x22
  | '\\' => some 0x5C
  | '/' => some 0x2F
  | 'b' => some 0x08
  | 'f' => some 0x0C
  | 'n' => some 0x0A
  | 'r' => some 0x0D
  | 't' => some 0x09
  | _ => none

/-- Reads a literal from behind its opening quote up to its closing one, adding code points in front
of `seen`. Gives all of them in order, and what follows the quote. -/
def literal? (seen : List Nat) : List Char → Option (List Nat × List Char)
  | [] => none
  | '"' :: rest => some (seen.reverse, rest)
  | '\\' :: 'u' :: a :: b :: c :: d :: rest =>
    match hexUnit? a b c d with
    | some unit => literal? (unit :: seen) rest
    | none => none
  | '\\' :: c :: rest =>
    match escaped? c with
    | some unit => literal? (unit :: seen) rest
    | none => none
  | c :: rest => if c = '\\' || c < ' ' then none else literal? (c.toNat :: seen) rest

/-- Joins the halves of surrogate pairs, adding characters in front of `seen`. A half without its
partner stands for nothing. -/
def joinPairs (seen : List Char) : List Nat → Option (List Char)
  | [] => some seen.reverse
  | [unit] =>
    if 0xD800 ≤ unit && unit < 0xE000 then none else some (Char.ofNat unit :: seen).reverse
  | unit :: low :: rest =>
    if 0xD800 ≤ unit && unit < 0xDC00 then
      if 0xDC00 ≤ low && low < 0xE000 then
        joinPairs (Char.ofNat (0x10000 + (unit - 0xD800) * 0x400 + (low - 0xDC00)) :: seen) rest
      else none
    else if 0xDC00 ≤ unit && unit < 0xE000 then none
    else joinPairs (Char.ofNat unit :: seen) (low :: rest)

/-- Reads a string literal from behind its opening quote. -/
def scanString (cs : List Char) : Option (Text × List Char) :=
  match literal? [] cs with
  | some (units, rest) => some ((joinPairs [] units).map String.ofList, rest)
  | none => none

/-! ## Numbers -/

/-- The number that decimal digits stand for. -/
def decimal (cs : List Char) : Nat := cs.foldl (fun n c => n * 10 + (c.toNat - '0'.toNat)) 0

/-- The digits a text begins with, and the rest. -/
def digits (cs : List Char) : List Char × List Char :=
  (cs.takeWhile Char.isDigit, cs.dropWhile Char.isDigit)

/-- The sign a text begins with, if it is a minus, and the rest. -/
def minus : List Char → Bool × List Char
  | '-' :: rest => (true, rest)
  | cs => (false, cs)

/-- The digits before the point: one or more, and no zero in front. -/
def whole? (cs : List Char) : Option (List Char × List Char) :=
  match digits cs with
  | ([], _) => none
  | ('0' :: _ :: _, _) => none
  | d => some d

/-- The digits behind the point, if there is one. -/
def fraction? : List Char → Option (List Char × List Char)
  | '.' :: cs =>
    match digits cs with
    | ([], _) => none
    | d => some d
  | cs => some ([], cs)

/-- The sign an exponent begins with, which may also be a plus, and the rest. -/
def sign : List Char → Bool × List Char
  | '+' :: rest => (false, rest)
  | cs => minus cs

/-- The exponent, if there is one. -/
def exponent? : List Char → Option (Option Int × List Char)
  | c :: cs =>
    if c = 'e' || c = 'E' then
      match digits (sign cs).2 with
      | ([], _) => none
      | (ds, rest) => some (some (if (sign cs).1 then -(decimal ds : Int) else decimal ds), rest)
    else some (none, c :: cs)
  | [] => some (none, [])

/-- Reads a number. -/
def scanNumber (cs : List Char) : Option (Number × List Char) := do
  let (negative, cs) := minus cs
  let (whole, cs) ← whole? cs
  let (fraction, cs) ← fraction? cs
  let (exponent, cs) ← exponent? cs
  let scale :=
    if fraction.isEmpty && exponent.isNone then none
    else some (exponent.getD 0 - fraction.length)
  return (⟨negative, decimal (whole ++ fraction), scale⟩, cs)

/-! ## The text as a whole -/

/-- Reads one token from a text that begins with `c`, which is no blank. -/
def scanToken (c : Char) (cs : List Char) : Option (Token × List Char) :=
  match c, cs with
  | '[', cs => some (.openArray, cs)
  | ']', cs => some (.closeArray, cs)
  | '\x7b', cs => some (.openObject, cs)
  | '\x7d', cs => some (.closeObject, cs)
  | ',', cs => some (.comma, cs)
  | ':', cs => some (.colon, cs)
  | 'n', 'u' :: 'l' :: 'l' :: cs => some (.atom .null, cs)
  | 't', 'r' :: 'u' :: 'e' :: cs => some (.atom (.bool true), cs)
  | 'f', 'a' :: 'l' :: 's' :: 'e' :: cs => some (.atom (.bool false), cs)
  | '"', cs => (scanString cs).map fun r => (.atom (.string r.1), r.2)
  | c, cs => (scanNumber (c :: cs)).map fun r => (.atom (.number r.1), r.2)

theorem length_literal? {cs rest : List Char} {seen units : List Nat}
    (h : literal? seen cs = some (units, rest)) : rest.length < cs.length := by
  fun_induction literal? seen cs with
  | case1 => simp at h
  | case2 => simp only [Option.some.injEq, Prod.mk.injEq] at h; simp [h.2]
  | case3 seen a b c d r unit hu ih => have := ih h; simp only [List.length_cons]; omega
  | case4 => simp at h
  | case5 seen c r _ unit hu ih => have := ih h; simp only [List.length_cons]; omega
  | case6 => simp at h
  | case7 => simp at h
  | case8 seen c r _ _ _ _ ih => have := ih h; simp only [List.length_cons]; omega

theorem length_scanString {cs rest : List Char} {t : Text} (h : scanString cs = some (t, rest)) :
    rest.length < cs.length := by
  unfold scanString at h
  split at h
  next hl =>
    simp only [Option.some.injEq, Prod.mk.injEq] at h
    rw [← h.2]
    exact length_literal? hl
  next => simp at h

theorem length_minus (cs : List Char) : (minus cs).2.length ≤ cs.length := by
  unfold minus
  split <;> simp

theorem length_sign (cs : List Char) : (sign cs).2.length ≤ cs.length := by
  unfold sign
  split
  · simp
  · exact length_minus cs

theorem length_digits {cs ds rest : List Char} (h : digits cs = (ds, rest)) :
    ds.length + rest.length = cs.length := by
  simp only [digits, Prod.mk.injEq] at h
  rw [← h.1, ← h.2, ← List.length_append, List.takeWhile_append_dropWhile]

theorem length_whole? {cs ds rest : List Char} (h : whole? cs = some (ds, rest)) :
    rest.length < cs.length := by
  unfold whole? at h
  split at h
  next => simp at h
  next => simp at h
  next hne _ =>
    have hd : digits cs = (ds, rest) := Option.some.inj h
    have hlen := length_digits hd
    have : ds ≠ [] := fun hnil => hne rest (hnil ▸ hd)
    have := List.length_pos_iff.mpr this
    omega

theorem length_fraction? {cs ds rest : List Char} (h : fraction? cs = some (ds, rest)) :
    rest.length ≤ cs.length := by
  unfold fraction? at h
  split at h
  next cs =>
    split at h
    next => simp at h
    next =>
      have := length_digits (Option.some.inj h)
      simp only [List.length_cons]
      omega
  next =>
    simp only [Option.some.injEq, Prod.mk.injEq] at h
    exact Nat.le_of_eq (congrArg List.length h.2.symm)

theorem length_exponent? {cs rest : List Char} {e : Option Int}
    (h : exponent? cs = some (e, rest)) : rest.length ≤ cs.length := by
  unfold exponent? at h
  split at h
  next c cs =>
    split at h
    next =>
      split at h
      next => simp at h
      next ds rest' hd =>
        simp only [Option.some.injEq, Prod.mk.injEq] at h
        have := length_digits hd
        have := length_sign cs
        rw [← h.2, List.length_cons]
        omega
    next =>
      simp only [Option.some.injEq, Prod.mk.injEq] at h
      exact Nat.le_of_eq (congrArg List.length h.2.symm)
  next =>
    simp only [Option.some.injEq, Prod.mk.injEq] at h
    exact Nat.le_of_eq (congrArg List.length h.2.symm)

theorem length_scanNumber {cs rest : List Char} {n : Number}
    (h : scanNumber cs = some (n, rest)) : rest.length < cs.length := by
  simp only [scanNumber, Option.bind_eq_bind, Option.bind_eq_some_iff, Option.pure_def,
    Option.some.injEq, Prod.mk.injEq, Prod.exists] at h
  obtain ⟨whole, cs₁, hw, fraction, cs₂, hf, exponent, cs₃, he, -, rfl⟩ := h
  have := length_minus cs
  have := length_whole? hw
  have := length_fraction? hf
  have := length_exponent? he
  omega

/-- A token takes at least the character it begins with. -/
theorem length_scanToken {c : Char} {cs rest : List Char} {t : Token}
    (h : scanToken c cs = some (t, rest)) : rest.length < (c :: cs).length := by
  unfold scanToken at h
  split at h
  case h_10 =>
    obtain ⟨r, hr, h⟩ := Option.map_eq_some_iff.mp h
    have := length_scanString hr
    simp only [Prod.mk.injEq] at h
    rw [← h.2, List.length_cons]
    omega
  case h_11 =>
    obtain ⟨r, hr, h⟩ := Option.map_eq_some_iff.mp h
    have := length_scanNumber hr
    simp only [Prod.mk.injEq] at h
    rw [← h.2]
    exact this
  all_goals
    simp only [Option.some.injEq, Prod.mk.injEq] at h
    rw [← h.2]
    simp only [List.length_cons]
    omega

/-- Cuts a text into tokens, adding them in front of `seen`. -/
def scanAll (seen : List Token) : List Char → Option (List Token)
  | [] => some seen.reverse
  | c :: cs =>
    if isBlank c then scanAll seen cs
    else
      match _h : scanToken c cs with
      | none => none
      | some (t, rest) => scanAll (t :: seen) rest
termination_by cs => cs.length
decreasing_by
  · simp
  · exact length_scanToken _h

/-- The tokens of a text, if it consists of tokens and blanks. -/
def Token.scan (text : String) : Option (List Token) := scanAll [] text.toList

/-! ## Writing tokens -/

/-- The lower-case hexadecimal digit of a value below sixteen. -/
def hexDigit (n : Nat) : Char :=
  if n < 10 then Char.ofNat ('0'.toNat + n) else Char.ofNat ('a'.toNat + (n - 10))

/-- How a character stands in a string literal: quotes, backslashes and control characters are
escaped, by a name where there is one. -/
def escape (c : Char) : List Char :=
  if c = '"' then ['\\', '"']
  else if c = '\\' then ['\\', '\\']
  else if c = '\x08' then ['\\', 'b']
  else if c = '\x0c' then ['\\', 'f']
  else if c = '\n' then ['\\', 'n']
  else if c = '\r' then ['\\', 'r']
  else if c = '\t' then ['\\', 't']
  else if c < ' ' then ['\\', 'u', '0', '0', hexDigit (c.toNat / 16), hexDigit (c.toNat % 16)]
  else [c]

/-- A string literal. One that stands for no text is written as half of a surrogate pair. -/
def writeString : Text → List Char
  | some s => '"' :: s.toList.flatMap escape ++ ['"']
  | none => ['"', '\\', 'u', 'd', '8', '0', '0', '"']

/-- The digits of a natural number. -/
def writeNat (n : Nat) : List Char := Nat.toDigits 10 n

/-- A number: its digits, and its scale as an exponent. -/
def writeNumber (n : Number) : List Char :=
  let sign := if n.negative then ['-'] else []
  let exponent :=
    match n.scale with
    | none => []
    | some e => 'e' :: (if e < 0 then ['-'] else []) ++ writeNat e.natAbs
  sign ++ writeNat n.digits ++ exponent

/-- How a token is written. -/
def Token.text : Token → List Char
  | .openArray => ['[']
  | .closeArray => [']']
  | .openObject => ['\x7b']
  | .closeObject => ['\x7d']
  | .comma => [',']
  | .colon => [':']
  | .atom .null => ['n', 'u', 'l', 'l']
  | .atom (.bool true) => ['t', 'r', 'u', 'e']
  | .atom (.bool false) => ['f', 'a', 'l', 's', 'e']
  | .atom (.number n) => writeNumber n
  | .atom (.string t) => writeString t

end Json

end Downlink
