import Downlink.Json.Tree
import Downlink.Proofs.Json.Scan

/-!
# Parsing what was written

A text that spells the tokens of a value, whatever blanks it has between them, is parsed into that
value (`parse_of_spelled`). Both ways of writing a value, compact and indented, spell its tokens.

The parser keeps the open containers on a stack. Reading the tokens of a value takes it from waiting
for a value to having it, with the same stack (`Progress.run_tokens`); inside a container, from
having some parts of it to having all of them.
-/

namespace Downlink

namespace Json

variable {ts : List Token} {cs : List Char}

/-! ## Reading the tokens of a value -/

/-- No value begins with the end of a list. -/
theorem tokens_eq_cons (v : Json) : ∃ t ts, v.tokens = t :: ts ∧ t ≠ .closeArray := by
  cases v with
  | atom a => exact ⟨_, _, rfl, nofun⟩
  | array items => exact ⟨_, _, rfl, nofun⟩
  | object members => exact ⟨_, _, rfl, nofun⟩

theorem itemTokens_cons (v : Json) (vs : List Json) :
    ∃ ts, itemTokens (v :: vs) = v.tokens ++ ts := by
  cases vs with
  | nil => exact ⟨[], (List.append_nil _).symm⟩
  | cons w vs => exact ⟨_, rfl⟩

namespace Progress

/-- Where a list does not end at once, its first value is read as any other. -/
theorem run_firstItem (stack : List Container) (v : Json) (vs : List Json) (ts : List Token) :
    (firstItem stack).run (itemTokens (v :: vs) ++ ts) =
      (value (.array [] :: stack)).run (itemTokens (v :: vs) ++ ts) := by
  obtain ⟨more, hitems⟩ := itemTokens_cons v vs
  obtain ⟨t, rest, htokens, ht⟩ := v.tokens_eq_cons
  rw [hitems, htokens]
  cases t with
  | closeArray => exact absurd rfl ht
  | _ => rfl

mutual

/-- The tokens of a value are read as that value, which leaves the stack as it was. -/
theorem run_tokens : ∀ (v : Json) (stack : List Container) (ts : List Token),
    (value stack).run (v.tokens ++ ts) = (complete v stack).run ts
  | .atom _, _, _ => rfl
  | .array [], _, _ => rfl
  | .array (v :: vs), stack, ts => by
    rw [tokens, List.cons_append, List.append_assoc]
    calc (firstItem stack).run (itemTokens (v :: vs) ++ ([.closeArray] ++ ts))
      _ = (value (.array [] :: stack)).run (itemTokens (v :: vs) ++ ([.closeArray] ++ ts)) :=
        run_firstItem ..
      _ = (complete (.array (v :: vs)) stack).run ts :=
        run_itemTokens (v :: vs) [] stack ts (List.cons_ne_nil _ _)
  | .object [], _, _ => rfl
  | .object (m :: ms), stack, ts => by
    rw [tokens, List.cons_append, List.append_assoc]
    calc (firstName stack).run (memberTokens (m :: ms) ++ ([.closeObject] ++ ts))
      _ = (nextName [] stack).run (memberTokens (m :: ms) ++ ([.closeObject] ++ ts)) := by
        cases ms <;> rfl
      _ = (complete (.object (m :: ms)) stack).run ts :=
        run_memberTokens (m :: ms) [] stack ts (List.cons_ne_nil _ _)

/-- The rest of a list is read behind the values before it. -/
theorem run_itemTokens : ∀ (vs seen : List Json) (stack : List Container) (ts : List Token),
    vs ≠ [] → (value (.array seen :: stack)).run (itemTokens vs ++ .closeArray :: ts) =
      (complete (.array (seen.reverse ++ vs)) stack).run ts
  | [], _, _, _, hvs => absurd rfl hvs
  | [v], seen, stack, ts, _ => by
    rw [itemTokens, run_tokens v, ← List.reverse_cons]
    rfl
  | v :: w :: vs, seen, stack, ts, _ => by
    have hrest := run_itemTokens (w :: vs) (v :: seen) stack ts (List.cons_ne_nil _ _)
    rw [List.reverse_cons, List.append_assoc] at hrest
    rw [itemTokens, List.append_assoc, run_tokens v]
    exact hrest

/-- The rest of an object is read behind the members before it. -/
theorem run_memberTokens :
    ∀ (ms seen : List (Text × Json)) (stack : List Container) (ts : List Token),
      ms ≠ [] → (nextName seen stack).run (memberTokens ms ++ .closeObject :: ts) =
        (complete (.object (seen.reverse ++ ms)) stack).run ts
  | [], _, _, _, hms => absurd rfl hms
  | [(name, v)], seen, stack, ts, _ => by
    have hvalue := run_tokens v (.object seen name :: stack) (.closeObject :: ts)
    rw [memberTokens, ← List.reverse_cons]
    exact hvalue
  | (name, v) :: m :: ms, seen, stack, ts, _ => by
    have hrest := run_memberTokens (m :: ms) ((name, v) :: seen) stack ts (List.cons_ne_nil _ _)
    rw [List.reverse_cons, List.append_assoc] at hrest
    have hvalue := run_tokens v (.object seen name :: stack)
      (.comma :: (memberTokens (m :: ms) ++ .closeObject :: ts))
    rw [memberTokens, List.cons_append, List.cons_append, List.append_assoc]
    exact hvalue.trans hrest

end

end Progress

/-- A value is built from its tokens. -/
theorem ofTokens?_tokens (v : Json) : ofTokens? v.tokens = some v := by
  have h := Progress.run_tokens v [] []
  rw [List.append_nil] at h
  rw [ofTokens?, h]
  rfl

/-! ## The tokens of a value stand apart -/

/-- Punctuation may stand in front of anything. -/
theorem isChain_cons_of_not_atom {t : Token} (ht : t.isAtom = false)
    (hts : ts.IsChain Token.Apart) : (t :: ts).IsChain Token.Apart :=
  List.isChain_cons.mpr ⟨fun _ _ => .inl ht, hts⟩

/-- A name and its colon may stand in front of anything. -/
theorem isChain_name_colon (name : Text) (hts : ts.IsChain Token.Apart) :
    (.atom (.string name) :: .colon :: ts).IsChain Token.Apart :=
  List.isChain_cons_cons.mpr ⟨.inr rfl, isChain_cons_of_not_atom rfl hts⟩

/-- Tokens that a value may stand in front of. -/
def Resumes (ts : List Token) : Prop :=
  ts.IsChain Token.Apart ∧ ∀ t ∈ ts.head?, t.isAtom = false

theorem resumes_cons {t : Token} (ht : t.isAtom = false) (hts : ts.IsChain Token.Apart) :
    Resumes (t :: ts) :=
  ⟨isChain_cons_of_not_atom ht hts, by rintro _ ⟨⟩; exact ht⟩

mutual

/-- The tokens of a value keep their atoms apart, also from what comes behind them. -/
theorem isChain_tokens : ∀ (v : Json) (ts : List Token), Resumes ts →
    (v.tokens ++ ts).IsChain Token.Apart
  | .atom _, _, h => List.isChain_cons.mpr ⟨fun t ht => .inr (h.2 t ht), h.1⟩
  | .array items, ts, h => by
    have hitems := isChain_itemTokens items (.closeArray :: ts) (resumes_cons rfl h.1)
    rw [tokens, List.cons_append, List.append_assoc]
    exact isChain_cons_of_not_atom rfl hitems
  | .object members, ts, h => by
    have hmembers := isChain_memberTokens members (.closeObject :: ts) (resumes_cons rfl h.1)
    rw [tokens, List.cons_append, List.append_assoc]
    exact isChain_cons_of_not_atom rfl hmembers

theorem isChain_itemTokens : ∀ (vs : List Json) (ts : List Token), Resumes ts →
    (itemTokens vs ++ ts).IsChain Token.Apart
  | [], _, h => h.1
  | [v], ts, h => isChain_tokens v ts h
  | v :: w :: vs, ts, h => by
    have hrest := isChain_itemTokens (w :: vs) ts h
    rw [itemTokens, List.append_assoc]
    exact isChain_tokens v _ (resumes_cons rfl hrest)

theorem isChain_memberTokens : ∀ (ms : List (Text × Json)) (ts : List Token), Resumes ts →
    (memberTokens ms ++ ts).IsChain Token.Apart
  | [], _, h => h.1
  | [(name, v)], ts, h => isChain_name_colon name (isChain_tokens v ts h)
  | (name, v) :: m :: ms, ts, h => by
    have hrest := isChain_memberTokens (m :: ms) ts h
    rw [memberTokens, List.cons_append, List.cons_append, List.append_assoc]
    exact isChain_name_colon name (isChain_tokens v _ (resumes_cons rfl hrest))

end

/-! ## Texts of values -/

/-- The text consists of the tokens of the value, with any blanks around them. -/
def Spelled (v : Json) (text : String) : Prop := Spells v.tokens text.toList

/-- **Parsing reads what was written.** A text that consists of the tokens of a value, with any
blanks around them, is parsed into that value. -/
theorem parse_of_spelled {v : Json} {text : String} (h : v.Spelled text) : parse text = some v := by
  have hchain := isChain_tokens v [] ⟨.nil, nofun⟩
  rw [List.append_nil] at hchain
  rw [parse, h.scan hchain, Option.bind_some, ofTokens?_tokens]

theorem spells_flatMap_text (ts : List Token) : Spells ts (ts.flatMap Token.text) := by
  induction ts with
  | nil => exact .nil
  | cons t ts ih => exact .token t ih

/-- The compact text of a value has no blanks. -/
theorem spelled_compact (v : Json) : v.Spelled v.compact := by
  rw [Spelled, compact, String.toList_ofList]
  exact spells_flatMap_text v.tokens

theorem Spells.newline (h : Spells ts cs) (level : Nat) : Spells ts (newline level ++ cs) := by
  refine .blank '\n' rfl ?_
  induction 2 * level with
  | zero => exact h
  | succ n ih => exact .blank ' ' rfl ih

mutual

/-- The indented text of a value has line feeds and spaces between its tokens. -/
theorem spells_indentedAt : ∀ (v : Json) (level : Nat) {ts : List Token} {cs : List Char},
    Spells ts cs → Spells (v.tokens ++ ts) (indentedAt level v ++ cs)
  | .atom a, _, _, _, h => .token (.atom a) h
  | .array [], _, _, _, h => .token .openArray (.token .closeArray h)
  | .array (v :: vs), level, ts, cs, h => by
    have hclose := (Spells.token .closeArray h).newline level
    have hitems := spells_indentedItems (v :: vs) (level + 1) hclose
    simp only [tokens, indentedAt, List.cons_append, List.append_assoc]
    exact .token .openArray hitems
  | .object [], _, _, _, h => .token .openObject (.token .closeObject h)
  | .object (m :: ms), level, ts, cs, h => by
    have hclose := (Spells.token .closeObject h).newline level
    have hmembers := spells_indentedMembers (m :: ms) (level + 1) hclose
    simp only [tokens, indentedAt, List.cons_append, List.append_assoc]
    exact .token .openObject hmembers

theorem spells_indentedItems :
    ∀ (vs : List Json) (level : Nat) {ts : List Token} {cs : List Char}, Spells ts cs →
      Spells (itemTokens vs ++ ts) (indentedItems level vs ++ cs)
  | [], _, _, _, h => h
  | [v], level, _, _, h => by
    simp only [itemTokens, indentedItems, List.append_assoc]
    exact (spells_indentedAt v level h).newline level
  | v :: w :: vs, level, _, _, h => by
    have hrest := Spells.token .comma (spells_indentedItems (w :: vs) level h)
    simp only [itemTokens, indentedItems, List.cons_append, List.append_assoc]
    exact (spells_indentedAt v level hrest).newline level

theorem spells_indentedMembers :
    ∀ (ms : List (Text × Json)) (level : Nat) {ts : List Token} {cs : List Char}, Spells ts cs →
      Spells (memberTokens ms ++ ts) (indentedMembers level ms ++ cs)
  | [], _, _, _, h => h
  | [(name, v)], level, _, _, h => by
    have hvalue := Spells.token .colon (.blank ' ' rfl (spells_indentedAt v level h))
    simp only [memberTokens, indentedMembers, List.cons_append, List.append_assoc]
    exact (Spells.token (.atom (.string name)) hvalue).newline level
  | (name, v) :: m :: ms, level, _, _, h => by
    have hrest := Spells.token .comma (spells_indentedMembers (m :: ms) level h)
    have hvalue := Spells.token .colon (.blank ' ' rfl (spells_indentedAt v level hrest))
    simp only [memberTokens, indentedMembers, List.cons_append, List.append_assoc]
    exact (Spells.token (.atom (.string name)) hvalue).newline level

end

theorem spelled_indented (v : Json) : v.Spelled v.indented := by
  have h := spells_indentedAt v 0 .nil
  rw [List.append_nil, List.append_nil] at h
  rw [Spelled, indented, String.toList_ofList]
  exact h

end Json

end Downlink
