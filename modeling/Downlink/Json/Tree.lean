import Downlink.Json.Token

/-!
# Values and their tokens

`Json.ofTokens?` builds a value from tokens, one token at a time, with the containers that are still
open on a stack; nesting of any depth needs no more than a longer stack. `Json.tokens` is the way
back: the tokens of a value, from which its compact text is made by writing them one after another.
-/

namespace Downlink

namespace Json

/-! ## From tokens to values -/

/-- A container that is still open, with what it holds so far, latest first. -/
inductive Container where
  /-- a list, and the values before the one that is read -/
  | array (items : List Json)
  /-- an object, the members before the one that is read, and the name of that one -/
  | object (members : List (Text × Json)) (name : Text)

/-- What has been read, and so what may come next. The open containers are given innermost first. -/
inductive Progress where
  /-- a value has to come -/
  | value (stack : List Container)
  /-- a list was just opened: its first value has to come, or its end -/
  | firstItem (stack : List Container)
  /-- an object was just opened: its first name has to come, or its end -/
  | firstName (stack : List Container)
  /-- a comma was read in an object: another name has to come -/
  | nextName (members : List (Text × Json)) (stack : List Container)
  /-- a name was read: a colon has to come -/
  | colon (members : List (Text × Json)) (name : Text) (stack : List Container)
  /-- a value is complete -/
  | complete (v : Json) (stack : List Container)

namespace Progress

/-- Begins a value. -/
def begin (stack : List Container) : Token → Option Progress
  | .atom a => some (.complete (.atom a) stack)
  | .openArray => some (.firstItem stack)
  | .openObject => some (.firstName stack)
  | _ => none

/-- Goes on behind a value, which becomes part of the innermost container. -/
def resume (v : Json) : List Container → Token → Option Progress
  | .array items :: stack, .comma => some (.value (.array (v :: items) :: stack))
  | .array items :: stack, .closeArray => some (.complete (.array (v :: items).reverse) stack)
  | .object members name :: stack, .comma => some (.nextName ((name, v) :: members) stack)
  | .object members name :: stack, .closeObject =>
    some (.complete (.object ((name, v) :: members).reverse) stack)
  | _, _ => none

/-- Reads one token. -/
def step : Progress → Token → Option Progress
  | .value stack, t => begin stack t
  | .firstItem stack, .closeArray => some (.complete (.array []) stack)
  | .firstItem stack, t => begin (.array [] :: stack) t
  | .firstName stack, .closeObject => some (.complete (.object []) stack)
  | .firstName stack, .atom (.string name) => some (.colon [] name stack)
  | .nextName members stack, .atom (.string name) => some (.colon members name stack)
  | .colon members name stack, .colon => some (.value (.object members name :: stack))
  | .complete v stack, t => resume v stack t
  | _, _ => none

/-- Reads tokens in order. -/
def run (p : Progress) : List Token → Option Progress
  | [] => some p
  | t :: ts =>
    match p.step t with
    | none => none
    | some p => p.run ts

end Progress

/-- The value that the tokens are, if they are one value and nothing else. -/
def ofTokens? (ts : List Token) : Option Json :=
  match (Progress.value []).run ts with
  | some (.complete v []) => some v
  | _ => none

/-- The value that a text describes. -/
def parse (text : String) : Option Json := (Token.scan text).bind ofTokens?

/-! ## From values to tokens -/

mutual

/-- The tokens of a value. -/
def tokens : Json → List Token
  | .atom a => [.atom a]
  | .array items => .openArray :: (itemTokens items ++ [.closeArray])
  | .object members => .openObject :: (memberTokens members ++ [.closeObject])

/-- The tokens of the values in a list, with commas between them. -/
def itemTokens : List Json → List Token
  | [] => []
  | [v] => v.tokens
  | v :: w :: vs => v.tokens ++ .comma :: itemTokens (w :: vs)

/-- The tokens of the members of an object, with commas between them. -/
def memberTokens : List (Text × Json) → List Token
  | [] => []
  | [(name, v)] => .atom (.string name) :: .colon :: v.tokens
  | (name, v) :: m :: ms =>
    .atom (.string name) :: .colon :: (v.tokens ++ .comma :: memberTokens (m :: ms))

end

/-- The text of a value without blanks. -/
def compact (v : Json) : String := String.ofList (v.tokens.flatMap Token.text)

/-! ## Indented text -/

/-- A line feed and two blanks for each level. -/
def newline (level : Nat) : List Char := '\n' :: List.replicate (2 * level) ' '

mutual

/-- The text of a value at a level, each part of a container on a line of its own. -/
def indentedAt (level : Nat) : Json → List Char
  | .atom a => Token.text (.atom a)
  | .array [] => ['[', ']']
  | .array (v :: vs) =>
    '[' :: (indentedItems (level + 1) (v :: vs) ++ newline level ++ [']'])
  | .object [] => ['\x7b', '\x7d']
  | .object (m :: ms) =>
    '\x7b' :: (indentedMembers (level + 1) (m :: ms) ++ newline level ++ ['\x7d'])

/-- The lines of the values in a list. -/
def indentedItems (level : Nat) : List Json → List Char
  | [] => []
  | [v] => newline level ++ indentedAt level v
  | v :: w :: vs => newline level ++ indentedAt level v ++ ',' :: indentedItems level (w :: vs)

/-- The lines of the members of an object. -/
def indentedMembers (level : Nat) : List (Text × Json) → List Char
  | [] => []
  | [(name, v)] => newline level ++ writeString name ++ ':' :: ' ' :: indentedAt level v
  | (name, v) :: m :: ms =>
    newline level ++ writeString name ++ ':' :: ' ' ::
      (indentedAt level v ++ ',' :: indentedMembers level (m :: ms))

end

/-- The text of a value over several lines, indented by two blanks a level. -/
def indented (v : Json) : String := String.ofList (indentedAt 0 v)

end Json

end Downlink
