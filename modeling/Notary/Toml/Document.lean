import Notary.Toml.Value

namespace Notary.Toml

/-!
# Documents

A document is a sequence of lines: definitions of members, headers of tables,
comments and blank ones.
-/

/-- Read the header of a table after its brackets. -/
def readHeader (repeated : Bool) (text : List Char) :
    Except Stop (DottedKey × List Char) := do
  let (key, rest) ← readKey text
  let closed : Option (List Char) :=
    match repeated, rest with
    | true, ']' :: ']' :: rest => some rest
    | false, ']' :: rest => some rest
    | _, _ => none
  match closed with
  | some after => return (key, ← readRestOfLine after)
  | none => stopAt rest

/-- Read a header and start the section that it announces. -/
def readSection (d : Draft) (text : List Char) : Except Stop (Draft × List Char) := do
  let (repeated, inner) : Bool × List Char :=
    match text with
    | '[' :: '[' :: rest => (true, rest)
    | _ => (false, text.drop 1)
  let (key, rest) ← readHeader repeated inner
  match d.start? key.path key.last repeated text.length with
  | some next => return (next, rest)
  | none => stopAt text

/-- Read the definition of a member. -/
def readDefinition (d : Draft) (text : List Char) : Except Stop (Draft × List Char) := do
  let (key, rest) ← readKey text
  let rest ← readMark '=' rest
  let (value, rest) ← readValue nestingLimit (skipBlanks rest)
  let rest ← readRestOfLine rest
  match d.assign? key.path key.last value with
  | some next => return (next, rest)
  | none => stopAt text

/-- Read lines; each uses up some `fuel`. -/
def readLines (fuel : Nat) (d : Draft) (text : List Char) : Except Stop Draft :=
  let text := skipBlanks text
  match fuel, text with
  | _, [] => .ok d
  | 0, _ => stopAt text
  | fuel + 1, c :: _ =>
      if c == '#' then
        match readLineEnd (skipComment text) with
        | .ok rest => readLines fuel d rest
        | .error stop => .error stop
      else if c == '[' then
        match readSection d text with
        | .ok (next, rest) => readLines fuel next rest
        | .error stop => .error stop
      else if c == '\n' || c == '\r' then
        match readLineEnd text with
        | .ok rest => readLines fuel d rest
        | .error stop => .error stop
      else
        match readDefinition d text with
        | .ok (next, rest) => readLines fuel next rest
        | .error stop => .error stop

/-- The place of a line and a column, both counted from one. -/
structure Position where
  line : Nat
  column : Nat
deriving Repr, DecidableEq

/-- The position of a place in a text; the end of a text belongs to its last line. -/
def Position.ofPlace (text : List Char) (place : Nat) : Position :=
  let passed := text.length - place
  let shown := min passed (text.length - 1)
  let before := text.take shown
  let line := before.reverse.takeWhile (· != '\n')
  ⟨before.count '\n' + 1, line.length + (passed - shown) + 1⟩

/-- Read a document; a byte order mark in front of it does not count. -/
def readDocument (text : List Char) : Except Stop Table := do
  let body :=
    match text with
    | c :: rest => if c.toNat = 0xFEFF then rest else text
    | [] => []
  let draft ← readLines (body.length + 1) .empty body
  match draft.finish? with
  | some members => return members
  | none => stopAt []

end Notary.Toml
