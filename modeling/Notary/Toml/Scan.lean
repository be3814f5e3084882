namespace Notary.Toml

/-!
# Walking a TOML text

A text is read from left to right, and reading stops at the first defect. What
is left of the text at the defect tells the place of it.
-/

/-- The first defect of a text, by the text that is left there. -/
structure Stop where
  left : List Char
deriving Repr, DecidableEq

/-- Stop in front of a text. -/
def stopAt {α : Type} (text : List Char) : Except Stop α :=
  .error ⟨text⟩

/-- A blank inside a line. -/
def isBlank (c : Char) : Bool :=
  c == ' ' || c == '\t'

/-- A text without the blanks it starts with. -/
def skipBlanks (text : List Char) : List Char :=
  text.dropWhile isBlank

/-- The text after a line end, if one is there. -/
def afterLineEnd? : List Char → Option (List Char)
  | '\n' :: rest => some rest
  | '\r' :: '\n' :: rest => some rest
  | _ => none

/-- A text without the blanks and line ends it starts with. -/
def skipLines : List Char → List Char
  | '\r' :: '\n' :: rest => skipLines rest
  | c :: rest => if isBlank c || c == '\n' then skipLines rest else c :: rest
  | [] => []

/-- A character of a comment. -/
def isCommentChar (c : Char) : Bool :=
  c == '\t' || 0x20 ≤ c.toNat

/-- A text without the comment it may start with. -/
def skipComment : List Char → List Char
  | '#' :: rest => rest.dropWhile isCommentChar
  | text => text

/-- Read a line end, or the end of the text. -/
def readLineEnd (text : List Char) : Except Stop (List Char) :=
  match text with
  | [] => .ok []
  | _ =>
      match afterLineEnd? text with
      | some rest => .ok rest
      | none => stopAt text

/-- Read what may stand between the content of a line and its end, and the end. -/
def readRestOfLine (text : List Char) : Except Stop (List Char) :=
  readLineEnd (skipComment (skipBlanks text))

/-- Read what may stand between the items of an array; no part of it is longer than `fuel`. -/
def readGap (fuel : Nat) (text : List Char) : Except Stop (List Char) :=
  let text := skipBlanks text
  match fuel, text with
  | fuel + 1, '#' :: _ =>
      let after := skipComment text
      match afterLineEnd? after with
      | some rest => readGap fuel rest
      | none => stopAt after
  | fuel + 1, '\n' :: rest => readGap fuel rest
  | fuel + 1, '\r' :: '\n' :: rest => readGap fuel rest
  | _, '\r' :: rest => stopAt rest
  | _, _ => .ok text

end Notary.Toml
