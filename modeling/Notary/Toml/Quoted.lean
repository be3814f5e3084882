import Notary.Text.Digit
import Notary.Toml.Scan

namespace Notary.Toml

/-!
# Quoted texts

A text stands between quotes of one of two styles; only one of them knows
escapes. Three quotes open a text of several lines, of which a line end right
after the quotes does not belong to it.
-/

/-- A style of quotes. -/
structure Style where
  quote : Char
  escapes : Bool
deriving Repr, DecidableEq

namespace Style

/-- Quotes between which a backslash starts an escape. -/
def basic : Style := ⟨'"', true⟩

/-- Quotes between which every character stands for itself. -/
def literal : Style := ⟨'\'', false⟩

/-- The style whose quote a character is. -/
def ofQuote? (c : Char) : Option Style :=
  if c == basic.quote then some basic
  else if c == literal.quote then some literal
  else none

/-- Whether a character stands for itself between the quotes. -/
def plain (s : Style) (c : Char) : Bool :=
  c == '\t' ||
    (0x20 ≤ c.toNat && c.toNat != 0x7F && c != s.quote && !(s.escapes && c == '\\'))

/-- Whether an escape starts here. -/
def escapesAt (s : Style) : List Char → Bool
  | '\\' :: _ :: _ => s.escapes
  | _ => false

end Style

/-- Read the character of a number with the given count of hexadecimal digits. -/
def readScalar (count : Nat) (text : List Char) : Except Stop (Char × List Char) :=
  let digits := (text.take count).filterMap (Text.digit? 16)
  let value := Text.valueOfDigits 16 digits
  if digits.length = count && value.isValidChar then .ok (Char.ofNat value, text.drop count)
  else stopAt text

/-- The character that a letter after a backslash stands for. -/
def escapeLetter? : Char → Option Char
  | 'b' => some '\x08'
  | 't' => some '\t'
  | 'n' => some '\n'
  | 'f' => some '\x0c'
  | 'r' => some '\r'
  | '"' => some '"'
  | '\\' => some '\\'
  | _ => none

/-- Read an escape after its backslash. -/
def readEscape : List Char → Except Stop (Char × List Char)
  | 'u' :: rest => readScalar 4 rest
  | 'U' :: rest => readScalar 8 rest
  | c :: rest =>
      match escapeLetter? c with
      | some escaped => .ok (escaped, rest)
      | none => stopAt (if c.toNat < 0x80 then rest else c :: rest)
  | [] => stopAt []

/--
Read a text of one line up to its closing quote; `read` holds its characters,
last first, and every character uses up some `fuel`.
-/
def readOneLine (s : Style) (fuel : Nat) (read text : List Char) :
    Except Stop (String × List Char) :=
  match fuel with
  | 0 => stopAt text
  | fuel + 1 =>
      match text with
      | [] => stopAt []
      | c :: rest =>
          if c == s.quote then .ok (String.ofList read.reverse, rest)
          else if s.plain c then readOneLine s fuel (c :: read) rest
          else if s.escapesAt text then
            match readEscape rest with
            | .ok (escaped, rest) => readOneLine s fuel (escaped :: read) rest
            | .error stop => .error stop
          else stopAt text

/-- Whether a text of several lines goes on here with something else than a quote. -/
def Style.continues (s : Style) (text : List Char) : Bool :=
  text.head?.any s.plain || s.escapesAt text || (afterLineEnd? text).isSome

/--
Read a text of several lines up to its three closing quotes. One or two quotes
in front of them, or in front of anything else, belong to the text.
-/
def readManyLines (s : Style) (fuel : Nat) (read text : List Char) :
    Except Stop (String × List Char) :=
  match fuel with
  | 0 => stopAt text
  | fuel + 1 =>
      let quotes := text.takeWhile (· == s.quote)
      let after := text.drop quotes.length
      if 3 ≤ quotes.length then
        let kept := min (quotes.length - 3) 2
        .ok (String.ofList (read.reverse ++ List.replicate kept s.quote), text.drop (kept + 3))
      else if !s.continues after then stopAt text
      else
        let read := quotes ++ read
        match after with
        | [] => stopAt []
        | c :: rest =>
            if s.plain c then readManyLines s fuel (c :: read) rest
            else
              match afterLineEnd? after with
              | some rest => readManyLines s fuel ('\n' :: read) rest
              | none =>
                  if (afterLineEnd? (skipBlanks rest)).isSome then
                    readManyLines s fuel read (skipLines rest)
                  else
                    match readEscape rest with
                    | .ok (escaped, rest) => readManyLines s fuel (escaped :: read) rest
                    | .error stop => .error stop

/-- Read a text after its first quote; it may have several lines if `long` allows it. -/
def readQuoted (s : Style) (long : Bool) (text : List Char) : Except Stop (String × List Char) :=
  match long, text with
  | true, first :: second :: rest =>
      if first == s.quote && second == s.quote then
        let body := (afterLineEnd? rest).getD rest
        readManyLines s (body.length + 1) [] body
      else readOneLine s (text.length + 1) [] text
  | _, _ => readOneLine s (text.length + 1) [] text

end Notary.Toml
