import Notary.Text.Utf8

namespace Notary.Json

/-!
# Defects of a JSON text

What can be wrong with a text as JSON, and where. A fault keeps the number of
bytes before it; line and column are worked out from the text when the fault is
put into words.
-/

/-- What is wrong with a JSON text. -/
inductive FaultCode where
  | endInList
  | endInObject
  | endInString
  | endInValue
  | colonExpected
  | listCommaExpected
  | objectCommaExpected
  | wordExpected
  | valueExpected
  | badEscape
  | badNumber
  | numberTooLarge
  | notUnicode
  | controlCharacter
  | nameExpected
  | loneSurrogate
  | trailingComma
  | trailingText
  | surrogateUnpaired
  | tooDeep
deriving Repr, DecidableEq

namespace FaultCode

/-- The words for a defect. -/
def text : FaultCode → String
  | endInList => "EOF while parsing a list"
  | endInObject => "EOF while parsing an object"
  | endInString => "EOF while parsing a string"
  | endInValue => "EOF while parsing a value"
  | colonExpected => "expected `:`"
  | listCommaExpected => "expected `,` or `]`"
  | objectCommaExpected => "expected `,` or `\x7d`"
  | wordExpected => "expected ident"
  | valueExpected => "expected value"
  | badEscape => "invalid escape"
  | badNumber => "invalid number"
  | numberTooLarge => "number out of range"
  | notUnicode => "invalid unicode code point"
  | controlCharacter => "control character (\\u0000-\\u001F) found while parsing a string"
  | nameExpected => "key must be a string"
  | loneSurrogate => "lone leading surrogate in hex escape"
  | trailingComma => "trailing comma"
  | trailingText => "trailing characters"
  | surrogateUnpaired => "unexpected end of hex escape"
  | tooDeep => "recursion limit exceeded"

/-- Whether the defect is that the text ends too early. -/
def atEnd : FaultCode → Bool
  | endInList | endInObject | endInString | endInValue => true
  | _ => false

end FaultCode

/-- A defect and the number of bytes before it. -/
structure Fault where
  code : FaultCode
  offset : Nat
deriving Repr, DecidableEq

/-- A place in a text: the line, counted from one, and the bytes before it on that line. -/
structure Position where
  line : Nat
  column : Nat
deriving Repr, DecidableEq

namespace Position

/--
The place `offset` bytes into a text. `read` counts the bytes passed so far and
`lineStart` those before the current line.
-/
def locate (offset : Nat) (read line lineStart : Nat) : List Text.Symbol → Position
  | [] => ⟨line, offset - lineStart⟩
  | symbol :: rest =>
      if offset ≤ read then ⟨line, offset - lineStart⟩
      else
        let next := read + symbol.width
        if symbol = .char '\n' then locate offset next (line + 1) next rest
        else locate offset next line lineStart rest

/-- The place `offset` bytes into a text. -/
def ofOffset (text : List Text.Symbol) (offset : Nat) : Position :=
  locate offset 0 1 0 text

/-- The words that tell a place. -/
def suffix (p : Position) : String :=
  " at line " ++ toString p.line ++ " column " ++ toString p.column

end Position

/-- The sum of the widths of symbols in bytes. -/
def widthOf (symbols : List Text.Symbol) : Nat :=
  symbols.foldl (fun total symbol => total + symbol.width) 0

end Notary.Json
