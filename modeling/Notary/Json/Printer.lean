import Notary.Json.Value
import Notary.Text.Quoted

namespace Notary.Json

/-!
# Writing JSON

A value is written either on one line without spaces or over several lines,
indented by two spaces a level. In strings quotes and backslashes get a
backslash, five controls have letters, and the other controls are spelled by
number; everything else stands for itself.
-/

/-- A control character by its number. -/
def spellControl (n : Nat) : List Char :=
  ['\\', 'u', '0', '0', Text.hexDigit (n / 16), Text.hexDigit (n % 16)]

/-- How a character is written inside a string. -/
def escapeChar (c : Char) : List Char :=
  if c == '"' then ['\\', '"']
  else if c == '\\' then ['\\', '\\']
  else if c == '\x08' then ['\\', 'b']
  else if c == '\x0c' then ['\\', 'f']
  else if c == '\n' then ['\\', 'n']
  else if c == '\r' then ['\\', 'r']
  else if c == '\t' then ['\\', 't']
  else if c.toNat < 0x20 then spellControl c.toNat
  else [c]

/-- A string in quotes. -/
def writeString (s : String) : List Char :=
  '"' :: (s.toList.flatMap escapeChar ++ ['"'])

/-- A number; one that is not finite has no spelling and is written as null. -/
def writeNumber : Number → List Char
  | .whole value => (toString value).toList
  | .floating bits =>
      if 0x7FF0000000000000 ≤ bits.toNat % Nat.pow 2 63 then "null".toList
      else (Number.text (.floating bits)).toList

/-- True or false. -/
def writeBool (value : Bool) : List Char :=
  if value then "true".toList else "false".toList

mutual

/-- A value on one line. -/
def write : Value → List Char
  | .null => "null".toList
  | .bool value => writeBool value
  | .number value => writeNumber value
  | .string value => writeString value
  | .array [] => ['[', ']']
  | .array (item :: rest) => '[' :: (write item ++ writeItems rest)
  | .object [] => ['{', '}']
  | .object ((name, value) :: rest) =>
      '{' :: (writeString name ++ ':' :: (write value ++ writeMembers rest))

/-- The items after the first one, and the end of the array. -/
def writeItems : List Value → List Char
  | [] => [']']
  | item :: rest => ',' :: (write item ++ writeItems rest)

/-- The members after the first one, and the end of the object. -/
def writeMembers : List (String × Value) → List Char
  | [] => ['}']
  | (name, value) :: rest =>
      ',' :: (writeString name ++ ':' :: (write value ++ writeMembers rest))

end

/-- A new line at a level of indentation. -/
def newLine (level : Nat) : List Char :=
  '\n' :: List.replicate (2 * level) ' '

mutual

/-- A value over several lines, its own first line at `level`. -/
def writeIndented (level : Nat) : Value → List Char
  | .null => "null".toList
  | .bool value => writeBool value
  | .number value => writeNumber value
  | .string value => writeString value
  | .array [] => ['[', ']']
  | .array (item :: rest) =>
      '[' :: (newLine (level + 1) ++ writeIndented (level + 1) item ++ indentItems level rest)
  | .object [] => ['{', '}']
  | .object ((name, value) :: rest) =>
      '{' :: (newLine (level + 1) ++ writeString name ++ ':' :: ' ' ::
        (writeIndented (level + 1) value ++ indentMembers level rest))

/-- The items after the first one, and the end of an array at `level`. -/
def indentItems (level : Nat) : List Value → List Char
  | [] => newLine level ++ [']']
  | item :: rest =>
      ',' :: (newLine (level + 1) ++ writeIndented (level + 1) item ++ indentItems level rest)

/-- The members after the first one, and the end of an object at `level`. -/
def indentMembers (level : Nat) : List (String × Value) → List Char
  | [] => newLine level ++ ['}']
  | (name, value) :: rest =>
      ',' :: (newLine (level + 1) ++ writeString name ++ ':' :: ' ' ::
        (writeIndented (level + 1) value ++ indentMembers level rest))

end

namespace Value

/-- The text of a value on one line. -/
def text (v : Value) : String :=
  String.ofList (write v)

/-- The text of a value over several lines. -/
def indented (v : Value) : String :=
  String.ofList (writeIndented 0 v)

end Value

end Notary.Json
