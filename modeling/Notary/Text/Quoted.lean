import Notary.Text.Printable

namespace Notary.Text

/-!
# Quoted texts

A text is quoted, in messages and log fields, between double quotes. Quotes and
backslashes get a backslash, four controls have letters, and every other
character that does not show is spelled by its number in hexadecimal.
-/

/-- A digit of a hexadecimal number. -/
def hexDigit (value : Nat) : Char :=
  if value < 10 then Char.ofNat (48 + value) else Char.ofNat (87 + value)

/-- The hexadecimal digits of a number in front of others. -/
def hexDigitsOnto (n : Nat) (digits : List Char) : List Char :=
  if n < 16 then hexDigit n :: digits
  else hexDigitsOnto (n / 16) (hexDigit (n % 16) :: digits)
termination_by n
decreasing_by omega

/-- The hexadecimal digits of a number, without leading zeros. -/
def hexDigits (n : Nat) : List Char :=
  hexDigitsOnto n []

/-- How a character is written between quotes. -/
def quoteChar (c : Char) : List Char :=
  if c == '"' then ['\\', '"']
  else if c == '\\' then ['\\', '\\']
  else if c == '\t' then ['\\', 't']
  else if c == '\r' then ['\\', 'r']
  else if c == '\n' then ['\\', 'n']
  else if c.toNat == 0 then ['\\', '0']
  else if isPrintable c then [c]
  else '\\' :: 'u' :: '\x7b' :: (hexDigits c.toNat ++ ['\x7d'])

/-- A text between quotes. -/
def quoted (s : String) : String :=
  String.ofList ('"' :: (s.toList.flatMap quoteChar ++ ['"']))

end Notary.Text
