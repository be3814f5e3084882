namespace Notary.Text.Base64

/-!
# Base64

The standard alphabet, written with padding for payloads in reports and without
padding inside secret hashes. Reading accepts exactly the canonical spellings:
no stray bits in the last digit.
-/

/-- The digit of a value below 64. -/
def digit (value : Nat) : Char :=
  if value < 26 then Char.ofNat (value + 65)
  else if value < 52 then Char.ofNat (value + 71)
  else if value < 62 then Char.ofNat (value - 4)
  else if value == 62 then '+'
  else '/'

/-- The value of a digit. -/
def value? (c : Char) : Option Nat :=
  if 'A' ≤ c && c ≤ 'Z' then some (c.toNat - 65)
  else if 'a' ≤ c && c ≤ 'z' then some (c.toNat - 71)
  else if '0' ≤ c && c ≤ '9' then some (c.toNat + 4)
  else if c == '+' then some 62
  else if c == '/' then some 63
  else none

/-- Write bytes without padding. -/
def encodeUnpadded : List UInt8 → List Char
  | a :: b :: c :: rest =>
      digit (a.toNat / 4) ::
      digit (a.toNat % 4 * 16 + b.toNat / 16) ::
      digit (b.toNat % 16 * 4 + c.toNat / 64) ::
      digit (c.toNat % 64) ::
      encodeUnpadded rest
  | [a, b] =>
      [digit (a.toNat / 4), digit (a.toNat % 4 * 16 + b.toNat / 16), digit (b.toNat % 16 * 4)]
  | [a] => [digit (a.toNat / 4), digit (a.toNat % 4 * 16)]
  | [] => []

/-- Write bytes, padded to a multiple of four digits. -/
def encode : List UInt8 → List Char
  | a :: b :: c :: rest =>
      digit (a.toNat / 4) ::
      digit (a.toNat % 4 * 16 + b.toNat / 16) ::
      digit (b.toNat % 16 * 4 + c.toNat / 64) ::
      digit (c.toNat % 64) ::
      encode rest
  | [a, b] =>
      [digit (a.toNat / 4), digit (a.toNat % 4 * 16 + b.toNat / 16), digit (b.toNat % 16 * 4), '=']
  | [a] => [digit (a.toNat / 4), digit (a.toNat % 4 * 16), '=', '=']
  | [] => []

/-- The bytes of a group of two digits, the last one without stray bits. -/
def pair? (a b : Nat) : Option (List UInt8) :=
  if b % 16 = 0 then some [(a * 4 + b / 16).toUInt8] else none

/-- The bytes of a group of three digits, the last one without stray bits. -/
def triple? (a b c : Nat) : Option (List UInt8) :=
  if c % 4 = 0 then
    some [(a * 4 + b / 16).toUInt8, (b % 16 * 16 + c / 4).toUInt8]
  else none

/-- The bytes of a group of four digits. -/
def quad (a b c d : Nat) : List UInt8 :=
  [(a * 4 + b / 16).toUInt8, (b % 16 * 16 + c / 4).toUInt8, (c % 4 * 64 + d).toUInt8]

/-- Read a canonical spelling without padding. -/
def decodeUnpadded? : List Char → Option (List UInt8)
  | a :: b :: c :: d :: rest => do
      let head := quad (← value? a) (← value? b) (← value? c) (← value? d)
      let tail ← decodeUnpadded? rest
      return head ++ tail
  | [a, b, c] => do triple? (← value? a) (← value? b) (← value? c)
  | [a, b] => do pair? (← value? a) (← value? b)
  | [_] => none
  | [] => some []

/-- Read a canonical spelling with padding. -/
def decode? : List Char → Option (List UInt8)
  | a :: b :: c :: d :: rest =>
      if d = '=' ∧ rest = [] then
        if c = '=' then do pair? (← value? a) (← value? b)
        else do triple? (← value? a) (← value? b) (← value? c)
      else do
        let head := quad (← value? a) (← value? b) (← value? c) (← value? d)
        let tail ← decode? rest
        return head ++ tail
  | [] => some []
  | _ => none

/-- The Base64 text of a string's UTF-8 bytes. -/
def encodeText (s : String) : String :=
  String.ofList (encode s.toByteArray.toList)

end Notary.Text.Base64
