namespace Notary.Text

/-!
# UTF-8

Reading bytes as UTF-8 in three ways: strictly, with one replacement character
for every maximal ill-formed piece, and as a list of symbols that keeps a byte
belonging to no character as it is. All three rest on `lead`, which tells how a
byte sequence starts.
-/

/-- A byte that may follow a leading byte. -/
def isContinuation (b : UInt8) : Bool :=
  0x80 ≤ b && b ≤ 0xBF

/-- The six low bits that a continuation byte carries. -/
def tailBits (b : UInt8) : Nat :=
  b.toNat - 0x80

/--
How a sequence of bytes starts: with a whole character and the number of bytes
it takes, or with an ill-formed piece and the number of bytes that belong to it.
-/
inductive Lead where
  | scalar (value : Nat) (width : Nat)
  | illFormed (width : Nat)
deriving Repr, DecidableEq

/-- Read a character of two bytes, after its first byte. -/
def leadTwo (first : UInt8) : List UInt8 → Lead
  | b1 :: _ =>
      if isContinuation b1 then
        .scalar ((first.toNat - 0xC0) * 0x40 + tailBits b1) 2
      else .illFormed 1
  | [] => .illFormed 1

/--
Read a character of three bytes, after its first byte; the second byte lies in
`low … high`, which excludes overlong forms and surrogates.
-/
def leadThree (first low high : UInt8) : List UInt8 → Lead
  | b1 :: b2 :: _ =>
      if low ≤ b1 && b1 ≤ high then
        if isContinuation b2 then
          .scalar ((first.toNat - 0xE0) * 0x1000 + tailBits b1 * 0x40 + tailBits b2) 3
        else .illFormed 2
      else .illFormed 1
  | [b1] => if low ≤ b1 && b1 ≤ high then .illFormed 2 else .illFormed 1
  | [] => .illFormed 1

/--
Read a character of four bytes, after its first byte; the second byte lies in
`low … high`, which excludes overlong forms and values past the last character.
-/
def leadFour (first low high : UInt8) : List UInt8 → Lead
  | b1 :: b2 :: b3 :: _ =>
      if low ≤ b1 && b1 ≤ high then
        if isContinuation b2 then
          if isContinuation b3 then
            .scalar
              ((first.toNat - 0xF0) * 0x40000 + tailBits b1 * 0x1000 +
                tailBits b2 * 0x40 + tailBits b3) 4
          else .illFormed 3
        else .illFormed 2
      else .illFormed 1
  | [b1, b2] =>
      if low ≤ b1 && b1 ≤ high then
        if isContinuation b2 then .illFormed 3 else .illFormed 2
      else .illFormed 1
  | [b1] => if low ≤ b1 && b1 ≤ high then .illFormed 2 else .illFormed 1
  | [] => .illFormed 1

/-- How the bytes `first :: rest` start. -/
def lead (first : UInt8) (rest : List UInt8) : Lead :=
  if first < 0x80 then .scalar first.toNat 1
  else if first < 0xC2 then .illFormed 1
  else if first < 0xE0 then leadTwo first rest
  else if first == 0xE0 then leadThree first 0xA0 0xBF rest
  else if first == 0xED then leadThree first 0x80 0x9F rest
  else if first < 0xF0 then leadThree first 0x80 0xBF rest
  else if first == 0xF0 then leadFour first 0x90 0xBF rest
  else if first < 0xF4 then leadFour first 0x80 0xBF rest
  else if first == 0xF4 then leadFour first 0x80 0x8F rest
  else .illFormed 1

/-- A character of the text, or a byte that belongs to no character. -/
inductive Symbol where
  | char (c : Char)
  | stray (b : UInt8)
deriving Repr, DecidableEq

namespace Symbol

/-- The number of bytes that a symbol takes. -/
def width : Symbol → Nat
  | .char c => c.utf8Size
  | .stray _ => 1

/-- The character of a symbol, if it is one. -/
def char? : Symbol → Option Char
  | .char c => some c
  | .stray _ => none

end Symbol

/--
The symbols of a byte sequence. `skip` counts the bytes that still belong to the
character read before, so that the recursion walks the bytes one by one.
-/
def symbolsFrom (skip : Nat) : List UInt8 → List Symbol
  | [] => []
  | b :: rest =>
      match skip with
      | left + 1 => symbolsFrom left rest
      | 0 =>
          match lead b rest with
          | .scalar value width => .char (Char.ofNat value) :: symbolsFrom (width - 1) rest
          | .illFormed _ => .stray b :: symbolsFrom 0 rest

/-- The symbols of a byte sequence. -/
def symbols (bytes : List UInt8) : List Symbol :=
  symbolsFrom 0 bytes

/-- The text of a well-formed byte sequence, and nothing for any other. -/
def decodeUtf8? (bytes : List UInt8) : Option (List Char) :=
  (symbols bytes).mapM Symbol.char?

/-- The character that stands for an ill-formed piece. -/
def replacement : Char :=
  Char.ofNat 0xFFFD

/--
The text of any byte sequence; every maximal ill-formed piece becomes one
replacement character. `skip` counts the bytes that were read already.
-/
def decodeLossyFrom (skip : Nat) : List UInt8 → List Char
  | [] => []
  | b :: rest =>
      match skip with
      | left + 1 => decodeLossyFrom left rest
      | 0 =>
          match lead b rest with
          | .scalar value width => Char.ofNat value :: decodeLossyFrom (width - 1) rest
          | .illFormed width => replacement :: decodeLossyFrom (width - 1) rest

/-- The text of any byte sequence, with replacement characters where needed. -/
def decodeLossy (bytes : List UInt8) : List Char :=
  decodeLossyFrom 0 bytes

/-- The bytes of a text. -/
def encodeUtf8 (cs : List Char) : List UInt8 :=
  cs.flatMap String.utf8EncodeChar

/-- The byte order mark in UTF-8. -/
def byteOrderMark : List UInt8 :=
  [0xEF, 0xBB, 0xBF]

/-- A byte sequence without one byte order mark at its start. -/
def dropByteOrderMark : List UInt8 → List UInt8
  | 0xEF :: 0xBB :: 0xBF :: rest => rest
  | bytes => bytes

/-- The text in which every byte stands for the character of the same number. -/
def decodeLatin1 (bytes : List UInt8) : List Char :=
  bytes.map fun b => Char.ofNat b.toNat

end Notary.Text
