import Notary.Text.Encoding.Table
import Notary.Text.Utf8

namespace Notary.Text

/-!
# Characters of several bytes

A text whose characters take one byte or more is read portion by portion. Bytes
that make no character are a portion with a replacement character; an ASCII byte
that ends such a portion does not belong to it and is read again.
-/

/-- What a byte sequence starts with: characters, and the number of bytes that they take. -/
structure Portion where
  characters : List Char
  width : Nat
deriving Repr, DecidableEq

namespace Portion

/-- A portion of one character. -/
def one (c : Char) (width : Nat) : Portion :=
  ⟨[c], width⟩

/-- A portion that makes no character. -/
def malformed (width : Nat) : Portion :=
  ⟨[replacement], width⟩

/-- A portion that ends with a given byte: a character if there is one. -/
def ending (last : UInt8) (width : Nat) : Option Char → Portion
  | some c => one c width
  | none => malformed (if last < 0x80 then width - 1 else width)

/-- A byte that is a character by itself. -/
def ascii (b : UInt8) : Portion :=
  one (Char.ofNat b.toNat) 1

end Portion

/-- The portions of a byte sequence; `skip` counts the bytes that were read already. -/
def portions (read : UInt8 → List UInt8 → Portion) (skip : Nat) : List UInt8 → List Portion
  | [] => []
  | b :: rest =>
      match skip with
      | left + 1 => portions read left rest
      | 0 =>
          let portion := read b rest
          portion :: portions read (portion.width - 1) rest

/-- The text of a byte sequence that is read in portions. -/
def decodePortions (read : UInt8 → List UInt8 → Portion) (bytes : List UInt8) : List Char :=
  (portions read 0 bytes).flatMap Portion.characters

/-- Whether a byte lies in a range. -/
def within (low high b : UInt8) : Bool :=
  low ≤ b && b ≤ high

/-- The katakana of half width, of which there are sixty-three. -/
def halfKatakana (number : Nat) : Char :=
  Char.ofNat (0xFF61 + number)

end Notary.Text
