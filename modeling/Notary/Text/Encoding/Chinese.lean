import Notary.Text.Encoding.Portion
import Notary.Text.Encoding.Table.Big5
import Notary.Text.Encoding.Table.Gb18030

namespace Notary.Text

/-!
# Chinese encodings

GB 18030 has characters of one, two and four bytes; those of four are numbered
by code point as far as the others leave them out. Big5 has characters of one and
two bytes, and four pairs of bytes that stand for a letter and a mark above it.
-/

/-- The character of a number among those of four bytes. -/
def fourByteChar? (number : Nat) : Option Char :=
  if number = 7457 then some '\uE7C7'
  else if number < 39420 then
    ((Table.gb18030Jumps.takeWhile fun jump => jump.1 ≤ number).getLast?).map
      fun (start, first) => Char.ofNat (first + (number - start))
  else if 189000 ≤ number && number < 189000 + 0x100000 then
    some (Char.ofNat (0x10000 + (number - 189000)))
  else none

/-- A byte that is a digit in ASCII. -/
def isDigitByte (b : UInt8) : Bool :=
  within 0x30 0x39 b

/-- Read four bytes of which the second one is a digit. -/
def readFourBytes (b1 b2 : UInt8) : List UInt8 → Portion
  | [] => .malformed 2
  | b3 :: rest =>
      if within 0x81 0xFE b3 then
        match rest with
        | [] => .malformed 3
        | b4 :: _ =>
            if isDigitByte b4 then
              let number :=
                (((b1.toNat - 0x81) * 10 + (b2.toNat - 0x30)) * 126 + (b3.toNat - 0x81)) * 10 +
                  (b4.toNat - 0x30)
              match fourByteChar? number with
              | some c => .one c 4
              | none => .malformed 4
            else .malformed 1
      else .malformed 1

/-- The character of two bytes in GB 18030. -/
def gb18030Pair? (lead trail : UInt8) : Option Char :=
  if within 0x40 0x7E trail || within 0x80 0xFE trail then
    let column := trail.toNat - (if trail < 0x7F then 0x40 else 0x41)
    Table.look? Table.gb18030 ((lead.toNat - 0x81) * 190 + column)
  else none

/-- Read the start of a text in GB 18030. -/
def readGb18030 (b : UInt8) (rest : List UInt8) : Portion :=
  if b < 0x80 then .ascii b
  else if b == 0x80 then .one '€' 1
  else if b == 0xFF then .malformed 1
  else
    match rest with
    | [] => .malformed 1
    | trail :: rest =>
        if isDigitByte trail then readFourBytes b trail rest
        else .ending trail 2 (gb18030Pair? b trail)

/-- The letters with marks that have no code point of their own, by their numbers. -/
def big5Marked : List (Nat × List Char) :=
  [(1133, ['\u00CA', '\u0304']), (1135, ['\u00CA', '\u030C']),
    (1164, ['\u00EA', '\u0304']), (1166, ['\u00EA', '\u030C'])]

/-- Read two bytes of Big5. -/
def readBig5Pair (lead trail : UInt8) : Portion :=
  if within 0x40 0x7E trail || within 0xA1 0xFE trail then
    let column := trail.toNat - (if trail < 0x7F then 0x40 else 0x62)
    let number := (lead.toNat - 0x81) * 157 + column
    match big5Marked.find? (·.1 = number) with
    | some (_, characters) => ⟨characters, 2⟩
    | none => .ending trail 2 (Table.look? Table.big5 number)
  else .ending trail 2 none

/-- Read the start of a text in Big5. -/
def readBig5 (b : UInt8) (rest : List UInt8) : Portion :=
  if b < 0x80 then .ascii b
  else if within 0x81 0xFE b then
    match rest with
    | [] => .malformed 1
    | trail :: _ => readBig5Pair b trail
  else .malformed 1

/-- The text of a byte sequence in GB 18030, which includes GBK. -/
def decodeGb18030 : List UInt8 → List Char :=
  decodePortions readGb18030

/-- The text of a byte sequence in Big5. -/
def decodeBig5 : List UInt8 → List Char :=
  decodePortions readBig5

end Notary.Text
