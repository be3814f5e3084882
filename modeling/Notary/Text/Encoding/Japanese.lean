import Notary.Text.Encoding.Portion
import Notary.Text.Encoding.Table.Jis0208
import Notary.Text.Encoding.Table.Jis0212

namespace Notary.Text

/-!
# Japanese encodings

Three encodings of the same tables. Two of them tell characters of one byte from
longer ones by the first byte; the third one uses ASCII bytes only and switches
between sets of characters by escape sequences.
-/

/-- The character of a row and a column, from their bytes where each starts at `base`. -/
def jisChar? (table : Array (Option Char)) (base lead trail : UInt8) : Option Char :=
  Table.look? table ((lead.toNat - base.toNat) * 94 + (trail.toNat - base.toNat))

/-- The character of two bytes in Shift JIS. -/
def shiftJisPair? (lead trail : UInt8) : Option Char :=
  if within 0x40 0x7E trail || within 0x80 0xFC trail then
    let row := lead.toNat - (if lead < 0xA0 then 0x81 else 0xC1)
    let column := trail.toNat - (if trail < 0x7F then 0x40 else 0x41)
    let number := row * 188 + column
    if 8836 ≤ number && number ≤ 10715 then some (Char.ofNat (0xE000 + (number - 8836)))
    else Table.look? Table.jis0208 number
  else none

/-- Read the start of a text in Shift JIS. -/
def readShiftJis (b : UInt8) (rest : List UInt8) : Portion :=
  if b ≤ 0x80 then .ascii b
  else if within 0xA1 0xDF b then .one (halfKatakana (b.toNat - 0xA1)) 1
  else if within 0x81 0x9F b || within 0xE0 0xFC b then
    match rest with
    | [] => .malformed 1
    | trail :: _ => .ending trail 2 (shiftJisPair? b trail)
  else .malformed 1

/-- A byte of a row or a column in the extended encoding. -/
def isUpperByte (b : UInt8) : Bool :=
  within 0xA1 0xFE b

/-- Read the start of a text in the extended encoding, after a first byte that is not ASCII. -/
def readEucJpRest (b trail : UInt8) (rest : List UInt8) : Portion :=
  if b == 0x8E && within 0xA1 0xDF trail then .one (halfKatakana (trail.toNat - 0xA1)) 2
  else if b == 0x8F && isUpperByte trail then
    match rest with
    | [] => .malformed 2
    | last :: _ =>
        .ending last 3
          (if isUpperByte last then jisChar? Table.jis0212 0xA1 trail last else none)
  else
    .ending trail 2
      (if isUpperByte b && isUpperByte trail then jisChar? Table.jis0208 0xA1 b trail else none)

/-- Read the start of a text in the extended encoding. -/
def readEucJp (b : UInt8) (rest : List UInt8) : Portion :=
  if b < 0x80 then .ascii b
  else if b == 0x8E || b == 0x8F || isUpperByte b then
    match rest with
    | [] => .malformed 1
    | trail :: rest => readEucJpRest b trail rest
  else .malformed 1

/-- The text of a byte sequence in Shift JIS. -/
def decodeShiftJis : List UInt8 → List Char :=
  decodePortions readShiftJis

/-- The text of a byte sequence in the extended encoding. -/
def decodeEucJp : List UInt8 → List Char :=
  decodePortions readEucJp

/-- A set of characters that an escape sequence selects. -/
inductive CharacterSet where
  | ascii
  /-- ASCII with a yen sign and an overline. -/
  | roman
  | katakana
  /-- Characters of two bytes. -/
  | pairs
deriving Repr, DecidableEq

/-- The set that the two bytes after an escape byte select. -/
def selectedSet? : UInt8 → UInt8 → Option CharacterSet
  | 0x28, 0x42 => some .ascii
  | 0x28, 0x4A => some .roman
  | 0x28, 0x49 => some .katakana
  | 0x24, 0x40 => some .pairs
  | 0x24, 0x42 => some .pairs
  | _, _ => none

/-- A byte that is a character of its own in the sets of one byte. -/
def isPlainByte (b : UInt8) : Bool :=
  b < 0x80 && b != 0x0E && b != 0x0F

/-- Read the start of a text in a set; the first byte starts no escape sequence. -/
def readInSet (b : UInt8) (rest : List UInt8) : CharacterSet → Portion
  | .ascii => if isPlainByte b then .ascii b else .malformed 1
  | .roman =>
      if b == 0x5C then .one '¥' 1
      else if b == 0x7E then .one '‾' 1
      else if isPlainByte b then .ascii b
      else .malformed 1
  | .katakana =>
      if within 0x21 0x5F b then .one (halfKatakana (b.toNat - 0x21)) 1 else .malformed 1
  | .pairs =>
      match within 0x21 0x7E b, rest with
      | true, trail :: _ =>
          if trail == 0x1B then .malformed 1
          else if within 0x21 0x7E trail then
            match jisChar? Table.jis0208 0x21 b trail with
            | some c => .one c 2
            | none => .malformed 2
          else .malformed 2
      | _, _ => .malformed 1

/--
The text of a byte sequence with escape sequences, from the bytes after `skip`
ones on. `bare` tells that nothing has come since the last escape sequence; one
more of them right behind it is malformed.
-/
def decodeSets (set : CharacterSet) (bare : Bool) (skip : Nat) : List UInt8 → List (List Char)
  | [] => []
  | b :: rest =>
      match skip with
      | left + 1 => decodeSets set bare left rest
      | 0 =>
          if b == 0x1B then
            match (rest.head?.bind fun x => (rest.drop 1).head?.bind (selectedSet? x)) with
            | some next => (if bare then [replacement] else []) :: decodeSets next true 2 rest
            | none => [replacement] :: decodeSets set false 0 rest
          else
            let portion := readInSet b rest set
            portion.characters :: decodeSets set false (portion.width - 1) rest

/-- The text of a byte sequence in the encoding with escape sequences. -/
def decodeIso2022Jp (bytes : List UInt8) : List Char :=
  (decodeSets .ascii false 0 bytes).flatten

end Notary.Text
