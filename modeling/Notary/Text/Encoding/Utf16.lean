import Notary.Text.Utf8

namespace Notary.Text

/-!
# UTF-16

Reading pairs of bytes as UTF-16 in either byte order. A unit that belongs to no
pair of surrogates becomes a replacement character, and so does what is left of
a unit or a pair at the end.
-/

/-- The units of a byte sequence, and whether a byte is left over. -/
def units16 (bigEndian : Bool) : List UInt8 → List Nat × Bool
  | a :: b :: rest =>
      let (units, left) := units16 bigEndian rest
      let unit := if bigEndian then a.toNat * 256 + b.toNat else b.toNat * 256 + a.toNat
      (unit :: units, left)
  | [_] => ([], true)
  | [] => ([], false)

/-- Whether a unit is the first half of a pair. -/
def isHighHalf (unit : Nat) : Bool :=
  0xD800 ≤ unit && unit ≤ 0xDBFF

/-- Whether a unit is the second half of a pair. -/
def isLowHalf (unit : Nat) : Bool :=
  0xDC00 ≤ unit && unit ≤ 0xDFFF

/--
The text of units. `high` is a first half that waits for its second one, and
`left` tells whether a byte follows the last unit.
-/
def decodeUnits (left : Bool) (high : Option Nat) : List Nat → List Char
  | [] => if left || high.isSome then [replacement] else []
  | unit :: rest =>
      match high with
      | some first =>
          if isLowHalf unit then
            Char.ofNat (0x10000 + (first - 0xD800) * 0x400 + (unit - 0xDC00)) ::
              decodeUnits left none rest
          else if isHighHalf unit then replacement :: decodeUnits left (some unit) rest
          else replacement :: Char.ofNat unit :: decodeUnits left none rest
      | none =>
          if isHighHalf unit then decodeUnits left (some unit) rest
          else if isLowHalf unit then replacement :: decodeUnits left none rest
          else Char.ofNat unit :: decodeUnits left none rest

/-- The text of a byte sequence in UTF-16. -/
def decodeUtf16 (bigEndian : Bool) (bytes : List UInt8) : List Char :=
  let (units, left) := units16 bigEndian bytes
  decodeUnits left none units

end Notary.Text
