import Notary.Text.Encoding.Portion
import Notary.Text.Encoding.Table.KsX1001

namespace Notary.Text

/-!
# The Korean encoding

Characters of one byte, which are ASCII, and of two.
-/

/-- The character of two bytes in the Korean encoding. -/
def koreanPair? (lead trail : UInt8) : Option Char :=
  if within 0x41 0xFE trail then
    Table.look? Table.ksX1001 ((lead.toNat - 0x81) * 190 + (trail.toNat - 0x41))
  else none

/-- Read the start of a text in the Korean encoding. -/
def readEucKr (b : UInt8) (rest : List UInt8) : Portion :=
  if b < 0x80 then .ascii b
  else if within 0x81 0xFE b then
    match rest with
    | [] => .malformed 1
    | trail :: _ => .ending trail 2 (koreanPair? b trail)
  else .malformed 1

/-- The text of a byte sequence in the Korean encoding. -/
def decodeEucKr : List UInt8 → List Char :=
  decodePortions readEucKr

end Notary.Text
