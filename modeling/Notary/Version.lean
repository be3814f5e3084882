import Notary.Text.Digit

namespace Notary

/-!
# Protocol versions

The four-part version that is written into proofs. It is derived from the build
version, whose text has three or four dotted numbers and an optional suffix that
starts at the first hyphen or plus sign.
-/

/-- A version of four 32-bit numbers. -/
structure Version where
  major : UInt32
  minor : UInt32
  patch : UInt32
  build : UInt32
deriving Repr, DecidableEq

namespace Version

/-- The version that stands in for an unreadable build version. -/
def fallback : Version := ⟨2, 0, 0, 0⟩

/-- A number below 2³²: ASCII digits, with a plus sign in front of them if one is there. -/
def part? (cs : List Char) : Option UInt32 :=
  let digits := Text.withoutPlus cs
  if digits.isEmpty || !digits.all Char.isDigit then none
  else
    let value := Text.decimalValue digits
    if value < Nat.pow 2 32 then some (UInt32.ofNat value) else none

/-- The part of a version text before its suffix. -/
def core (cs : List Char) : List Char :=
  cs.takeWhile fun c => c != '-' && c != '+'

/-- A version with its parts in order; a missing fourth part is zero. -/
def ofParts? : List UInt32 → Option Version
  | [major, minor, patch] => some ⟨major, minor, patch, 0⟩
  | [major, minor, patch, build] => some ⟨major, minor, patch, build⟩
  | _ => none

/-- Read a version text. -/
def parse? (s : String) : Option Version :=
  (((core s.toList).splitOn '.').mapM part?).bind ofParts?

/-- The text of a version, all four parts. -/
def text (v : Version) : String :=
  ".".intercalate ([v.major, v.minor, v.patch, v.build].map fun n => toString n.toNat)

/-- Why a version text cannot be read. -/
def unreadable (s : String) : String :=
  "invalid version '" ++ s ++ "'"

/-- The version of a build, with the fallback for an unreadable text. -/
def ofBuild (s : String) : Version :=
  (parse? s).getD fallback

end Version

end Notary
