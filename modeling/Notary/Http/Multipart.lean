import Notary.Http.HeaderBlock
import Notary.Text.Encoding

namespace Notary.Http

/-!
# Forms in parts

A form is a sequence of parts between markers. A marker is two dashes and the
boundary; what stands before the first one is skipped. After a marker, two dashes
end the form; otherwise blanks and a line end follow, then a header block, and
then the data of the part up to the line end in front of the next marker.

A form is read part by part. Where it breaks off, the parts before that place
have been read already.
-/

/-- A part of a form. -/
structure Part where
  /-- The name of the form field, which a part may lack. -/
  name : Option String
  contentType : Option String
  data : List UInt8
deriving Repr, DecidableEq

/-- The parts that were read from a form, and whether its end was reached. -/
structure Parts where
  read : List Part
  complete : Bool
deriving Repr, DecidableEq

namespace Parts

/-- A form that breaks off. -/
def broken : Parts := ⟨[], false⟩

/-- The end of a form. -/
def ended : Parts := ⟨[], true⟩

/-- Put a part in front. -/
def push (part : Part) (parts : Parts) : Parts :=
  ⟨part :: parts.read, parts.complete⟩

end Parts

/-- The bytes of a line end. -/
def lineEnd : List UInt8 := [0x0D, 0x0A]

/-- Two dashes. -/
def dashes : List UInt8 := [0x2D, 0x2D]

/-- The marker of a boundary. -/
def markerOf (boundary : String) : List UInt8 :=
  dashes ++ boundary.toUTF8.toList

/--
Cut bytes at the first place where `mark` stands: the bytes before and after it.
`before` holds the bytes passed, last first.
-/
def cutAt? (mark before : List UInt8) : List UInt8 → Option (List UInt8 × List UInt8)
  | [] => if mark.isEmpty then some (before.reverse, []) else none
  | b :: rest =>
      if mark.isPrefixOf (b :: rest) then some (before.reverse, (b :: rest).drop mark.length)
      else cutAt? mark (b :: before) rest

/-- What follows a marker. -/
inductive AfterMarker where
  | formEnd
  /-- A part with these bytes and all that come after it. -/
  | part (bytes : List UInt8)
  | nothing
deriving Repr, DecidableEq

/-- Read what follows a marker. -/
def afterMarker : List UInt8 → AfterMarker
  | 0x2D :: 0x2D :: _ => .formEnd
  | first :: second :: rest =>
      match (first :: second :: rest).dropWhile isLineBlank with
      | 0x0D :: 0x0A :: bytes => .part bytes
      | _ => .nothing
  | _ => .nothing

/-- A part from its header fields and its data; of repeated fields the last counts. -/
def Part.ofFields (fields : List Header) (data : List UInt8) : Part :=
  { name := (lastField? fields "content-disposition").bind fun h => partName? 0 none h.value
    contentType := (lastField? fields "content-type").bind Header.text?
    data }

/--
Read the parts after a marker. Every part is shorter than the bytes it is read
from, so their number is `fuel` enough.
-/
def readParts (marker : List UInt8) (fuel : Nat) (bytes : List UInt8) : Parts :=
  match fuel with
  | 0 => .broken
  | fuel + 1 =>
      match afterMarker bytes with
      | .formEnd => .ended
      | .nothing => .broken
      | .part bytes =>
          let emptyLine := lineEnd ++ lineEnd
          let found : Option (Part × List UInt8) := do
            let (block, content) ← cutAt? emptyLine [] bytes
            let fields ← readBlock (block ++ emptyLine)
            let (data, rest) ← cutAt? (lineEnd ++ marker) [] content
            return (.ofFields fields data, rest)
          match found with
          | some (part, rest) => (readParts marker fuel rest).push part
          | none => .broken

/-- Read the parts of a form. -/
def Parts.ofBody (boundary : String) (body : List UInt8) : Parts :=
  match cutAt? (markerOf boundary) [] body with
  | some (_, rest) => readParts (markerOf boundary) (body.length + 1) rest
  | none => .broken

namespace Part

/-- The encoding that a part declares; without a known one it is UTF-8. -/
def encoding (p : Part) : Text.Encoding :=
  ((p.contentType.bind MediaType.parse?).bind (·.parameter? "charset")).bind
    Text.Encoding.ofLabel? |>.getD Text.Encoding.utf8

/-- The data of a part as text. -/
def text (p : Part) : String :=
  String.ofList (Text.decodeDeclared p.encoding p.data)

end Part

end Notary.Http
