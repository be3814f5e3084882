import Notary.Http.MediaType

namespace Notary.Http

/-!
# Header blocks

The header fields in front of a part of a form: one field to a line, up to an
empty line. Blanks around a value do not belong to it.
-/

/-- A byte that a header value may have. -/
def isValueByte (b : UInt8) : Bool :=
  b == 0x09 || (0x20 ≤ b && b != 0x7F)

/-- A blank inside a line. -/
def isLineBlank (b : UInt8) : Bool :=
  b == 0x20 || b == 0x09

/-- The character of a byte. -/
def byteChar (b : UInt8) : Char :=
  Char.ofNat b.toNat

/-- What is being read in a header block; bytes stand last first. -/
inductive BlockState where
  | lineStart
  /-- A carriage return has been read at the start of a line. -/
  | lastLineEnd
  | name (read : List UInt8)
  | value (name read : List UInt8)
  /-- A carriage return has been read after a value. -/
  | lineEnd (name read : List UInt8)
deriving Repr, DecidableEq

/-- A header field from its bytes, last first. -/
def fieldOf (name value : List UInt8) : Header :=
  ⟨asciiText name.reverse, (value.dropWhile isLineBlank).reverse.dropWhile isLineBlank⟩

/-- Read fields up to an empty line, from a text of bytes. -/
def readFields : BlockState → List UInt8 → Option (List Header)
  | _, [] => none
  | .lineStart, b :: rest =>
      if b == 0x0D then readFields .lastLineEnd rest
      else if b == 0x0A then some []
      else if isToken (byteChar b) && b < 0x80 then readFields (.name [b]) rest
      else none
  | .lastLineEnd, b :: _ => if b == 0x0A then some [] else none
  | .name read, b :: rest =>
      if b == 0x3A then readFields (.value read []) rest
      else if isToken (byteChar b) && b < 0x80 then readFields (.name (b :: read)) rest
      else none
  | .value name read, b :: rest =>
      if b == 0x0D then readFields (.lineEnd name read) rest
      else if b == 0x0A then (readFields .lineStart rest).map (fieldOf name read :: ·)
      else if isValueByte b then readFields (.value name (b :: read)) rest
      else none
  | .lineEnd name read, b :: rest =>
      if b == 0x0A then (readFields .lineStart rest).map (fieldOf name read :: ·) else none

/-- The largest number of fields in a block. -/
def fieldLimit : Nat := 32

/-- Read a header block. -/
def readBlock (block : List UInt8) : Option (List Header) :=
  (readFields .lineStart block).bind fun fields =>
    if fields.length ≤ fieldLimit then some fields else none

/-- The last field of a name in a block. -/
def lastField? (fields : List Header) (name : String) : Option Header :=
  fields.reverse.find? fun h => lowerCase h.name = name

/-- Bytes after leading blanks, line breaks included. -/
def skipBlanks (bytes : List UInt8) : List UInt8 :=
  bytes.dropWhile fun b => b == 0x20 || b == 0x09 || b == 0x0A || b == 0x0C || b == 0x0D

/-- Bytes after blanks and a given byte, if that is there. -/
def afterByte? (byte : UInt8) (bytes : List UInt8) : Option (List UInt8) :=
  match skipBlanks bytes with
  | b :: rest => if b == byte then some rest else none
  | [] => none

/--
The bytes up to a quote that no backslash precedes, as written, and whether a
quote with a backslash is among them.
-/
def quotedBytes? (escaped : Bool) (read : List UInt8) : List UInt8 → Option (List UInt8 × Bool)
  | [] => none
  | b :: rest =>
      if b == 0x22 then
        if read.head? = some 0x5C then quotedBytes? true (b :: read) rest
        else some (read.reverse, escaped)
      else quotedBytes? escaped (b :: read) rest

/-- A text in which a backslash and a quote become a quote. -/
def dropQuoteEscapes : List Char → List Char
  | '\\' :: '"' :: rest => '"' :: dropQuoteEscapes rest
  | c :: rest => c :: dropQuoteEscapes rest
  | [] => []

/-- The value of an attribute after its name. -/
def attributeValue? (bytes : List UInt8) : Option String := do
  let value ← afterByte? 0x3D bytes
  match afterByte? 0x22 value with
  | some inner =>
      let (raw, escaped) ← quotedBytes? false [] inner
      let text ← Text.decodeUtf8? raw
      return String.ofList (if escaped then dropQuoteEscapes text else text)
  | none =>
      let text ← Text.decodeUtf8? ((skipBlanks value).takeWhile fun b => b != 0x3B && b != 0x20)
      return String.ofList text

/-- The bytes of the word that names an attribute. -/
def attributeName : List UInt8 :=
  "name".toUTF8.toList

/--
The name of a part in its disposition: the value of the first `name` that starts
the text or follows a blank or a semicolon. `skip` counts the bytes that belong
to a `name` passed over, and `previous` is the byte before.
-/
def partName? (skip : Nat) (previous : Option UInt8) : List UInt8 → Option String
  | [] => none
  | b :: rest =>
      match skip with
      | left + 1 => partName? left (some b) rest
      | 0 =>
          if attributeName.isPrefixOf (b :: rest) then
            let free :=
              previous.all fun p =>
                p == 0x3B || p == 0x20 || p == 0x09 || p == 0x0A || p == 0x0C || p == 0x0D
            if free then attributeValue? (rest.drop 3)
            else partName? 3 (some b) rest
          else partName? 0 (some b) rest

end Notary.Http
