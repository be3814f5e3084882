import Notary.Http.HeaderBlock
import Notary.Text.Digit

namespace Notary.Http

/-!
# The wire

Messages and responses as bytes: a first line, header fields up to an empty
line, and a body whose length a field announces. Every connection carries one
exchange, so whatever comes after the announced body is not looked at.
-/

/-- The end of a line. -/
def lineBreak : List UInt8 :=
  [0x0D, 0x0A]

/-- The bytes of a text. -/
def bytesOf (text : String) : List UInt8 :=
  text.toUTF8.toList

/-- The number of bytes up to the end of the first empty line, if `offset` bytes came before. -/
def headLength? (offset : Nat) : List UInt8 → Option Nat
  | 0x0D :: 0x0A :: 0x0D :: 0x0A :: _ => some (offset + 4)
  | _ :: rest => headLength? (offset + 1) rest
  | [] => none

/-- A first line and what stands below it. -/
def splitFirstLine (bytes : List UInt8) : List UInt8 × List UInt8 :=
  let line := bytes.takeWhile (· != 0x0D)
  (line, bytes.drop (line.length + lineBreak.length))

/-- The words of a line, which single spaces separate. -/
def wordsOfLine (line : List UInt8) : List String :=
  (line.splitOn 0x20).map asciiText

/-- How the length of a body is announced. -/
inductive Announced where
  | nowhere
  | length (bytes : Nat)
  /-- In a way that is not understood here. -/
  | otherwise
deriving Repr, DecidableEq

/-- What header fields say about the length of a body. -/
def announced (fields : List Header) : Announced :=
  if fields.any fun field => lowerCase field.name = "transfer-encoding" then .otherwise
  else
    match fields.find? fun field => lowerCase field.name = "content-length" with
    | none => .nowhere
    | some field =>
        let digits := (asciiText field.value).toList
        if !digits.isEmpty && digits.all Char.isDigit then .length (Text.decimalValue digits)
        else .otherwise

/-- What stands in front of the body of a message. -/
structure Head where
  /-- The message without its body. -/
  message : Message
  bodyLength : Nat
deriving Repr, DecidableEq

/-- Read the bytes up to the end of the first empty line. -/
def Head.read? (bytes : List UInt8) : Option Head := do
  let (line, below) := splitFirstLine bytes
  let fields ← readFields .lineStart below
  let length ←
    match announced fields with
    | .nowhere => some 0
    | .length n => some n
    | .otherwise => none
  match wordsOfLine line with
  | [method, target, version] =>
      if version.startsWith "HTTP/1." then return ⟨⟨method, target, fields, []⟩, length⟩
      else none
  | _ => none

/-- The message that a head and a body make. -/
def Head.withBody (h : Head) (body : List UInt8) : Message :=
  { h.message with body }

/-- A first line, fields and a body as bytes. -/
def wireBytes (firstLine : String) (fields : List Header) (body : List UInt8) : List UInt8 :=
  bytesOf firstLine ++ lineBreak ++
    (fields.flatMap fun field =>
      bytesOf field.name ++ bytesOf ": " ++ field.value ++ lineBreak) ++
    lineBreak ++ body

/-- A header field with a text as its value. -/
def Header.ofText (name value : String) : Header :=
  ⟨name, bytesOf value⟩

/-- The fields that frame a body and end the connection behind it. -/
def framing (body : List UInt8) : List Header :=
  [.ofText "content-length" (toString body.length), .ofText "connection" "close"]

/-- The bytes of a message to a host. -/
def Message.wire (m : Message) (host : String) : List UInt8 :=
  wireBytes (m.method ++ " " ++ m.target ++ " HTTP/1.1")
    (.ofText "host" host :: m.headers ++ framing m.body) m.body

/-- The bytes of a response to the request of the given id. -/
def Response.wire (r : Response) (requestId : String) : List UInt8 :=
  let body := bytesOf r.body
  let optional (name : String) (value : Option String) : List Header :=
    (value.map (Header.ofText name)).toList
  wireBytes ("HTTP/1.1 " ++ statusText r.status)
    (optional "content-type" r.contentType ++ optional "allow" r.allow ++
      .ofText "x-request-id" requestId :: framing body)
    body

/-- Read a response from all bytes of a connection. -/
def Response.read? (bytes : List UInt8) : Option Response := do
  let length ← headLength? 0 bytes
  let (line, below) := splitFirstLine (bytes.take length)
  let fields ← readFields .lineStart below
  let body ←
    match announced fields with
    | .nowhere => some (bytes.drop length)
    | .length n => some ((bytes.drop length).take n)
    | .otherwise => none
  let text ← Text.decodeUtf8? body
  match wordsOfLine line with
  | _ :: status :: _ =>
      let digits := status.toList
      if digits.length = 3 && digits.all Char.isDigit then
        return ⟨Text.decimalValue digits, String.ofList text, none, none⟩
      else none
  | _ => none

end Notary.Http
