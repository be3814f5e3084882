import Notary.Text.Utf8

namespace Notary.Http

/-!
# Messages

Requests as they reach the gateway and responses as they leave it, with the
rules for reading header fields: names are matched in any case, the first field
of a name counts, and a value with bytes outside visible ASCII counts as absent.
-/

/-- A header field. -/
structure Header where
  name : String
  value : List UInt8
deriving Repr, DecidableEq

/-- A request. -/
structure Message where
  method : String
  /-- The path with the query that may follow it. -/
  target : String
  headers : List Header
  body : List UInt8
deriving Repr, DecidableEq

/-- A text in lower case, as far as it is ASCII. -/
def lowerCase (s : String) : String :=
  String.ofList (s.toList.map Char.toLower)

/-- A byte that a header value may have to be read as text. -/
def isVisible (b : UInt8) : Bool :=
  b == 0x09 || (0x20 ≤ b && b ≤ 0x7E)

/-- Bytes as characters of the same numbers. -/
def asciiText (bytes : List UInt8) : String :=
  String.ofList (Text.decodeLatin1 bytes)

/-- The text of a header value. -/
def Header.text? (h : Header) : Option String :=
  if h.value.all isVisible then some (asciiText h.value) else none

namespace Message

/-- The first header field of a name. -/
def header? (m : Message) (name : String) : Option Header :=
  m.headers.find? fun h => lowerCase h.name = lowerCase name

/-- The text of the first header field of a name. -/
def headerText? (m : Message) (name : String) : Option String :=
  (m.header? name).bind Header.text?

/-- The path of a request. -/
def path (m : Message) : String :=
  String.ofList (m.target.toList.takeWhile fun c => c != '?' && c != '#')

end Message

/-- The words that go with a status code; a code without any of its own has none. -/
def reasonPhrase : Nat → String
  | 200 => "OK"
  | 400 => "Bad Request"
  | 401 => "Unauthorized"
  | 404 => "Not Found"
  | 405 => "Method Not Allowed"
  | 408 => "Request Timeout"
  | 500 => "Internal Server Error"
  | 501 => "Not Implemented"
  | 503 => "Service Unavailable"
  | _ => "<unknown status code>"

/-- A status code with its words. -/
def statusText (status : Nat) : String :=
  toString status ++ " " ++ reasonPhrase status

/-- A response. -/
structure Response where
  status : Nat
  body : String
  contentType : Option String
  /-- The methods that the path allows, if the request used another one. -/
  allow : Option String
deriving Repr, DecidableEq

namespace Response

/-- A response that has a status only. -/
def bare (status : Nat) : Response :=
  ⟨status, "", none, none⟩

/-- A successful response with a JSON text. -/
def json (body : String) : Response :=
  ⟨200, body, some "application/json", none⟩

end Response

end Notary.Http
