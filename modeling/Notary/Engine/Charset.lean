import Notary.Engine.Call
import Notary.Text.Utf8

namespace Notary.Charset

/-!
# Detecting the character set

A document is taken as UTF-8 when its bytes are that, and as ISO 8859-1
otherwise. One byte order mark at the start is dropped either way.
-/

/-- The text of a document. -/
def decode (document : List UInt8) : List Char :=
  let body := Text.dropByteOrderMark document
  (Text.decodeUtf8? body).getD (Text.decodeLatin1 body)

/-- Whether a document is UTF-8. -/
def isUtf8 (document : List UInt8) : Bool :=
  (Text.decodeUtf8? (Text.dropByteOrderMark document)).isSome

/-- The reply to a call for decoding; it never fails. -/
def reply (document : List UInt8) : Reply String :=
  ⟨.answered (String.ofList (decode document)),
    if isUtf8 document then [] else [.event .notUtf8]⟩

end Notary.Charset
