import Notary.Config.Decode
import Notary.Config.Encode
import Notary.Config.Snapshot
import Notary.Journal.Note

namespace Notary.Config

/-!
# Loading configurations

A configuration file becomes a snapshot, or the whole of it is refused: because
it cannot be read, because its text is no configuration document, or because
some of its entries are invalid.
-/

open Journal (Note)

/-- What is at the path of a configuration file. -/
inductive File where
  | absent
  | directory
  | bytes (content : List UInt8)
deriving Repr, DecidableEq

/-- Why a file cannot be read as text. -/
inductive ReadFault where
  | notFound
  | isDirectory
  | notUtf8
deriving Repr, DecidableEq

namespace ReadFault

/-- The name of a fault. -/
def kind : ReadFault → String
  | notFound => "NotFound"
  | isDirectory => "IsADirectory"
  | notUtf8 => "InvalidData"

/-- The words for a fault. -/
def text : ReadFault → String
  | notFound => "No such file or directory (os error 2)"
  | isDirectory => "Is a directory (os error 21)"
  | notUtf8 => "stream did not contain valid UTF-8"

end ReadFault

namespace File

/-- The text of a file. -/
def read : File → Except ReadFault (List Char)
  | absent => .error .notFound
  | directory => .error .isDirectory
  | bytes content =>
      match Text.decodeUtf8? content with
      | some text => .ok text
      | none => .error .notUtf8

end File

/-- Why a configuration is refused. -/
inductive LoadFault where
  | unreadable (fault : ReadFault)
  | malformed (cause : Json.Cause) (position : Json.Position)
  | invalid (problems : List Problem)
deriving Repr, DecidableEq

namespace LoadFault

/-- The message for a refused configuration. -/
def message : LoadFault → String
  | unreadable fault => "IO error: " ++ fault.text
  | malformed cause position => "Parse error: " ++ cause.text ++ position.suffix
  | invalid problems => "Validation failed: " ++ ", ".intercalate (problems.map Problem.text)

/-- What is logged about a refused configuration: each problem of an invalid one. -/
def notes : LoadFault → List Note
  | invalid problems => problems.map fun p => .event (.entryInvalid p.text)
  | unreadable _ | malformed _ _ => []

end LoadFault

/-- The snapshot of a document, if the document is valid. -/
def Snapshot.ofDocument? (document : Document) : Except LoadFault Snapshot :=
  if valid : document.valid = true then .ok (.ofDocument document valid)
  else .error (.invalid document.problems)

/-- The snapshot of a configuration text. -/
def Snapshot.ofSymbols (text : List Text.Symbol) : Except LoadFault Snapshot :=
  match Document.ofText text with
  | .error flaw => .error (.malformed flaw.cause (.ofOffset text flaw.offset))
  | .ok document => Snapshot.ofDocument? document

/-- The snapshot of a configuration text. -/
def Snapshot.ofText (text : List Char) : Except LoadFault Snapshot :=
  Snapshot.ofSymbols (text.map .char)

/-- The snapshot of a configuration file. -/
def Snapshot.load (file : File) : Except LoadFault Snapshot :=
  match file.read with
  | .error fault => .error (.unreadable fault)
  | .ok text => Snapshot.ofText text

end Notary.Config
