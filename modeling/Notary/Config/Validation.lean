import Notary.Config.Document
import Notary.Secret.StoredHash
import Notary.Text.Blank

namespace Notary.Config

/-!
# Validating configurations

Every entry is checked by itself, and a document is valid when all its entries
are. Validation finds all problems and locates each by collection, position and
field.
-/

/-- What is wrong with a field. -/
inductive Reason where
  | blank
  | noItem
  | blankItem
  | unusableHash (fault : Secret.HashFault)
deriving Repr, DecidableEq

/-- The words for a reason. -/
def Reason.text : Reason → String
  | blank => "must not be blank"
  | noItem => "must list at least one item"
  | blankItem => "contains a blank item"
  | unusableHash fault => "holds an unusable hash: " ++ fault.message

/-- A problem of an entry: the field and what is wrong with it. -/
structure FieldProblem where
  field : String
  reason : Reason
deriving Repr, DecidableEq

/-- A problem of a document, located by collection, position in it, and id of the entry. -/
structure Problem where
  kind : Kind
  index : Nat
  id : String
  field : String
  reason : Reason
deriving Repr, DecidableEq

/-- The text of a problem. -/
def Problem.text (p : Problem) : String :=
  p.kind.name ++ "[" ++ toString p.index ++ "] (id '" ++ p.id ++ "'): " ++ p.field ++ " " ++
    p.reason.text

/-- A text that must not be blank. -/
def requireText (field value : String) : List FieldProblem :=
  if Text.blank value then [⟨field, .blank⟩] else []

/-- A comma list without blank items, and with at least one item if it is required. -/
def checkList (field raw : String) (required : Bool) : List FieldProblem :=
  let items := Text.commaList raw
  (if required && items.isEmpty then [⟨field, .noItem⟩] else []) ++
    (if items.any String.isEmpty then [⟨field, .blankItem⟩] else [])

/-- The hashes of a secret that cannot be read. -/
def checkSecret (secret : Option String) : List FieldProblem :=
  match secret with
  | none => []
  | some text =>
      (Text.wordsOf text).filterMap fun token =>
        match Secret.StoredHash.parse token with
        | .ok _ => none
        | .error fault => some ⟨"secret", .unusableHash fault⟩

/-- The problems of signing parameters. -/
def SigningParameters.problems (p : SigningParameters) : List FieldProblem :=
  requireText "certificate" p.certificate ++
    requireText "password" p.password ++
    requireText "digestAlgorithm" p.digestAlgorithm ++
    requireText "canonicalisationAlgorithm" p.canonicalisationAlgorithm

/-- The problems of validation parameters. -/
def ValidationParameters.problems (p : ValidationParameters) : List FieldProblem :=
  checkList "rules" p.rules true ++ checkList "metadata" p.metadata false

/-- The problems of an entry beside those of its id. -/
def Entry.ownProblems : Entry → List FieldProblem
  | .signature e =>
      requireText "proofConfId" e.proofId ++ e.parameters.problems ++ checkSecret e.secret
  | .proof e => e.parameters.problems
  | .signatureVerification e => e.parameters.problems
  | .certificateVerification e => e.parameters.problems
  | .ca e => requireText "certificate" e.certificate ++ requireText "crl" e.crl

/-- The problems of an entry. -/
def Entry.problems (e : Entry) : List FieldProblem :=
  requireText "id" e.id ++ e.ownProblems

/-- A problem of the entry at a position of its collection. -/
def Entry.locate (e : Entry) (index : Nat) (p : FieldProblem) : Problem :=
  ⟨e.kind, index, e.id, p.field, p.reason⟩

/--
How far a document has been inspected: the collection that was entered last, the position of
its next entry, and the problems found so far.
-/
structure Inspection where
  entered : Option Kind
  position : Nat
  found : List Problem

namespace Inspection

/-- Nothing has been inspected. -/
def start : Inspection := ⟨none, 0, []⟩

/-- The position of the next entry if it belongs to `kind`; another collection begins with it. -/
def next (i : Inspection) (kind : Kind) : Nat :=
  if i.entered = some kind then i.position else 0

/-- Inspect the next entry. -/
def inspect (i : Inspection) (e : Entry) : Inspection :=
  let position := i.next e.kind
  ⟨some e.kind, position + 1, i.found ++ e.problems.map (e.locate position)⟩

end Inspection

/-- The problems of a document, found in one pass over its entries. -/
def Document.problems (d : Document) : List Problem :=
  (d.entries.foldl Inspection.inspect .start).found

/-- Whether a document has no problem. -/
def Document.valid (d : Document) : Bool :=
  d.problems.isEmpty

end Notary.Config
