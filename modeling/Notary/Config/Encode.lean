import Notary.Config.Document
import Notary.Json.Printer

namespace Notary.Config

/-!
# Writing configurations

A configuration as a JSON value. The parameters of an entry stand beside its id,
not inside a value of their own, and an absent optional member is left out.
-/

open Json (Value)

/-- A text member. -/
def textMember (name value : String) : String × Value :=
  (name, .string value)

/-- An optional text member, left out when absent. -/
def optionalMember (name : String) (value : Option String) : List (String × Value) :=
  (value.map (textMember name)).toList

/-- The members of signing parameters. -/
def SigningParameters.members (p : SigningParameters) : List (String × Value) :=
  [textMember "certificate" p.certificate,
    textMember "password" p.password,
    textMember "digestAlgorithm" p.digestAlgorithm,
    textMember "canonicalisationAlgorithm" p.canonicalisationAlgorithm,
    textMember "signaturePackaging" p.packaging.name] ++
    optionalMember "signId" p.signId ++
    optionalMember "signValueId" p.signValueId ++
    optionalMember "objectId" p.objectId ++
    optionalMember "signaturePlacementPattern" p.placementPattern

/-- The members of validation parameters. -/
def ValidationParameters.members (p : ValidationParameters) : List (String × Value) :=
  [textMember "rules" p.rules, textMember "metadata" p.metadata]

/-- A signing configuration as a value. -/
def SigningEntry.encode (e : SigningEntry) : Value :=
  .object <|
    [textMember "id" e.id, textMember "proofConfId" e.proofId] ++
      optionalMember "secret" e.secret ++ optionalMember "description" e.description ++
      e.parameters.members

/-- A proof configuration as a value. -/
def ProofEntry.encode (e : ProofEntry) : Value :=
  .object <|
    textMember "id" e.id :: optionalMember "description" e.description ++ e.parameters.members

/-- A verification configuration as a value. -/
def VerificationEntry.encode (e : VerificationEntry) : Value :=
  .object <|
    textMember "id" e.id :: optionalMember "description" e.description ++ e.parameters.members

/-- A certificate authority as a value. -/
def Authority.encode (e : Authority) : Value :=
  .object <|
    [textMember "id" e.id, textMember "certificate" e.certificate, textMember "crl" e.crl] ++
      optionalMember "description" e.description

/-- An entry as a value. -/
def Entry.encode : Entry → Value
  | .signature e => e.encode
  | .proof e => e.encode
  | .signatureVerification e => e.encode
  | .certificateVerification e => e.encode
  | .ca e => e.encode

/-- A document as a value. -/
def Document.encode (d : Document) : Value :=
  .object (Kind.all.map fun kind => (kind.name, .array ((d.collection kind).map Entry.encode)))

/-- The text of a document on one line. -/
def Document.text (d : Document) : String :=
  d.encode.text

end Notary.Config
