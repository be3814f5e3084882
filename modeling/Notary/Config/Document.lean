import Notary.Text.CommaList

namespace Notary.Config

/-!
# The configuration document

Five collections of entries. Every entry carries the id that requests name it
by; the rest of it are the parameters that go to the signing engine.
-/

/-- The five collections. -/
inductive Kind where
  | signature
  | proof
  | signatureVerification
  | certificateVerification
  | ca
deriving Repr, DecidableEq

namespace Kind

/-- The name of a collection, in the document and in messages. -/
def name : Kind → String
  | signature => "signature"
  | proof => "proof"
  | signatureVerification => "signatureVerification"
  | certificateVerification => "certificateVerification"
  | ca => "ca"

/-- The collections in the order of the document. -/
def all : List Kind :=
  [signature, proof, signatureVerification, certificateVerification, ca]

end Kind

/-- How a signature and the document it signs are put together. -/
inductive Packaging where
  | enveloped
  | enveloping
  | detached
deriving Repr, DecidableEq

namespace Packaging

/-- The name of a packaging in the document. -/
def name : Packaging → String
  | enveloped => "ENVELOPED"
  | enveloping => "ENVELOPING"
  | detached => "DETACHED"

/-- The packagings in the order in which messages list them. -/
def all : List Packaging :=
  [enveloped, enveloping, detached]

/-- The packaging of a name. -/
def ofName? (name : String) : Option Packaging :=
  all.find? (·.name = name)

end Packaging

/-- The parameters for producing a signature. -/
structure SigningParameters where
  /-- Keystore that holds the signing certificate. -/
  certificate : String
  password : String
  digestAlgorithm : String
  canonicalisationAlgorithm : String
  packaging : Packaging
  signId : Option String
  signValueId : Option String
  objectId : Option String
  /-- Where an enveloped signature is placed. -/
  placementPattern : Option String
deriving Repr, DecidableEq

/-- The parameters of a validation: two comma lists. -/
structure ValidationParameters where
  rules : String
  metadata : String
deriving Repr, DecidableEq

namespace ValidationParameters

/-- The rules to apply. -/
def ruleList (p : ValidationParameters) : List String :=
  Text.commaList p.rules

/-- The kinds of metadata to return. -/
def metadataList (p : ValidationParameters) : List String :=
  Text.commaList p.metadata

end ValidationParameters

/-- A configuration for signing documents. -/
structure SigningEntry where
  id : String
  /-- Id of the proof configuration used when signing with proof. -/
  proofId : String
  /-- Hashes between white space; an absent or blank text asks for no secret. -/
  secret : Option String
  description : Option String
  parameters : SigningParameters
deriving Repr, DecidableEq

/-- A configuration for signing proofs. -/
structure ProofEntry where
  id : String
  description : Option String
  parameters : SigningParameters
deriving Repr, DecidableEq

/-- A configuration for validating signatures or certificates. -/
structure VerificationEntry where
  id : String
  description : Option String
  parameters : ValidationParameters
deriving Repr, DecidableEq

/-- A trusted certificate authority. -/
structure Authority where
  id : String
  certificate : String
  /-- Path or address of the revocation list. -/
  crl : String
  description : Option String
deriving Repr, DecidableEq

/-- A configuration document. -/
structure Document where
  signature : List SigningEntry
  proof : List ProofEntry
  signatureVerification : List VerificationEntry
  certificateVerification : List VerificationEntry
  ca : List Authority
deriving Repr, DecidableEq

/-- An entry of any collection. -/
inductive Entry where
  | signature (entry : SigningEntry)
  | proof (entry : ProofEntry)
  | signatureVerification (entry : VerificationEntry)
  | certificateVerification (entry : VerificationEntry)
  | ca (entry : Authority)
deriving Repr, DecidableEq

namespace Entry

/-- The collection that an entry belongs to. -/
def kind : Entry → Kind
  | signature _ => .signature
  | proof _ => .proof
  | signatureVerification _ => .signatureVerification
  | certificateVerification _ => .certificateVerification
  | ca _ => .ca

/-- The id of an entry. -/
def id : Entry → String
  | signature entry => entry.id
  | proof entry => entry.id
  | signatureVerification entry => entry.id
  | certificateVerification entry => entry.id
  | ca entry => entry.id

end Entry

namespace Document

/-- The document without entries. -/
def empty : Document := ⟨[], [], [], [], []⟩

/-- The entries of one collection. -/
def collection (d : Document) : Kind → List Entry
  | .signature => d.signature.map .signature
  | .proof => d.proof.map .proof
  | .signatureVerification => d.signatureVerification.map .signatureVerification
  | .certificateVerification => d.certificateVerification.map .certificateVerification
  | .ca => d.ca.map .ca

/-- All entries, collection by collection. -/
def entries (d : Document) : List Entry :=
  Kind.all.flatMap d.collection

/-- How many entries a collection has. -/
def count (d : Document) (kind : Kind) : Nat :=
  (d.collection kind).length

/-- How many entries each collection has. -/
def counts (d : Document) : List Nat :=
  Kind.all.map d.count

end Document

end Notary.Config
