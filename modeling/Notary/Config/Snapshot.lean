import Notary.Config.Validation

namespace Notary.Config

/-!
# Snapshots

A snapshot is a valid document prepared for lookups. Each of the four
collections that requests refer to has an index from id to position, which keeps
the first position of a repeated id.
-/

/-- Positions by id; every id has one position at most. -/
abbrev Index := List (String × Nat)

namespace Index

/-- The position of an id. -/
def get? (index : Index) (id : String) : Option Nat :=
  (index.find? (·.1 = id)).map (·.2)

/-- Note the position of an id that has none yet. -/
def insertNew (index : Index) (id : String) (position : Nat) : Index :=
  if (index.get? id).isSome then index else index ++ [(id, position)]

/-- Note the positions of ids from `position` on. -/
def extend (index : Index) (position : Nat) : List String → Index
  | [] => index
  | id :: rest => (index.insertNew id position).extend (position + 1) rest

/-- The index of ids in order. -/
def ofIds (ids : List String) : Index :=
  extend [] 0 ids

end Index

/-- A valid document with its indexes. -/
structure Snapshot where
  document : Document
  valid : document.valid = true
  signatures : Index
  proofs : Index
  signatureVerifications : Index
  certificateVerifications : Index

namespace Snapshot

/-- The snapshot of a valid document. -/
def ofDocument (document : Document) (valid : document.valid = true) : Snapshot :=
  { document, valid
    signatures := .ofIds (document.signature.map (·.id))
    proofs := .ofIds (document.proof.map (·.id))
    signatureVerifications := .ofIds (document.signatureVerification.map (·.id))
    certificateVerifications := .ofIds (document.certificateVerification.map (·.id)) }

/-- The snapshot of the document without entries. -/
def empty : Snapshot :=
  .ofDocument .empty rfl

/-- The signing configuration of an id. -/
def signature? (s : Snapshot) (id : String) : Option SigningEntry :=
  (s.signatures.get? id).bind (s.document.signature[·]?)

/-- The proof configuration of an id. -/
def proof? (s : Snapshot) (id : String) : Option ProofEntry :=
  (s.proofs.get? id).bind (s.document.proof[·]?)

/-- The signature verification configuration of an id. -/
def signatureVerification? (s : Snapshot) (id : String) : Option VerificationEntry :=
  (s.signatureVerifications.get? id).bind (s.document.signatureVerification[·]?)

/-- The certificate verification configuration of an id. -/
def certificateVerification? (s : Snapshot) (id : String) : Option VerificationEntry :=
  (s.certificateVerifications.get? id).bind (s.document.certificateVerification[·]?)

/-- The entry of an id in a collection that requests refer to; authorities are not looked up. -/
def entry? (s : Snapshot) (kind : Kind) (id : String) : Option Entry :=
  match kind with
  | .signature => (s.signature? id).map .signature
  | .proof => (s.proof? id).map .proof
  | .signatureVerification => (s.signatureVerification? id).map .signatureVerification
  | .certificateVerification => (s.certificateVerification? id).map .certificateVerification
  | .ca => none

/-- The ids of the certificate authorities in order. -/
def authorityIds (s : Snapshot) : List String :=
  s.document.ca.map (·.id)

end Snapshot

end Notary.Config
