import Notary.Config.Document
import Notary.Json.Members

namespace Notary.Config

/-!
# Reading configurations

A configuration document is read from a JSON tree. The four kinds of entries
whose parameters stand beside the id are read in two steps: their own members
at once, and the parameters when the whole entry has been passed; the other
members of such an entry are kept for the second step, which limits their depth.
Everywhere else unknown members are skipped.
-/

open Json

/-- What a member of an entry is wanted to hold. -/
inductive Wanted where
  | text
  | optionalText
  | packaging
deriving Repr, DecidableEq

/-- What a member of an entry holds. -/
inductive Content where
  | text (value : String)
  | absent
  | packaging (value : Packaging)
deriving Repr, DecidableEq

/-- An optional text as the content of a member. -/
def Content.ofOption : Option String → Content
  | some value => text value
  | none => absent

/-- The members that an entry knows. -/
abbrev Schema := List (String × Wanted)

/-- The words for an object with one member where one is wanted. -/
def wantedSingle : String := "map with a single key"

/-- Find the packaging of a name. -/
def packagingNamed (name : String) : Except Mismatch Packaging :=
  match Packaging.ofName? name with
  | some p => .ok p
  | none => .error (.unknownVariant name (Packaging.all.map Packaging.name))

/-- Read a packaging: its name, or an object whose only member it names, holding nothing. -/
def readPackaging : Value → Except Mismatch Packaging
  | .string name => packagingNamed name
  | .object [(name, value)] => do
      let p ← packagingNamed name
      match value with
      | .null | .object [] => return p
      | other => .error (.invalidType other.found "unit")
  | .object _ => .error (.invalidValue .map wantedSingle)
  | other => .error (.invalidType other.found "string or map")

/-- Read the content of a member from a value. -/
def Wanted.ofValue (w : Wanted) (value : Value) : Except Mismatch Content :=
  match w with
  | text => value.asString.map .text
  | optionalText => value.asOptionalString.map .ofOption
  | packaging => (readPackaging value).map .packaging

/-- Read the content of a text member from a tree. -/
def Wanted.ofTree (w : Wanted) (tree : Tree) : Except Flaw Content :=
  match w with
  | optionalText => tree.asOptionalString.map .ofOption
  | _ => tree.asString.map .text

/-- How a schema reads a member from a value. -/
def Schema.fromValue (schema : Schema) (name : String) :
    Option (Value → Except Mismatch Content) :=
  (lookup? name schema).map Wanted.ofValue

/-- How a schema reads a member from a tree. -/
def Schema.fromTree (schema : Schema) (name : String) :
    Option (Tree → Except Flaw Content) :=
  (lookup? name schema).map Wanted.ofTree

/-- The contents of the members that an entry has. -/
abbrev Contents := List (String × Content)

namespace Contents

/-- The text of a member that must be there. -/
def required (c : Contents) (name : String) : Except Mismatch String :=
  match lookup? name c with
  | some (.text value) => .ok value
  | _ => .error (.missingMember name)

/-- The text of a member that may be missing. -/
def optional (c : Contents) (name : String) : Option String :=
  match lookup? name c with
  | some (.text value) => some value
  | _ => none

/-- The packaging, which must be there. -/
def packaging (c : Contents) (name : String) : Except Mismatch Packaging :=
  match lookup? name c with
  | some (.packaging value) => .ok value
  | _ => .error (.missingMember name)

end Contents

/-- The members of signing parameters. -/
def signingSchema : Schema :=
  [("certificate", .text), ("password", .text), ("digestAlgorithm", .text),
    ("canonicalisationAlgorithm", .text), ("signaturePackaging", .packaging),
    ("signId", .optionalText), ("signValueId", .optionalText), ("objectId", .optionalText),
    ("signaturePlacementPattern", .optionalText)]

/-- The members of validation parameters. -/
def validationSchema : Schema :=
  [("rules", .text), ("metadata", .text)]

/-- The own members of a signing configuration. -/
def signingOwnSchema : Schema :=
  [("id", .text), ("proofConfId", .text), ("secret", .optionalText),
    ("description", .optionalText)]

/-- The own members of a proof or verification configuration. -/
def plainOwnSchema : Schema :=
  [("id", .text), ("description", .optionalText)]

/-- The members of a certificate authority. -/
def authoritySchema : Schema :=
  [("id", .text), ("certificate", .text), ("crl", .text), ("description", .optionalText)]

/-- Signing parameters from their members. -/
def SigningParameters.ofContents (c : Contents) : Except Mismatch SigningParameters := do
  return {
    certificate := ← c.required "certificate"
    password := ← c.required "password"
    digestAlgorithm := ← c.required "digestAlgorithm"
    canonicalisationAlgorithm := ← c.required "canonicalisationAlgorithm"
    packaging := ← c.packaging "signaturePackaging"
    signId := c.optional "signId"
    signValueId := c.optional "signValueId"
    objectId := c.optional "objectId"
    placementPattern := c.optional "signaturePlacementPattern" }

/-- Validation parameters from their members; a missing metadata list is empty. -/
def ValidationParameters.ofContents (c : Contents) : Except Mismatch ValidationParameters := do
  return {
    rules := ← c.required "rules"
    metadata := (c.optional "metadata").getD "" }

/-- A signing configuration from its own and its kept members. -/
def SigningEntry.ofMembers (m : Members Content) : Except Mismatch SigningEntry := do
  let id ← Contents.required m.known "id"
  let proofId ← Contents.required m.known "proofConfId"
  let parameters ←
    SigningParameters.ofContents (← pickMembers signingSchema.fromValue [] m.foreign)
  return {
    id, proofId
    secret := Contents.optional m.known "secret"
    description := Contents.optional m.known "description"
    parameters }

/-- A proof configuration from its own and its kept members. -/
def ProofEntry.ofMembers (m : Members Content) : Except Mismatch ProofEntry := do
  let id ← Contents.required m.known "id"
  let parameters ←
    SigningParameters.ofContents (← pickMembers signingSchema.fromValue [] m.foreign)
  return { id, description := Contents.optional m.known "description", parameters }

/-- A verification configuration from its own and its kept members. -/
def VerificationEntry.ofMembers (m : Members Content) : Except Mismatch VerificationEntry := do
  let id ← Contents.required m.known "id"
  let parameters ←
    ValidationParameters.ofContents (← pickMembers validationSchema.fromValue [] m.foreign)
  return { id, description := Contents.optional m.known "description", parameters }

/-- A certificate authority from its members. -/
def Authority.ofMembers (m : Members Content) : Except Mismatch Authority := do
  return {
    id := ← Contents.required m.known "id"
    certificate := ← Contents.required m.known "certificate"
    crl := ← Contents.required m.known "crl"
    description := Contents.optional m.known "description" }

/-- The name of the data that an entry of a collection is read as. -/
def Kind.wanted : Kind → String
  | signature => "struct SignatureConf"
  | proof => "struct ProofConf"
  | signatureVerification => "struct SignVerifConf"
  | certificateVerification => "struct CertVerifConf"
  | ca => "struct CaConf"

/-- The members that an entry of a collection reads at once. -/
def Kind.ownSchema : Kind → Schema
  | signature => signingOwnSchema
  | proof | signatureVerification | certificateVerification => plainOwnSchema
  | ca => authoritySchema

/-- The containers that may still be open at once inside an entry. -/
def entryDepth : Nat := depthLimit - 3

/-- What an entry of a collection does with members it does not read at once. -/
def Kind.keep : Kind → Tree → Except Flaw (Option Value)
  | ca => skipValue
  | _ => keepValue entryDepth

/-- An entry of a collection from its members. -/
def Entry.ofMembers (m : Members Content) : Kind → Except Mismatch Entry
  | .signature => (SigningEntry.ofMembers m).map .signature
  | .proof => (ProofEntry.ofMembers m).map .proof
  | .signatureVerification => (VerificationEntry.ofMembers m).map .signatureVerification
  | .certificateVerification => (VerificationEntry.ofMembers m).map .certificateVerification
  | .ca => (Authority.ofMembers m).map .ca

/-- The flaw of an authority that is an array of too few items. -/
def shortAuthority (length stop : Nat) : Flaw :=
  .ofMismatch (.invalidLength length "struct CaConf with 4 elements") stop

/-- Read a certificate authority from an array of its members in order. -/
def readAuthorityItems (source : Source) (stop : Nat) : List Tree → Except Flaw Authority
  | [] => .error (shortAuthority 0 stop)
  | [first] => do
      let _ ← first.asString
      .error (shortAuthority 1 stop)
  | [first, second] => do
      let _ ← first.asString
      let _ ← second.asString
      .error (shortAuthority 2 stop)
  | first :: second :: third :: rest => do
      let id ← first.asString
      let certificate ← second.asString
      let crl ← third.asString
      match rest with
      | [] => return ⟨id, certificate, crl, none⟩
      | [fourth] => return ⟨id, certificate, crl, ← fourth.asOptionalString⟩
      | fourth :: extra :: more =>
          let _ ← fourth.asOptionalString
          .error (excessItem source (5 + more.length) extra)

/-- Read an entry of a collection. -/
def readEntry (source : Source) (kind : Kind) : Tree → Except Flaw Entry
  | .object members span => do
      let m ← readMembers kind.ownSchema.fromTree kind.keep [] members
      (Entry.ofMembers m kind).mapError fun mismatch => .ofMismatch mismatch span.stop
  | .array items span =>
      match kind with
      | .ca => (readAuthorityItems source span.stop items).map .ca
      | _ => (Tree.array items span).refuse kind.wanted
  | tree => tree.refuse kind.wanted

/-- Read entries in order. -/
def readEntries (source : Source) (kind : Kind) : List Tree → Except Flaw (List Entry)
  | [] => .ok []
  | tree :: rest => do
      let entry ← readEntry source kind tree
      return entry :: (← readEntries source kind rest)

/-- Read a collection. -/
def readCollection (source : Source) (kind : Kind) : Tree → Except Flaw (List Entry)
  | .array items _ => readEntries source kind items
  | tree => tree.refuse wantedSequence

/-- How a document reads a member. -/
def collectionReader (source : Source) (name : String) :
    Option (Tree → Except Flaw (List Entry)) :=
  (Kind.all.find? (·.name = name)).map (readCollection source)

/-- The document that has the given entries, each in its own collection. -/
def Document.ofEntries (entries : List Entry) : Document :=
  { signature := entries.filterMap fun | .signature e => some e | _ => none
    proof := entries.filterMap fun | .proof e => some e | _ => none
    signatureVerification := entries.filterMap fun | .signatureVerification e => some e | _ => none
    certificateVerification :=
      entries.filterMap fun | .certificateVerification e => some e | _ => none
    ca := entries.filterMap fun | .ca e => some e | _ => none }

/-- Read collections in order from the items of an array; `length` counts all of its items. -/
def readCollections (source : Source) (length : Nat) :
    List Kind → List Tree → Except Flaw (List Entry)
  | _, [] => .ok []
  | [], extra :: _ => .error (excessItem source length extra)
  | kind :: kinds, tree :: rest => do
      let entries ← readCollection source kind tree
      return entries ++ (← readCollections source length kinds rest)

/-- Read a document from a tree. -/
def readDocument (source : Source) : Tree → Except Flaw Document
  | .object members _ => do
      let m ← readMembers (collectionReader source) skipValue [] members
      return .ofEntries (m.known.flatMap (·.2))
  | .array items _ => do
      return .ofEntries (← readCollections source items.length Kind.all items)
  | tree => tree.refuse "struct ConfigDocument"

/-- Read a document from a text. -/
def Document.ofText (text : List Text.Symbol) : Except Flaw Document := do
  let reading := readTree text
  let document ← readDocument .text reading.root
  match reading.trailing with
  | some fault => .error (.ofFault fault)
  | none => return document

/-- Read a document from a value whose members are taken in order of their names. -/
def Document.ofValue (value : Value) : Except Flaw Document :=
  readDocument .value value.sorted.tree

end Notary.Config
