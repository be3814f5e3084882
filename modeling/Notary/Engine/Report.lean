import Notary.Rejection
import Notary.Version

namespace Notary

/-!
# Reports of the signing engine

What the engine hands back from a call, and what it is told when a proof is to
be written. Every value here lives for one request.
-/

/-- An error that the engine reports, code and message as given. -/
structure ReportError where
  code : String
  message : String
deriving Repr, DecidableEq

/-- What a metadatum of a validation is about. -/
inductive MetadataKind where
  | signingTime
  | certificateName
  | diagnosticReport
  | unsignedOriginal
  | validationReport
  | other (name : String)
deriving Repr, DecidableEq

namespace MetadataKind

/-- The name of a kind in a report. -/
def name : MetadataKind → String
  | signingTime => "DATE_SIGNATURE"
  | certificateName => "DN_CERTIFICAT"
  | diagnosticReport => "RAPPORT_DIAGNOSTIQUE"
  | unsignedOriginal => "DOCUMENT_ORIGINAL_NON_SIGNE"
  | validationReport => "RAPPORT_DSS"
  | other name => name

/-- The kind with a given name; a name that is not known names its own kind. -/
def ofName (name : String) : MetadataKind :=
  if name = "DATE_SIGNATURE" then signingTime
  else if name = "DN_CERTIFICAT" then certificateName
  else if name = "RAPPORT_DIAGNOSTIQUE" then diagnosticReport
  else if name = "DOCUMENT_ORIGINAL_NON_SIGNE" then unsignedOriginal
  else if name = "RAPPORT_DSS" then validationReport
  else other name

/-- Whether the values of a kind are documents, which go out in Base64. -/
def holdsDocument : MetadataKind → Bool
  | diagnosticReport | unsignedOriginal | validationReport => true
  | _ => false

/-- Whether a kind is outside the known ones. -/
def isOther : MetadataKind → Bool
  | other _ => true
  | _ => false

end MetadataKind

/-- A metadatum of a validation. -/
structure Metadatum where
  kind : MetadataKind
  value : String
deriving Repr, DecidableEq

/-- What signing a document yields. -/
structure SignatureReport where
  signedDocument : String
  errors : List ReportError
deriving Repr, DecidableEq

/-- What validating a signature or a certificate yields. -/
structure ValidationReport where
  valid : Bool
  errors : List ReportError
  metadata : List Metadatum
deriving Repr, DecidableEq

/-- A certificate as the validator gets it: untouched bytes, or decoded text. -/
inductive CertificateDocument where
  | binary (bytes : List UInt8)
  | text (content : String)
deriving Repr, DecidableEq

/-- The verdict on a signing certificate. -/
inductive CertificateStatus where
  | proceed
  | reject (rejection : Rejection)
deriving Repr, DecidableEq

/-- The operation that a proof is about. -/
inductive ProofOperation where
  | sign
  | verifyCertificate
deriving Repr, DecidableEq

/-- The name of an operation in a proof. -/
def ProofOperation.name : ProofOperation → String
  | sign => "Sign"
  | verifyCertificate => "VerifCert"

/-- What a proof is to record beside the report it proves. -/
structure ProofParameters where
  operation : ProofOperation
  requestId : String
  proofTag : String
  applicantId : String
  /-- Path of the operation that was called, context path included. -/
  calledOperation : String
  version : Version
deriving Repr, DecidableEq

end Notary
