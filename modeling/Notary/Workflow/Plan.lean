import Notary.Text.Binary
import Notary.Text.Utf8
import Notary.Workflow.Guard
import Notary.Workflow.Kind
import Notary.Workflow.Report

namespace Notary

/-!
# The six workflows

Every workflow takes the published snapshot, resolves the ids that it needs against
it, checks the request, and only then calls the engine. A workflow with proof goes on to have
the proof of its validation written and signed.
-/

open Config (SigningParameters ValidationParameters)

/-- What workflows need to know beside the configuration and the request. -/
structure Setup where
  secretsEnforced : Bool
  /-- What the paths in proofs start with. -/
  contextPath : String
  version : Version
deriving Repr, DecidableEq

namespace Workflow

/-- The parameters of a proof. -/
def proofParameters (setup : Setup) (w : Workflow) (fields : Guard.ProofFields) :
    ProofParameters :=
  { operation :=
      match w with
      | validateCertificate | validateCertificateWithProof => .verifyCertificate
      | _ => .sign
    requestId := fields.requestId
    proofTag := fields.proofTag
    applicantId := fields.applicantId
    calledOperation := setup.contextPath ++ w.path
    version := setup.version }

/-- The text of a document that is to be signed; ill-formed pieces are replaced. -/
def textToSign (document : List UInt8) : String :=
  String.ofList (Text.decodeLossy document)

/-- Have a certificate validated: untouched if it looks binary, else as text. -/
def validateCertificateDocument (document : List UInt8) (parameters : ValidationParameters) :
    Program ValidationReport :=
  if Text.isBinary document then .call (.validateCertificate (.binary document) parameters)
  else do
    let text ← .call (.decode document)
    .call (.validateCertificate (.text text) parameters)

/-- Have a proof signed in a format, once the certificate for it is checked. -/
def signProof (profile : Profile) (proof : String) (parameters : SigningParameters) :
    Program String := do
  Guard.checkCertificate parameters
  let signed : SignatureReport ← .call (.sign profile proof parameters)
  return signed.signedDocument

/-- Sign a document. -/
def runSign (setup : Setup) (r : Request) (profile : Profile) : Program WorkflowReport := do
  let s ← .snapshot
  let entry ← Guard.resolve .signature r.signingId s.signature?
  Guard.acceptJson r.accept
  let document ← Guard.requireDocument r.document
  Guard.checkSecret setup.secretsEnforced entry r.secret
  Guard.checkCertificate entry.parameters
  let signed ← .call (.sign profile (textToSign document) entry.parameters)
  return .signature signed

/-- Sign a document, validate what was signed, and prove that. -/
def runSignWithProof (setup : Setup) (r : Request) (profile : Profile) :
    Program WorkflowReport := do
  let s ← .snapshot
  let entry ← Guard.resolve .signature r.signingId s.signature?
  let verification ←
    Guard.resolve .signatureVerification r.signatureVerificationId s.signatureVerification?
  let proofEntry ← Guard.resolve .proof (some entry.proofId) s.proof?
  Guard.acceptJson r.accept
  let document ← Guard.requireDocument r.document
  let fields ← Guard.requireProofFields r
  Guard.checkSecret setup.secretsEnforced entry r.secret
  Guard.checkCertificate entry.parameters
  let signed : SignatureReport ← .call (.sign profile (textToSign document) entry.parameters)
  let validation ← .call (.validate profile signed.signedDocument verification.parameters)
  let proof ←
    .call (.proveSignature validation (proofParameters setup (signWithProof profile) fields))
  let signedProof ← signProof .xades proof proofEntry.parameters
  return .signatureWithProof validation signed.signedDocument signedProof

/-- Validate a signed document. -/
def runValidate (r : Request) (profile : Profile) : Program WorkflowReport := do
  let s ← .snapshot
  let entry ←
    Guard.resolve .signatureVerification r.signatureVerificationId s.signatureVerification?
  Guard.acceptJson r.accept
  let document ← Guard.requireDocument r.document
  let text ← .call (.decode document)
  let validation ← .call (.validate profile text entry.parameters)
  return .validation validation

/-- Validate a signed document and prove that. -/
def runValidateWithProof (setup : Setup) (r : Request) (profile : Profile) :
    Program WorkflowReport := do
  let s ← .snapshot
  let entry ←
    Guard.resolve .signatureVerification r.signatureVerificationId s.signatureVerification?
  let proofEntry ← Guard.resolve .proof r.proofId s.proof?
  Guard.acceptJson r.accept
  let document ← Guard.requireDocument r.document
  let fields ← Guard.requireProofFields r
  let text ← .call (.decode document)
  let validation ← .call (.validate profile text entry.parameters)
  let proof ←
    .call (.proveSignature validation (proofParameters setup (validateWithProof profile) fields))
  let signedProof ← signProof .xmldsig proof proofEntry.parameters
  return .validationWithProof validation signedProof

/-- Validate a certificate. -/
def runValidateCertificate (r : Request) : Program WorkflowReport := do
  let s ← .snapshot
  let entry ←
    Guard.resolve .certificateVerification r.certificateVerificationId
      s.certificateVerification?
  Guard.acceptJson r.accept
  let document ← Guard.requireDocument r.document
  let validation ← validateCertificateDocument document entry.parameters
  return .validation validation

/-- Validate a certificate and prove that. -/
def runValidateCertificateWithProof (setup : Setup) (r : Request) :
    Program WorkflowReport := do
  let s ← .snapshot
  let entry ←
    Guard.resolve .certificateVerification r.certificateVerificationId
      s.certificateVerification?
  let proofEntry ← Guard.resolve .proof r.proofId s.proof?
  Guard.acceptJson r.accept
  let document ← Guard.requireDocument r.document
  let fields ← Guard.requireProofFields r
  let validation ← validateCertificateDocument document entry.parameters
  let proof ←
    .call (.proveCertificate validation
      (proofParameters setup validateCertificateWithProof fields))
  let signedProof ← signProof .xades proof proofEntry.parameters
  return .validationWithProof validation signedProof

/-- The steps of a workflow up to its report. -/
def steps (setup : Setup) (r : Request) : Workflow → Program WorkflowReport
  | sign profile => runSign setup r profile
  | signWithProof profile => runSignWithProof setup r profile
  | validate profile => runValidate r profile
  | validateWithProof profile => runValidateWithProof setup r profile
  | validateCertificate => runValidateCertificate r
  | validateCertificateWithProof => runValidateCertificateWithProof setup r

/-- A workflow on a request. -/
def program (setup : Setup) (w : Workflow) (r : Request) : Program WorkflowReport := do
  let report ← w.steps setup r
  .say (.event (.workflowCompleted w.name w.path))
  return report

/-- The list of certificate authorities, for a caller that accepts JSON. -/
def authorities (accept : Option String) : Program (List String) := do
  Guard.acceptJson accept
  .call .listAuthorities

end Workflow

end Notary
