import Notary.Config.Document
import Notary.Engine.Report
import Notary.Journal.Note

namespace Notary

/-!
# Calls of the signing engine

The engine does the cryptography. It is seen only through the calls made to it:
what is asked, what kind of answer that has, and whether the answer came. An
engine may answer each call according to all calls that the same request made
before it.
-/

open Config (SigningParameters ValidationParameters)

/-- The two formats of signatures. -/
inductive Profile where
  | xades
  | xmldsig
deriving Repr, DecidableEq

/-- A call of the engine. -/
inductive Call where
  /-- Check the certificate that would sign. -/
  | checkCertificate (parameters : SigningParameters)
  /-- List the trusted certificate authorities. -/
  | listAuthorities
  | sign (profile : Profile) (document : String) (parameters : SigningParameters)
  | validate (profile : Profile) (document : String) (parameters : ValidationParameters)
  | validateCertificate (document : CertificateDocument) (parameters : ValidationParameters)
  /-- Write the proof of a signature validation. -/
  | proveSignature (report : ValidationReport) (parameters : ProofParameters)
  /-- Write the proof of a certificate validation. -/
  | proveCertificate (report : ValidationReport) (parameters : ProofParameters)
  /-- Find out the character set of a document and decode it. -/
  | decode (document : List UInt8)
deriving Repr, DecidableEq

/-- The answer that a call has. -/
def Call.Answer : Call → Type
  | checkCertificate _ => CertificateStatus
  | listAuthorities => List String
  | sign .. => SignatureReport
  | validate .. => ValidationReport
  | validateCertificate .. => ValidationReport
  | proveSignature .. => String
  | proveCertificate .. => String
  | decode _ => String

/-- Whether a call goes to the cryptographic part of the engine. -/
def Call.isCryptographic : Call → Bool
  | decode _ => false
  | _ => true

/-- How a call ends: with an answer, with a failure, or by tearing the request down. -/
inductive Outcome (α : Type) where
  | answered (answer : α)
  | failed (failure : Failure)
  | crashed
deriving Repr, DecidableEq

/-- The outcome of a call and what the engine noted meanwhile. -/
structure Reply (α : Type) where
  outcome : Outcome α
  notes : List Journal.Note

/-- A reply without notes. -/
def Reply.silent {α : Type} (outcome : Outcome α) : Reply α :=
  ⟨outcome, []⟩

/-- An engine: its reply to each call after the calls made before. -/
structure Engine where
  reply : List Call → (call : Call) → Reply call.Answer

end Notary
