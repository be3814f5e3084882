import Notary.Engine.Call

namespace Notary

/-!
# Workflows

The six workflows that the gateway offers. The four about signatures come in both
signature formats, so there are ten routes.
-/

/-- A workflow. -/
inductive Workflow where
  | sign (profile : Profile)
  | signWithProof (profile : Profile)
  | validate (profile : Profile)
  | validateWithProof (profile : Profile)
  | validateCertificate
  | validateCertificateWithProof
deriving Repr, DecidableEq

namespace Workflow

/-- All workflows, in the order of their routes. -/
def all : List Workflow :=
  [sign .xades, sign .xmldsig, signWithProof .xades, signWithProof .xmldsig,
    validate .xades, validate .xmldsig, validateWithProof .xades, validateWithProof .xmldsig,
    validateCertificate, validateCertificateWithProof]

/-- The path of a workflow's route, which proofs record too. -/
def path : Workflow → String
  | sign .xades => "/signatures/xadesbaselineb"
  | sign .xmldsig => "/signatures/xmldsig"
  | signWithProof .xades => "/signatures/xadesbaselinebwithproof"
  | signWithProof .xmldsig => "/signatures/xmldsigwithproof"
  | validate .xades => "/validation/signatures/xadesbaselineb"
  | validate .xmldsig => "/validation/signatures/xmldsig"
  | validateWithProof .xades => "/validation/signatures/xadesbaselinebwithproof"
  | validateWithProof .xmldsig => "/validation/signatures/xmldsigwithproof"
  | validateCertificate => "/validation/certificats"
  | validateCertificateWithProof => "/validation/certificatswithproof"

/-- The name of a workflow in logs and counters. -/
def name : Workflow → String
  | sign _ => "sign"
  | signWithProof _ => "sign_with_proof"
  | validate _ => "validate"
  | validateWithProof _ => "validate_with_proof"
  | validateCertificate => "validate_certificate"
  | validateCertificateWithProof => "validate_certificate_with_proof"

/-- The workflow at a path. -/
def atPath? (path : String) : Option Workflow :=
  all.find? (·.path = path)

end Workflow

end Notary
