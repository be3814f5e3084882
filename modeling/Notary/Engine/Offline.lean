import Notary.Engine.Charset

namespace Notary.Offline

/-!
# No engine attached

What answers in place of an engine when none is attached: every cryptographic
call fails as the server's fault, and the list of certificate authorities comes
from the configuration.
-/

/-- The message of every failure. -/
def detached : String :=
  "signing engine not attached"

/-- The failure of every cryptographic call. -/
def failure : Failure :=
  ⟨.server, detached, []⟩

/-- Refuse the operation of a given name. -/
def refuse {α : Type} (operation : String) : Reply α :=
  ⟨.failed failure, [.event (.callRefused operation)]⟩

/-- The name of a signing operation. -/
def signOperation : Profile → String
  | .xades => "sign_xades_baseline_b"
  | .xmldsig => "sign_xmldsig"

/-- The name of a validation operation. -/
def validateOperation : Profile → String
  | .xades => "validate_xades_baseline_b"
  | .xmldsig => "validate_xmldsig"

/-- The reply to a call, with the ids of the authorities in the configuration. -/
def reply (authorities : List String) : (call : Call) → Reply call.Answer
  | .checkCertificate _ => refuse "check_certificate"
  | .listAuthorities => .silent (.answered authorities)
  | .sign profile _ _ => refuse (signOperation profile)
  | .validate profile _ _ => refuse (validateOperation profile)
  | .validateCertificate _ _ => refuse "validate_certificate"
  | .proveSignature _ _ => refuse "signature_validation_proof"
  | .proveCertificate _ _ => refuse "certificate_validation_proof"
  | .decode document => Charset.reply document

/-- The engine that stands in for a missing one. -/
def engine (authorities : List String) : Engine :=
  ⟨fun _ call => reply authorities call⟩

end Notary.Offline
