import Notary.Engine.Charset

namespace Notary

/-!
# Scripted engines

An engine for rehearsals. It answers every call from a short script: which calls
fail and how, which certificates are rejected, and what validations report.
-/

/-- What a rule of a script does to a call. -/
inductive Trouble where
  | fail (failure : Failure)
  | crash
deriving Repr, DecidableEq

/-- A rule: calls whose label starts with a text run into trouble. -/
structure Rule where
  start : String
  trouble : Trouble
deriving Repr, DecidableEq

/-- A script. -/
structure Script where
  rules : List Rule
  /-- Certificates that are rejected, each with how. -/
  rejections : List (String × Rejection)
  validation : ValidationReport
  signErrors : List ReportError
  authorities : List String
deriving Repr, DecidableEq

namespace Script

/-- The script in which all goes well. -/
def smooth : Script :=
  ⟨[], [], ⟨true, [], []⟩, [], []⟩

/-- The label of a call, which rules refer to. -/
def label : Call → String
  | .checkCertificate parameters => "check_certificate:" ++ parameters.certificate
  | .listAuthorities => "ca_list"
  | .sign .xades _ parameters => "sign_xades:" ++ parameters.certificate
  | .sign .xmldsig _ parameters => "sign_xmldsig:" ++ parameters.certificate
  | .validate .xades _ _ => "validate_xades"
  | .validate .xmldsig _ _ => "validate_xmldsig"
  | .validateCertificate (.binary _) _ => "validate_certificate:binary"
  | .validateCertificate (.text _) _ => "validate_certificate:text"
  | .proveSignature _ _ => "signature_validation_proof"
  | .proveCertificate _ _ => "certificate_validation_proof"
  | .decode _ => "charset"

/-- A text between two tags. -/
def tagged (tag content : String) : String :=
  "<" ++ tag ++ ">" ++ content ++ "</" ++ tag ++ ">"

/-- The trouble that a call runs into, by the first rule for it. -/
def trouble? (s : Script) (call : Call) : Option Trouble :=
  (s.rules.find? fun rule => rule.start.toList.isPrefixOf (label call).toList).map (·.trouble)

/-- The reply to a call that runs into no trouble. -/
def answer (s : Script) : (call : Call) → Reply call.Answer
  | .checkCertificate parameters =>
      .silent <| .answered <|
        match s.rejections.find? (·.1 = parameters.certificate) with
        | some (_, rejection) => .reject rejection
        | none => .proceed
  | .listAuthorities => .silent (.answered s.authorities)
  | .sign .xades document _ => .silent (.answered ⟨tagged "signed" document, s.signErrors⟩)
  | .sign .xmldsig document _ => .silent (.answered ⟨tagged "dsig" document, s.signErrors⟩)
  | .validate _ _ _ => .silent (.answered s.validation)
  | .validateCertificate _ _ => .silent (.answered s.validation)
  | .proveSignature _ parameters => .silent (.answered (tagged "proof" parameters.requestId))
  | .proveCertificate _ parameters => .silent (.answered (tagged "proof" parameters.requestId))
  | .decode document => Charset.reply document

/-- The reply to a call. -/
def reply (s : Script) (call : Call) : Reply call.Answer :=
  match s.trouble? call with
  | some (.fail failure) => .silent (.failed failure)
  | some .crash => .silent .crashed
  | none => s.answer call

/-- The engine that follows a script. -/
def engine (s : Script) : Engine :=
  ⟨fun _ call => s.reply call⟩

end Script

end Notary
