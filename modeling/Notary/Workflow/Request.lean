import Notary.Journal.Note

namespace Notary

/-!
# Requests

What a caller hands in for a workflow. Every field may be absent; the workflow
decides which ones it needs.
-/

/-- A request. -/
structure Request where
  /-- The media types that the caller accepts, as given. -/
  accept : Option String
  signingId : Option String
  signatureVerificationId : Option String
  certificateVerificationId : Option String
  proofId : Option String
  requestId : Option String
  proofTag : Option String
  applicantId : Option String
  secret : Option String
  document : Option (List UInt8)
deriving Repr, DecidableEq

/-- A text field of a request. -/
inductive Field where
  | signingId
  | signatureVerificationId
  | certificateVerificationId
  | proofId
  | requestId
  | proofTag
  | applicantId
  | secret
deriving Repr, DecidableEq

namespace Field

/-- All text fields. -/
def all : List Field :=
  [signingId, signatureVerificationId, certificateVerificationId, proofId, requestId, proofTag,
    applicantId, secret]

/-- The name of a field in a form. -/
def formName : Field → String
  | signingId => "idSignConf"
  | signatureVerificationId => "idVerifSignConf"
  | certificateVerificationId => "idVerifCertConf"
  | proofId => "idProofConf"
  | requestId => "requestId"
  | proofTag => "proofTag"
  | applicantId => "applicantId"
  | secret => "secret"

/-- The field of a form name. -/
def ofFormName? (name : String) : Option Field :=
  all.find? (·.formName = name)

end Field

namespace Request

/-- The request with nothing in it. -/
def empty : Request :=
  ⟨none, none, none, none, none, none, none, none, none, none⟩

/-- The value of a text field. -/
def get (r : Request) : Field → Option String
  | .signingId => r.signingId
  | .signatureVerificationId => r.signatureVerificationId
  | .certificateVerificationId => r.certificateVerificationId
  | .proofId => r.proofId
  | .requestId => r.requestId
  | .proofTag => r.proofTag
  | .applicantId => r.applicantId
  | .secret => r.secret

/-- Put a value into a text field. -/
def set (r : Request) (field : Field) (value : String) : Request :=
  match field with
  | .signingId => { r with signingId := some value }
  | .signatureVerificationId => { r with signatureVerificationId := some value }
  | .certificateVerificationId => { r with certificateVerificationId := some value }
  | .proofId => { r with proofId := some value }
  | .requestId => { r with requestId := some value }
  | .proofTag => { r with proofTag := some value }
  | .applicantId => { r with applicantId := some value }
  | .secret => { r with secret := some value }

/-- Put a value into the field of a form name; a name without field changes nothing. -/
def setNamed (r : Request) (name value : String) : Request × List Journal.Note :=
  match Field.ofFormName? name with
  | some field => (r.set field value, [])
  | none => (r, [.event (.fieldIgnored name)])

/-- Put values into the fields of form names, one after another. -/
def setAll (r : Request) : List (String × String) → Request × List Journal.Note
  | [] => (r, [])
  | (name, value) :: rest =>
      let (r, notes) := r.setNamed name value
      let (r, more) := r.setAll rest
      (r, notes ++ more)

end Request

end Notary
