import Notary.Config.Snapshot
import Notary.Secret.Verify
import Notary.Workflow.Program
import Notary.Workflow.Request

namespace Notary.Guard

/-!
# Guards

The checks that a request passes before the engine is called. A guard yields what
it found or rejects the request, noting why.
-/

open Config (SigningEntry SigningParameters)

/-- The media type of all answers. -/
def jsonMediaType : String :=
  "application/json"

/-- The proof fields of a request, all present. -/
structure ProofFields where
  requestId : String
  proofTag : String
  applicantId : String
deriving Repr, DecidableEq

/-- Find the entry of an id. A request has to give one; an id without entry is not found. -/
def resolve {α : Type}
    (kind : Config.Kind)
    (id : Option String)
    (lookup : String → Option α) :
    Program α :=
  match id with
  | none => .refuse (.idMissing kind) .badRequest
  | some id =>
      .look fun _ =>
        match lookup id with
        | some entry => .done entry
        | none => .refuse (.entryUnknown kind id) .notFound

/-- Whether a caller accepts JSON: the media type occurs in what it accepts. -/
def allowsJson (accept : Option String) : Bool :=
  accept.any fun value => Text.occurs jsonMediaType.toList value.toList

/-- The caller must accept JSON. -/
def acceptJson (accept : Option String) : Program Unit :=
  if allowsJson accept then .done () else .refuse (.acceptRefused accept) .notImplemented

/-- There must be a document. -/
def requireDocument (document : Option (List UInt8)) : Program (List UInt8) :=
  match document with
  | some bytes => .done bytes
  | none => .refuse .documentMissing .badRequest

/-- The proof fields of a request, if all are present. -/
def proofFields? (r : Request) : Option ProofFields := do
  return ⟨← r.requestId, ← r.proofTag, ← r.applicantId⟩

/-- All proof fields must be present. -/
def requireProofFields (r : Request) : Program ProofFields :=
  match proofFields? r with
  | some fields => .done fields
  | none => .refuse .proofFieldsMissing .badRequest

/-- The caller's secret must match the configured one, if secrets are enforced at all. -/
def checkSecret (enforced : Bool) (entry : SigningEntry) (candidate : Option String) :
    Program Unit :=
  if enforced then do
    let verdict := Secret.verdict Secret.verifier entry.secret candidate
    .sayAll (verdict.skipped.map fun fault => .event (.hashSkipped fault.message))
    if verdict.rejects then .refuse (.secretRefused entry.id) .unauthorized else .done ()
  else .done ()

/-- The engine must let the signing certificate pass. -/
def checkCertificate (parameters : SigningParameters) : Program Unit :=
  .ask (.checkCertificate parameters) fun
    | .proceed => .done ()
    | .reject rejection =>
        .refuse (.certificateRefused parameters.certificate rejection) rejection

end Notary.Guard
