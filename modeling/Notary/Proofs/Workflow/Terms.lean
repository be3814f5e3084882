import Notary.Proofs.Program.Contract
import Notary.Proofs.Workflow.CallPlan

namespace Notary

/-!
# The terms of each workflow

Each call of a workflow is prescribed by the request, by the configurations that it
names and by what came of the calls before: the text that was decoded or signed, the
report of the validation, and the proof. The report of the workflow is put together
from them in turn. Guards ask for nothing, so they keep any terms of this kind.
-/

open Config (ProofEntry SigningEntry SigningParameters Snapshot VerificationEntry)

/-- What the calls of a run have brought so far, in order. -/
structure Gathered where
  /-- How many calls went to the cryptographic part of the engine. -/
  made : Nat
  texts : List String
  signatures : List SignatureReport
  validations : List ValidationReport
  proofs : List String
deriving Repr, DecidableEq

namespace Gathered

variable (g : Gathered)

/-- Take in the text of a document. -/
def withText (text : String) : Gathered :=
  { g with texts := g.texts ++ [text] }

/-- Count a call that went to the cryptographic part of the engine. -/
def counted : Gathered :=
  { g with made := g.made + 1 }

/-- Take in a signature. -/
def withSignature (report : SignatureReport) : Gathered :=
  { g.counted with signatures := g.signatures ++ [report] }

/-- Take in the report of a validation. -/
def withValidation (report : ValidationReport) : Gathered :=
  { g.counted with validations := g.validations ++ [report] }

/-- Take in a proof. -/
def withProof (proof : String) : Gathered :=
  { g.counted with proofs := g.proofs ++ [proof] }

/-- Take in what came of one more call. -/
def add : Attempt → Gathered
  | ⟨.decode _, .answered text⟩ => g.withText text
  | ⟨.sign _ _ _, .answered report⟩ => g.withSignature report
  | ⟨.validate _ _ _, .answered report⟩ => g.withValidation report
  | ⟨.validateCertificate _ _, .answered report⟩ => g.withValidation report
  | ⟨.proveSignature _ _, .answered proof⟩ => g.withProof proof
  | ⟨.proveCertificate _ _, .answered proof⟩ => g.withProof proof
  | ⟨call, _⟩ => if call.isCryptographic then g.counted else g

end Gathered

/-- What some attempts have brought. -/
def gathered (attempts : List Attempt) : Gathered :=
  attempts.foldl .add ⟨0, [], [], [], []⟩

/-- One more attempt adds to what the attempts before it have brought. -/
theorem gathered_append
    (before : List Attempt)
    (attempt : Attempt) :
    gathered (before ++ [attempt]) = (gathered before).add attempt := by
  simp only [gathered, List.foldl_append, List.foldl_cons, List.foldl_nil]

namespace Workflow

/-- The call that is prescribed for a step, by what was gathered before it. -/
inductive Prescribed
    (setup : Setup)
    (s : Snapshot)
    (r : Request)
    (g : Gathered) :
    Workflow → Step → Call → Prop where
  | checkSigner
      {w : Workflow}
      {entry : SigningEntry}
      (found : signer? s r = some entry) :
      Prescribed setup s r g w .checkSigner (.checkCertificate entry.parameters)
  /-- What is signed is the document, with ill-formed pieces replaced. -/
  | sign
      {w : Workflow}
      {document : List UInt8}
      {entry : SigningEntry}
      (given : r.document = some document)
      (found : signer? s r = some entry)
      (profile : Profile) :
      Prescribed setup s r g w (.sign profile)
        (.sign profile (String.ofList (Text.decodeLossy document)) entry.parameters)
  /-- What was signed is validated. -/
  | validateSigned
      {signed : SignatureReport}
      {entry : VerificationEntry}
      (signs : g.signatures = [signed])
      (found : r.signatureVerificationId.bind s.signatureVerification? = some entry)
      (profile : Profile) :
      Prescribed setup s r g (.signWithProof profile) (.validate profile)
        (.validate profile signed.signedDocument entry.parameters)
  /-- The text that was decoded is validated. -/
  | validate
      {w : Workflow}
      {text : String}
      {entry : VerificationEntry}
      {profile : Profile}
      (validating : w = .validate profile ∨ w = .validateWithProof profile)
      (decodes : g.texts = [text])
      (found : r.signatureVerificationId.bind s.signatureVerification? = some entry) :
      Prescribed setup s r g w (.validate profile) (.validate profile text entry.parameters)
  /-- A certificate that looks binary is validated as it is. -/
  | validateBinary
      {w : Workflow}
      {document : List UInt8}
      {entry : VerificationEntry}
      (given : r.document = some document)
      (binary : Text.isBinary document = true)
      (found : r.certificateVerificationId.bind s.certificateVerification? = some entry) :
      Prescribed setup s r g w .validateCertificate
        (.validateCertificate (.binary document) entry.parameters)
  /-- Any other certificate is validated as the text that was decoded. -/
  | validateText
      {w : Workflow}
      {document : List UInt8}
      {text : String}
      {entry : VerificationEntry}
      (given : r.document = some document)
      (textual : Text.isBinary document = false)
      (decodes : g.texts = [text])
      (found : r.certificateVerificationId.bind s.certificateVerification? = some entry) :
      Prescribed setup s r g w .validateCertificate
        (.validateCertificate (.text text) entry.parameters)
  | proveSignature
      {w : Workflow}
      {report : ValidationReport}
      {requestId proofTag applicantId : String}
      (validates : g.validations = [report])
      (identified : r.requestId = some requestId)
      (tagged : r.proofTag = some proofTag)
      (applied : r.applicantId = some applicantId) :
      Prescribed setup s r g w .proveSignature
        (.proveSignature report
          { operation := .sign
            requestId, proofTag, applicantId
            calledOperation := setup.contextPath ++ w.path
            version := setup.version })
  | proveCertificate
      {w : Workflow}
      {report : ValidationReport}
      {requestId proofTag applicantId : String}
      (validates : g.validations = [report])
      (identified : r.requestId = some requestId)
      (tagged : r.proofTag = some proofTag)
      (applied : r.applicantId = some applicantId) :
      Prescribed setup s r g w .proveCertificate
        (.proveCertificate report
          { operation := .verifyCertificate
            requestId, proofTag, applicantId
            calledOperation := setup.contextPath ++ w.path
            version := setup.version })
  | checkProofSigner
      {w : Workflow}
      {entry : ProofEntry}
      (found : w.proofSigner? s r = some entry) :
      Prescribed setup s r g w .checkProofSigner (.checkCertificate entry.parameters)
  /-- What is signed in the end is the proof. -/
  | signProof
      {w : Workflow}
      {proof : String}
      {entry : ProofEntry}
      (proves : g.proofs = [proof])
      (found : w.proofSigner? s r = some entry)
      (profile : Profile) :
      Prescribed setup s r g w (.signProof profile) (.sign profile proof entry.parameters)

/-- The report of a workflow, by all that was gathered. -/
inductive Concludes (g : Gathered) : Workflow → WorkflowReport → Prop where
  | sign
      {profile : Profile}
      {signed : SignatureReport}
      (signs : g.signatures = [signed]) :
      Concludes g (.sign profile) (.signature signed)
  /-- The signature of the document comes first, that of the proof second. -/
  | signWithProof
      {profile : Profile}
      {validation : ValidationReport}
      {signed signedProof : SignatureReport}
      (validates : g.validations = [validation])
      (signs : g.signatures = [signed, signedProof]) :
      Concludes g (.signWithProof profile)
        (.signatureWithProof validation signed.signedDocument signedProof.signedDocument)
  | validate
      {profile : Profile}
      {validation : ValidationReport}
      (validates : g.validations = [validation]) :
      Concludes g (.validate profile) (.validation validation)
  | validateWithProof
      {profile : Profile}
      {validation : ValidationReport}
      {signedProof : SignatureReport}
      (validates : g.validations = [validation])
      (signs : g.signatures = [signedProof]) :
      Concludes g (.validateWithProof profile)
        (.validationWithProof validation signedProof.signedDocument)
  | validateCertificate
      {validation : ValidationReport}
      (validates : g.validations = [validation]) :
      Concludes g .validateCertificate (.validation validation)
  | validateCertificateWithProof
      {validation : ValidationReport}
      {signedProof : SignatureReport}
      (validates : g.validations = [validation])
      (signs : g.signatures = [signedProof]) :
      Concludes g .validateCertificateWithProof
        (.validationWithProof validation signedProof.signedDocument)

/--
The terms of a workflow: its calls are prescribed, documents are decoded as they were
given, and a hash is skipped only if the signing configuration of the request has it.
-/
def terms (setup : Setup) (s : Snapshot) (w : Workflow) (r : Request) : Terms where
  calls before call :=
    (∃ document, r.document = some document ∧ call = .decode document) ∨
      ∃ step, w.plan[(gathered before).made]? = some step ∧
        Prescribed setup s r (gathered before) w step call
  notes n :=
    ∀ message, n = .event (.hashSkipped message) →
      ∃ entry, signer? s r = some entry ∧
        ∃ fault ∈ (Secret.verdict Secret.verifier entry.secret r.secret).skipped,
          fault.message = message

variable
    {α β : Type}
    {setup : Setup}
    {s : Snapshot}
    {w : Workflow}
    {r : Request}
    {yields : List Attempt → β → Prop}
    {before : List Attempt}

/-- Refusing a request is in order at any time. -/
theorem refuse_meets
    {event : Journal.Event}
    {rejection : Rejection}
    (unskipped : ∀ message, event ≠ .hashSkipped message) :
    (Program.refuse event rejection).Meets (terms setup s w r) s yields before :=
  ⟨fun message same => absurd (Journal.Note.event.inj same) (unskipped message), trivial⟩

/-- A request that names a known entry goes on with that entry. -/
theorem resolve_bind_meets
    {kind : Config.Kind}
    {id : Option String}
    {lookup : String → Option α}
    {next : α → Program β}
    (rest : ∀ entry, id.bind lookup = some entry →
      (next entry).Meets (terms setup s w r) s yields before) :
    (Guard.resolve kind id lookup >>= next).Meets (terms setup s w r) s yields before := by
  cases id with
  | none =>
      exact refuse_meets fun _ same => by cases same
  | some id =>
      -- The look-up is a step of its own, but it asks for nothing.
      cases found : lookup id with
      | none =>
          simp only [Guard.resolve, found]
          exact refuse_meets fun _ same => by cases same
      | some entry =>
          simp only [Guard.resolve, found]
          exact rest entry found

/-- The accept check makes no call, so what follows it keeps to the terms as before. -/
theorem acceptJson_bind_meets
    {accept : Option String}
    {next : Unit → Program β}
    (rest : (next ()).Meets (terms setup s w r) s yields before) :
    (Guard.acceptJson accept >>= next).Meets (terms setup s w r) s yields before := by
  unfold Guard.acceptJson
  split
  · exact rest
  · exact refuse_meets fun _ same => by cases same

/-- After the document was asked for, the terms are kept with the document of the request. -/
theorem requireDocument_bind_meets
    {next : List UInt8 → Program β}
    (rest : ∀ document, r.document = some document →
      (next document).Meets (terms setup s w r) s yields before) :
    (Guard.requireDocument r.document >>= next).Meets (terms setup s w r) s yields before := by
  cases given : r.document with
  | none =>
      exact refuse_meets fun _ same => by cases same
  | some document =>
      exact rest document given

theorem requireProofFields_bind_meets
    {next : Guard.ProofFields → Program β}
    (rest : ∀ fields, r.requestId = some fields.requestId → r.proofTag = some fields.proofTag →
      r.applicantId = some fields.applicantId →
        (next fields).Meets (terms setup s w r) s yields before) :
    (Guard.requireProofFields r >>= next).Meets (terms setup s w r) s yields before := by
  unfold Guard.requireProofFields
  split
  · rename_i fields given
    simp only [Guard.proofFields?, Option.bind_eq_bind, Option.bind_eq_some_iff] at given
    obtain ⟨requestId, identified, proofTag, tagged, applicantId, applied, same⟩ := given
    cases same
    exact rest _ identified tagged applied
  · exact refuse_meets fun _ same => by cases same

/-- A request whose secret matches goes on; the hashes that were skipped are noted. -/
theorem checkSecret_bind_meets
    {enforced : Bool}
    {entry : SigningEntry}
    (found : signer? s r = some entry)
    {next : Unit → Program β}
    (rest : (next ()).Meets (terms setup s w r) s yields before) :
    (Guard.checkSecret enforced entry r.secret >>= next).Meets (terms setup s w r) s yields
      before := by
  unfold Guard.checkSecret
  cases enforced with
  | false =>
      exact rest
  | true =>
      apply Program.Meets.bind
      refine Program.Meets.sayAll_bind ?_ ?_
      · intro n noted message isSkip
        subst isSkip
        obtain ⟨fault, skipped, same⟩ := List.mem_map.mp noted
        cases same
        exact ⟨entry, found, fault, skipped, rfl⟩
      · split
        · exact refuse_meets fun _ same => by cases same
        · exact rest

/-- Checking a certificate is a call; the request goes on if the certificate is let pass. -/
theorem checkCertificate_bind_meets
    {parameters : SigningParameters}
    {next : Unit → Program β}
    (inOrder : (terms setup s w r).calls before (.checkCertificate parameters))
    (rest :
      (next ()).Meets (terms setup s w r) s yields
        (before ++ [⟨.checkCertificate parameters, .answered CertificateStatus.proceed⟩])) :
    (Guard.checkCertificate parameters >>= next).Meets (terms setup s w r) s yields before := by
  refine ⟨inOrder, fun status => ?_⟩
  cases status with
  | proceed =>
      exact rest
  | reject rejection =>
      exact refuse_meets fun _ same => by cases same

end Workflow

end Notary
