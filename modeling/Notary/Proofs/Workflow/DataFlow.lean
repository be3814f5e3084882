import Notary.Proofs.Config.Lookup
import Notary.Proofs.Workflow.Shown
import Notary.Proofs.Workflow.Terms
import Notary.Service.Gateway

namespace Notary

/-!
# What flows between the calls of a workflow

Every workflow keeps its terms after any answers. So in every run, whatever the engine
does, each call carries what the request, the first entry of each id and the earlier
answers prescribe, and the report is put together from the answers.
-/

open Config (ProofEntry Snapshot VerificationEntry)

namespace Workflow

variable
    {setup : Setup}
    {s : Snapshot}
    {w : Workflow}
    {r : Request}

/-- What a workflow yields goes with all that was gathered. -/
def Follows (setup : Setup) (s : Snapshot) (w : Workflow) (r : Request)
    (program : Program WorkflowReport) (before : List Attempt) : Prop :=
  program.Meets (terms setup s w r) s
    (fun attempts report => Concludes (gathered attempts) w report) before

/-- Signing a proof checks the certificate for it, and signs the proof that was generated. -/
theorem signProof_bind_follows
    {before : List Attempt}
    {g : Gathered}
    (known : gathered before = g)
    {entry : ProofEntry}
    (found : w.proofSigner? s r = some entry)
    {profile : Profile}
    {proof : String}
    (checks : w.plan[g.made]? = some .checkProofSigner)
    (signs : w.plan[g.made + 1]? = some (.signProof profile))
    (proves : g.proofs = [proof])
    {next : String → Program WorkflowReport}
    (rest : ∀ later signed, gathered later = g.counted.withSignature signed →
      Follows setup s w r (next signed.signedDocument) later) :
    Follows setup s w r (signProof profile proof entry.parameters >>= next) before := by
  subst known
  apply Program.Meets.bind
  refine checkCertificate_bind_meets
    (.inr ⟨.checkProofSigner, checks, .checkProofSigner found⟩) ?_
  have counted :
      gathered (before ++
          [⟨.checkCertificate entry.parameters, .answered CertificateStatus.proceed⟩]) =
        (gathered before).counted :=
    gathered_append before _
  refine Program.Meets.call_bind (.inr ⟨.signProof profile, ?_, ?_⟩) ?_
  · rw [counted]
    exact signs
  · rw [counted]
    refine .signProof ?_ found profile
    exact proves
  · intro signed
    refine rest _ signed ?_
    rw [gathered_append, counted]
    rfl

/-- A certificate is validated as it is if it looks binary, else as the text decoded. -/
theorem validateCertificateDocument_bind_follows
    {document : List UInt8}
    (given : r.document = some document)
    {entry : VerificationEntry}
    (found : r.certificateVerificationId.bind s.certificateVerification? = some entry)
    (validates : w.plan[0]? = some .validateCertificate)
    {next : ValidationReport → Program WorkflowReport}
    (rest : ∀ later texts validation, gathered later = ⟨1, texts, [], [validation], []⟩ →
      Follows setup s w r (next validation) later) :
    Follows setup s w r (validateCertificateDocument document entry.parameters >>= next) [] := by
  apply Program.Meets.bind
  cases binary : Text.isBinary document with
  | true =>
      simp only [validateCertificateDocument, binary, ↓reduceIte]
      refine
        ⟨.inr ⟨.validateCertificate, validates, .validateBinary given binary found⟩, ?_⟩
      intro validation
      exact rest _ [] validation rfl
  | false =>
      simp only [validateCertificateDocument, binary, Bool.false_eq_true, ↓reduceIte]
      refine ⟨.inl ⟨document, given, rfl⟩, fun text => ?_⟩
      refine
        ⟨.inr ⟨.validateCertificate, validates, .validateText given binary rfl found⟩, ?_⟩
      intro validation
      exact rest _ [text] validation rfl

/-! In each walk, what was gathered is known from the answers met on the way. -/

/-- Signing hands on its data as its plan says. -/
theorem runSign_follows
    (profile : Profile) :
    Follows setup s (sign profile) r (runSign setup r profile) [] := by
  apply resolve_bind_meets
  intro entry signer
  apply acceptJson_bind_meets
  apply requireDocument_bind_meets
  intro document given
  apply checkSecret_bind_meets signer
  apply checkCertificate_bind_meets (.inr ⟨.checkSigner, rfl, .checkSigner signer⟩)
  refine Program.Meets.call_bind (.inr ⟨.sign profile, rfl, .sign given signer profile⟩) ?_
  intro signed
  exact .sign rfl

theorem runSignWithProof_follows
    (profile : Profile) :
    Follows setup s (signWithProof profile) r (runSignWithProof setup r profile) [] := by
  apply resolve_bind_meets
  intro entry signer
  apply resolve_bind_meets
  intro verification verifier
  apply resolve_bind_meets
  intro proofEntry referred
  have proofSigner : (signWithProof profile).proofSigner? s r = some proofEntry := by
    unfold proofSigner? signer?
    rw [signer]
    exact referred
  apply acceptJson_bind_meets
  apply requireDocument_bind_meets
  intro document given
  apply requireProofFields_bind_meets
  intro fields identified tagged applied
  apply checkSecret_bind_meets signer
  apply checkCertificate_bind_meets (.inr ⟨.checkSigner, rfl, .checkSigner signer⟩)
  refine Program.Meets.call_bind (.inr ⟨.sign profile, rfl, .sign given signer profile⟩) ?_
  intro signed
  refine Program.Meets.call_bind
    (.inr ⟨.validate profile, rfl, .validateSigned rfl verifier profile⟩) ?_
  intro validation
  refine Program.Meets.call_bind
    (.inr ⟨.proveSignature, rfl, .proveSignature rfl identified tagged applied⟩) ?_
  intro proof
  refine signProof_bind_follows rfl proofSigner rfl rfl rfl ?_
  intro later signedProof known
  refine .signWithProof ?_ ?_
  · rw [known]
    rfl
  · rw [known]
    rfl

theorem runValidate_follows
    (profile : Profile) :
    Follows setup s (validate profile) r (runValidate r profile) [] := by
  apply resolve_bind_meets
  intro entry verifier
  apply acceptJson_bind_meets
  apply requireDocument_bind_meets
  intro document given
  refine Program.Meets.call_bind (.inl ⟨document, given, rfl⟩) ?_
  intro text
  refine Program.Meets.call_bind
    (.inr ⟨.validate profile, rfl, .validate (.inl rfl) rfl verifier⟩) ?_
  intro validation
  exact .validate rfl

theorem runValidateWithProof_follows
    (profile : Profile) :
    Follows setup s (validateWithProof profile) r (runValidateWithProof setup r profile) [] := by
  apply resolve_bind_meets
  intro entry verifier
  apply resolve_bind_meets
  intro proofEntry foundProof
  have proofSigner : (validateWithProof profile).proofSigner? s r = some proofEntry :=
    foundProof
  apply acceptJson_bind_meets
  apply requireDocument_bind_meets
  intro document given
  apply requireProofFields_bind_meets
  intro fields identified tagged applied
  refine Program.Meets.call_bind (.inl ⟨document, given, rfl⟩) ?_
  intro text
  refine Program.Meets.call_bind
    (.inr ⟨.validate profile, rfl, .validate (.inr rfl) rfl verifier⟩) ?_
  intro validation
  refine Program.Meets.call_bind
    (.inr ⟨.proveSignature, rfl, .proveSignature rfl identified tagged applied⟩) ?_
  intro proof
  refine signProof_bind_follows rfl proofSigner rfl rfl rfl ?_
  intro later signedProof known
  refine .validateWithProof ?_ ?_
  · rw [known]
    rfl
  · rw [known]
    rfl

theorem runValidateCertificate_follows :
    Follows setup s validateCertificate r (runValidateCertificate r) [] := by
  apply resolve_bind_meets
  intro entry verifier
  apply acceptJson_bind_meets
  apply requireDocument_bind_meets
  intro document given
  apply validateCertificateDocument_bind_follows given verifier rfl
  intro later texts validation known
  refine .validateCertificate ?_
  rw [known]

theorem runValidateCertificateWithProof_follows :
    Follows setup s validateCertificateWithProof r (runValidateCertificateWithProof setup r)
      [] := by
  apply resolve_bind_meets
  intro entry verifier
  apply resolve_bind_meets
  intro proofEntry foundProof
  have proofSigner : validateCertificateWithProof.proofSigner? s r = some proofEntry :=
    foundProof
  apply acceptJson_bind_meets
  apply requireDocument_bind_meets
  intro document given
  apply requireProofFields_bind_meets
  intro fields identified tagged applied
  apply validateCertificateDocument_bind_follows given verifier rfl
  intro middle texts validation validated
  -- Whether a text was decoded depends on the certificate, so `texts` stays arbitrary.
  refine Program.Meets.call_bind (.inr ⟨.proveCertificate, ?_, ?_⟩) ?_
  · rw [validated]
    rfl
  · refine .proveCertificate ?_ identified tagged applied
    rw [validated]
  intro proof
  have proved :
      gathered (middle ++ [⟨.proveCertificate validation _, .answered proof⟩]) =
        ⟨2, texts, [], [validation], [proof]⟩ := by
    rw [gathered_append, validated]
    rfl
  refine signProof_bind_follows proved proofSigner rfl rfl rfl ?_
  intro later signedProof known
  refine .validateCertificateWithProof ?_ ?_
  · rw [known]
    rfl
  · rw [known]
    rfl

/-- Every workflow keeps its terms. -/
theorem program_follows
    (setup : Setup)
    (s : Snapshot)
    (w : Workflow)
    (r : Request) :
    Follows setup s w r (w.program setup r) [] := by
  have stepsFollow : Follows setup s w r (w.steps setup r) [] := by
    cases w with
    | sign profile =>
        exact runSign_follows profile
    | signWithProof profile =>
        exact runSignWithProof_follows profile
    | validate profile =>
        exact runValidate_follows profile
    | validateWithProof profile =>
        exact runValidateWithProof_follows profile
    | validateCertificate =>
        exact runValidateCertificate_follows
    | validateCertificateWithProof =>
        exact runValidateCertificateWithProof_follows
  refine Program.Meets.bind (stepsFollow.mono fun later report concludes => ?_)
  exact ⟨nofun, concludes⟩

/-- A run notes a hash as skipped only on account of its signing configuration. -/
theorem hashSkipped_not_mem_notes
    {setup : Setup}
    {s : Snapshot}
    {w : Workflow}
    {r : Request}
    {engine : Engine}
    (unskipped : ∀ entry, signer? s r = some entry →
      (Secret.verdict Secret.verifier entry.secret r.secret).skipped = [])
    (quiet : ∀ history call message,
      .event (.hashSkipped message) ∉ (engine.reply history call).notes)
    (history : List Call)
    (message : String) :
    .event (.hashSkipped message) ∉ ((w.program setup r).runOn s engine history).notes := by
  intro noted
  have replies :
      ∀ history call, ∀ n ∈ (engine.reply history call).notes,
        (terms setup s w r).notes n := by
    intro history call n member message same
    subst same
    exact (quiet history call message member).elim
  have failures :
      ∀ failure : Failure, ∀ n ∈ failure.notes, (terms setup s w r).notes n := by
    intro failure n member message same
    subst same
    simp [Failure.notes] at member
  have follows := program_follows setup s w r
  obtain ⟨entry, found, fault, skipped, -⟩ :=
    follows.notes replies failures history _ noted message rfl
  rw [unskipped entry found] at skipped
  cases skipped

/-- How the attempts of a run and its report follow from a document and a request. -/
structure DataFlow
    (setup : Setup)
    (document : Config.Document)
    (s : Snapshot)
    (w : Workflow)
    (r : Request)
    (engine : Engine)
    (attempts : List Attempt)
    (ending : Ending WorkflowReport) : Prop where
  /-- The entries that are looked up are the first ones of their ids. -/
  signature : ∀ id, s.signature? id = document.signature.find? (·.id = id)
  proof : ∀ id, s.proof? id = document.proof.find? (·.id = id)
  signatureVerification :
    ∀ id, s.signatureVerification? id = document.signatureVerification.find? (·.id = id)
  certificateVerification :
    ∀ id, s.certificateVerification? id = document.certificateVerification.find? (·.id = id)
  /-- What is decoded is the document of the request. -/
  decoded :
    ∀ earlier attempt later, attempts = earlier ++ attempt :: later →
      attempt.call.isCryptographic = false →
        ∃ bytes, r.document = some bytes ∧ attempt.call = .decode bytes
  /-- By default a document is decoded as the character set that is detected says. -/
  detected :
    engine.DetectsByDefault → ∀ bytes text,
      ⟨.decode bytes, .answered text⟩ ∈ attempts → text = String.ofList (Charset.decode bytes)
  /-- Each call that goes to the engine is prescribed for its step by what came before. -/
  prescribed :
    ∀ earlier attempt later, attempts = earlier ++ attempt :: later →
      attempt.call.isCryptographic = true →
        ∃ step, w.plan[(gathered earlier).made]? = some step ∧
          Prescribed setup s r (gathered earlier) w step attempt.call
  /-- A report is put together from all that came of the calls, and its text shows all of it. -/
  concluded :
    ∀ report, ending = .finished report →
      Concludes (gathered attempts) w report ∧ report.WrittenIn report.text

/-- Only cryptographic calls are prescribed for the steps of a plan. -/
theorem Prescribed.isCryptographic
    {g : Gathered}
    {step : Step}
    {call : Call}
    (prescribed : Prescribed setup s r g w step call) :
    call.isCryptographic = true := by
  cases prescribed <;> rfl

/--
Whatever valid document is published, and against every engine, the data of a run flow
as the document and the request prescribe.
-/
theorem run_dataFlow
    (document : Config.Document)
    (valid : document.valid = true)
    (engine : Engine)
    (history : List Call)
    (secretsEnforced : Bool)
    (contextPath build : String)
    (w : Workflow)
    (r : Request) :
    let setup := Setup.ofBuild secretsEnforced contextPath build
    let s := Snapshot.ofDocument document valid
    let run := (w.program setup r).runOn s engine history
    DataFlow setup document s w r engine (engine.transcript history run.calls) run.ending := by
  intro setup s run
  have follows : Follows setup s w r (w.program setup r) [] :=
    program_follows setup s w r
  constructor
  case signature =>
    exact Config.getElem?_of_get?_ofIds document.signature (·.id)
  case proof =>
    exact Config.getElem?_of_get?_ofIds document.proof (·.id)
  case signatureVerification =>
    exact Config.getElem?_of_get?_ofIds document.signatureVerification (·.id)
  case certificateVerification =>
    exact Config.getElem?_of_get?_ofIds document.certificateVerification (·.id)
  case decoded =>
    intro earlier attempt later split decodes
    rcases follows.calls engine history split with
      inOrder | ⟨step, planned, prescribed⟩
    · exact inOrder
    · rw [prescribed.isCryptographic] at decodes
      cases decodes
  case detected =>
    intro detects bytes text member
    obtain ⟨earlier, replied⟩ := Engine.exists_reply_of_mem_transcript member
    rw [detects] at replied
    exact Outcome.answered.inj replied
  case prescribed =>
    intro earlier attempt later split cryptographic
    rcases follows.calls engine history split with
      ⟨bytes, given, decodes⟩ | inOrder
    · rw [decodes] at cryptographic
      cases cryptographic
    · exact inOrder
  case concluded =>
    intro report finished
    exact ⟨follows.yields_of_finished engine history finished, report.writtenIn_text⟩

end Workflow

namespace Rehearsal

/-- Signing the document of the request with proof, on which nothing goes wrong. -/
def smoothRun : Run WorkflowReport :=
  ((Workflow.signWithProof .xades).program (.ofBuild true "/notary" "2.1.3-rc1") request).runOn
    snapshot Script.smooth.engine []

end Rehearsal

/-- When nothing goes wrong, the proof that is signed is the one of the request. -/
theorem Workflow.run_dataFlow_smooth :
    Rehearsal.document.valid = true ∧
      DataFlow (.ofBuild true "/notary" "2.1.3-rc1") Rehearsal.document Rehearsal.snapshot
        (.signWithProof .xades) Rehearsal.request Script.smooth.engine
        (Script.smooth.engine.transcript [] Rehearsal.smoothRun.calls)
        Rehearsal.smoothRun.ending ∧
      Rehearsal.smoothRun.ending =
        .finished (.signatureWithProof ⟨true, [], []⟩ "<signed><d/></signed>"
          "<signed><proof>r</proof></signed>") :=
  have valid : Rehearsal.document.valid = true := Rehearsal.snapshot.valid
  ⟨valid, run_dataFlow Rehearsal.document valid _ [] true _ _ _ _, by decide +kernel⟩

end Notary
