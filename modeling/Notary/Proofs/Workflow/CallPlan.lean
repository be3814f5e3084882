import Notary.Engine.Script
import Notary.Proofs.Workflow.Guard
import Notary.Workflow.Plan

namespace Notary

/-!
# The calls of each workflow

Each workflow has a fixed plan of cryptographic calls. Whatever the engine does, a
run calls it along that plan, goes on only after a call that succeeded, and ends
either when the plan is executed or as its last call says. A request that the
guards reject does not reach the engine.
-/

open Config (ProofEntry SigningEntry SigningParameters Snapshot ValidationParameters
  VerificationEntry)

namespace Commits

variable
    {σ β : Type}
    {admits : σ → Call → Prop}
    {plan : List σ}

/-- Checking a certificate takes one step of a plan. -/
theorem checkCertificate_bind
    {step : σ}
    {parameters : SigningParameters}
    {next : Unit → Program β}
    (admitted : admits step (.checkCertificate parameters))
    (rest : Commits admits plan (next ())) :
    Commits admits (step :: plan) (Guard.checkCertificate parameters >>= next) :=
  .check admitted rest fun rejection =>
    ⟨.certificateRefused parameters.certificate rejection, rfl⟩

/-- A call that any answer satisfies takes one step of a plan. -/
theorem call_bind
    {step : σ}
    {call : Call}
    {next : call.Answer → Program β}
    (cryptographic : call.isCryptographic = true)
    (unconditional : ∀ answer, Attempt.Succeeded ⟨call, .answered answer⟩)
    (admitted : admits step call)
    (rest : ∀ answer, Commits admits plan (next answer)) :
    Commits admits (step :: plan) (Program.call call >>= next) :=
  .ask cryptographic unconditional admitted rest

end Commits

/-- A cryptographic call of a workflow. -/
inductive Step where
  /-- Check the certificate that signs the document. -/
  | checkSigner
  | sign (profile : Profile)
  | validate (profile : Profile)
  | validateCertificate
  | proveSignature
  | proveCertificate
  /-- Check the certificate that signs the proof. -/
  | checkProofSigner
  | signProof (profile : Profile)
deriving Repr, DecidableEq

namespace Workflow

/-- The cryptographic calls of a workflow on which nothing goes wrong. -/
def plan : Workflow → List Step
  | sign profile => [.checkSigner, .sign profile]
  | signWithProof profile =>
      [.checkSigner, .sign profile, .validate profile, .proveSignature, .checkProofSigner,
        .signProof .xades]
  | validate profile => [.validate profile]
  | validateWithProof profile =>
      [.validate profile, .proveSignature, .checkProofSigner, .signProof .xmldsig]
  | validateCertificate => [.validateCertificate]
  | validateCertificateWithProof =>
      [.validateCertificate, .proveCertificate, .checkProofSigner, .signProof .xades]

/-- Every workflow has something to do. -/
theorem plan_ne_nil
    (w : Workflow) :
    w.plan ≠ [] := by
  cases w <;> simp [plan]

/-- The signing configuration that a request names. -/
def signer? (s : Snapshot) (r : Request) : Option SigningEntry :=
  r.signingId.bind s.signature?

/-- The verification configuration that a request names for a workflow. -/
def verifier? (w : Workflow) (s : Snapshot) (r : Request) : Option VerificationEntry :=
  match w with
  | validateCertificate | validateCertificateWithProof =>
      r.certificateVerificationId.bind s.certificateVerification?
  | _ => r.signatureVerificationId.bind s.signatureVerification?

/--
The proof configuration of a workflow: signing with proof takes the one that its
signing configuration refers to, the others the one that the request names.
-/
def proofSigner? (w : Workflow) (s : Snapshot) (r : Request) : Option ProofEntry :=
  match w with
  | signWithProof _ => (signer? s r).bind fun entry => s.proof? entry.proofId
  | _ => r.proofId.bind s.proof?

/-- The calls that are admitted for a step, with the configurations that the request names. -/
inductive Admits (w : Workflow) (s : Snapshot) (r : Request) : Step → Call → Prop where
  | checkSigner
      {entry : SigningEntry}
      (found : signer? s r = some entry) :
      Admits w s r .checkSigner (.checkCertificate entry.parameters)
  | sign
      {entry : SigningEntry}
      (found : signer? s r = some entry)
      (profile : Profile)
      (document : String) :
      Admits w s r (.sign profile) (.sign profile document entry.parameters)
  | validate
      {entry : VerificationEntry}
      (found : w.verifier? s r = some entry)
      (profile : Profile)
      (document : String) :
      Admits w s r (.validate profile) (.validate profile document entry.parameters)
  | validateCertificate
      {entry : VerificationEntry}
      (found : w.verifier? s r = some entry)
      (document : CertificateDocument) :
      Admits w s r .validateCertificate (.validateCertificate document entry.parameters)
  | proveSignature
      (report : ValidationReport)
      (parameters : ProofParameters) :
      Admits w s r .proveSignature (.proveSignature report parameters)
  | proveCertificate
      (report : ValidationReport)
      (parameters : ProofParameters) :
      Admits w s r .proveCertificate (.proveCertificate report parameters)
  | checkProofSigner
      {entry : ProofEntry}
      (found : w.proofSigner? s r = some entry) :
      Admits w s r .checkProofSigner (.checkCertificate entry.parameters)
  | signProof
      {entry : ProofEntry}
      (found : w.proofSigner? s r = some entry)
      (profile : Profile)
      (proof : String) :
      Admits w s r (.signProof profile) (.sign profile proof entry.parameters)

variable
    {w : Workflow}
    {setup : Setup}
    {s : Snapshot}
    {r : Request}

/-- Signing a proof takes the last two steps of the plan of a workflow with proof. -/
theorem signProof_commits
    {entry : ProofEntry}
    (found : w.proofSigner? s r = some entry)
    (profile : Profile)
    (proof : String) :
    Commits (w.Admits s r) [.checkProofSigner, .signProof profile]
      (signProof profile proof entry.parameters) :=
  .checkCertificate_bind (.checkProofSigner found) <|
    .call_bind rfl (fun _ => trivial) (.signProof found profile proof) fun signed =>
      .done signed.signedDocument

/-- Validating a certificate takes one step, whether it goes out as bytes or as text. -/
theorem validateCertificateDocument_commits
    {entry : VerificationEntry}
    (found : w.verifier? s r = some entry)
    (document : List UInt8) :
    Commits (w.Admits s r) [.validateCertificate]
      (validateCertificateDocument document entry.parameters) := by
  by_cases binary : Text.isBinary document = true
  · simp only [validateCertificateDocument, binary, ↓reduceIte]
    exact .ask rfl (fun _ => trivial) (.validateCertificate found _) .done
  · simp only [validateCertificateDocument, binary, Bool.false_eq_true, ↓reduceIte]
    refine .decode fun text => ?_
    exact .ask rfl (fun _ => trivial) (.validateCertificate found _) .done

/-- Signing takes a snapshot, is guarded, and then follows its plan. -/
theorem runSign_readsFirst
    (profile : Profile) :
    ReadsFirst ((sign profile).Admits · r) (sign profile).plan (runSign setup r profile) := by
  apply ReadsFirst.snapshot_bind
  intro s
  apply Guarded.resolve_bind
  intro entry found
  apply Guarded.acceptJson_bind
  apply Guarded.requireDocument_bind
  intro document
  apply Guarded.checkSecret_bind
  apply Guarded.commits
  apply Commits.checkCertificate_bind (.checkSigner found)
  refine Commits.call_bind rfl (fun _ => trivial) (.sign found profile _) ?_
  intro signed
  exact .done _

/-- Signing with proof takes a snapshot, is guarded, and then follows its plan. -/
theorem runSignWithProof_readsFirst
    (profile : Profile) :
    ReadsFirst ((signWithProof profile).Admits · r) (signWithProof profile).plan
      (runSignWithProof setup r profile) := by
  apply ReadsFirst.snapshot_bind
  intro s
  apply Guarded.resolve_bind
  intro entry found
  apply Guarded.resolve_bind
  intro verification foundVerification
  apply Guarded.resolve_bind
  intro proofEntry foundProof
  apply Guarded.acceptJson_bind
  apply Guarded.requireDocument_bind
  intro document
  apply Guarded.requireProofFields_bind
  intro fields
  apply Guarded.checkSecret_bind
  have verifier : (signWithProof profile).verifier? s r = some verification :=
    foundVerification
  have proofSigner : (signWithProof profile).proofSigner? s r = some proofEntry := by
    unfold proofSigner? signer?
    rw [found]
    exact foundProof
  apply Guarded.commits
  apply Commits.checkCertificate_bind (.checkSigner found)
  refine Commits.call_bind rfl (fun _ => trivial) (.sign found profile _) ?_
  intro signed
  refine Commits.call_bind rfl (fun _ => trivial) (.validate verifier profile _) ?_
  intro validation
  refine Commits.call_bind rfl (fun _ => trivial) (.proveSignature _ _) ?_
  intro proof
  apply (signProof_commits proofSigner .xades proof).bind
  intro signedProof
  exact .done _

/-- Validating takes a snapshot, is guarded, and then follows its plan. -/
theorem runValidate_readsFirst
    (profile : Profile) :
    ReadsFirst ((validate profile).Admits · r) (validate profile).plan
      (runValidate r profile) := by
  apply ReadsFirst.snapshot_bind
  intro s
  apply Guarded.resolve_bind
  intro entry found
  have verifier : (validate profile).verifier? s r = some entry :=
    found
  apply Guarded.acceptJson_bind
  apply Guarded.requireDocument_bind
  intro document
  apply Guarded.commits
  apply Commits.decode
  intro text
  refine Commits.call_bind rfl (fun _ => trivial) (.validate verifier profile _) ?_
  intro validation
  exact .done _

/-- Validating with proof takes a snapshot, is guarded, and then follows its plan. -/
theorem runValidateWithProof_readsFirst
    (profile : Profile) :
    ReadsFirst ((validateWithProof profile).Admits · r) (validateWithProof profile).plan
      (runValidateWithProof setup r profile) := by
  apply ReadsFirst.snapshot_bind
  intro s
  apply Guarded.resolve_bind
  intro entry found
  apply Guarded.resolve_bind
  intro proofEntry foundProof
  have verifier : (validateWithProof profile).verifier? s r = some entry :=
    found
  have proofSigner : (validateWithProof profile).proofSigner? s r = some proofEntry :=
    foundProof
  apply Guarded.acceptJson_bind
  apply Guarded.requireDocument_bind
  intro document
  apply Guarded.requireProofFields_bind
  intro fields
  apply Guarded.commits
  apply Commits.decode
  intro text
  refine Commits.call_bind rfl (fun _ => trivial) (.validate verifier profile _) ?_
  intro validation
  refine Commits.call_bind rfl (fun _ => trivial) (.proveSignature _ _) ?_
  intro proof
  apply (signProof_commits proofSigner .xmldsig proof).bind
  intro signedProof
  exact .done _

/-- Validating a certificate takes a snapshot, is guarded, and then follows its plan. -/
theorem runValidateCertificate_readsFirst :
    ReadsFirst (validateCertificate.Admits · r) validateCertificate.plan
      (runValidateCertificate r) := by
  apply ReadsFirst.snapshot_bind
  intro s
  apply Guarded.resolve_bind
  intro entry found
  have verifier : validateCertificate.verifier? s r = some entry :=
    found
  apply Guarded.acceptJson_bind
  apply Guarded.requireDocument_bind
  intro document
  apply Guarded.commits
  apply (validateCertificateDocument_commits verifier document).bind
  intro validation
  exact .done _

/-- Validating a certificate with proof takes a snapshot, is guarded, and then follows its plan. -/
theorem runValidateCertificateWithProof_readsFirst :
    ReadsFirst (validateCertificateWithProof.Admits · r) validateCertificateWithProof.plan
      (runValidateCertificateWithProof setup r) := by
  apply ReadsFirst.snapshot_bind
  intro s
  apply Guarded.resolve_bind
  intro entry found
  apply Guarded.resolve_bind
  intro proofEntry foundProof
  have verifier : validateCertificateWithProof.verifier? s r = some entry :=
    found
  have proofSigner : validateCertificateWithProof.proofSigner? s r = some proofEntry :=
    foundProof
  apply Guarded.acceptJson_bind
  apply Guarded.requireDocument_bind
  intro document
  apply Guarded.requireProofFields_bind
  intro fields
  apply Guarded.commits
  apply (validateCertificateDocument_commits verifier document).bind
  intro validation
  refine Commits.call_bind rfl (fun _ => trivial) (.proveCertificate _ _) ?_
  intro proof
  apply (signProof_commits proofSigner .xades proof).bind
  intro signedProof
  exact .done _

/-- Every workflow takes a snapshot, is guarded, and then follows its plan. -/
theorem program_readsFirst
    (setup : Setup)
    (w : Workflow)
    (r : Request) :
    ReadsFirst (w.Admits · r) w.plan (w.program setup r) := by
  have stepsReadFirst : ReadsFirst (w.Admits · r) w.plan (w.steps setup r) := by
    cases w with
    | sign profile =>
        exact runSign_readsFirst profile
    | signWithProof profile =>
        exact runSignWithProof_readsFirst profile
    | validate profile =>
        exact runValidate_readsFirst profile
    | validateWithProof profile =>
        exact runValidateWithProof_readsFirst profile
    | validateCertificate =>
        exact runValidateCertificate_readsFirst
    | validateCertificateWithProof =>
        exact runValidateCertificateWithProof_readsFirst
  rw [← List.append_nil w.plan]
  exact stepsReadFirst.followedBy fun _ report => .note _ (.done report)

/-- How the attempts of a run and its ending go with the plan of its workflow. -/
structure KeepsPlan
    (w : Workflow)
    (s : Snapshot)
    (r : Request)
    (attempts : List Attempt)
    (ending : Ending WorkflowReport) : Prop where
  /-- The calls are the first ones of the plan, in order. -/
  admitted :
    ∃ made,
      made <+: w.plan ∧
        List.Forall₂ (fun step attempt => w.Admits s r step attempt.call) made attempts
  /-- Every call except possibly the last succeeds. -/
  succeeded : ∀ attempt ∈ attempts.dropLast, attempt.Succeeded
  /-- There is a report exactly when the whole plan is executed and every call succeeds. -/
  finished_iff :
    (∃ report, ending = .finished report) ↔
      attempts.length = w.plan.length ∧ ∀ attempt ∈ attempts, attempt.Succeeded
  /-- Without a report the last call, if there is one, says how the run ends. -/
  stopped :
    (∀ report, ending ≠ .finished report) →
      attempts ≠ [] →
        ∃ last, attempts.getLast? = some last ∧ last.stop? = some ending
  /-- Without any call the request is rejected. -/
  rejected : attempts = [] → ∃ rejection, ending = .rejected rejection

/-- A course of the plan of a workflow keeps to that plan. -/
theorem KeepsPlan.of_course
    {attempts : List Attempt}
    {ending : Ending WorkflowReport}
    (course : Course (w.Admits s r) w.plan attempts ending) :
    KeepsPlan w s r attempts ending where
  admitted := course.admitted
  succeeded := course.succeeded_of_mem_dropLast
  finished_iff := course.finished_iff
  stopped unfinished _ := course.stopped_by_last unfinished
  rejected none := by
    subst none
    have empty : w.plan = [] := by
      generalize w.plan = plan at course
      cases course
      rfl
    exact (w.plan_ne_nil empty).elim

/-- A request that is rejected before any call keeps to the plan of its workflow. -/
theorem KeepsPlan.of_rejected
    (w : Workflow)
    (s : Snapshot)
    (r : Request)
    (rejection : Rejection) :
    KeepsPlan w s r [] (.rejected rejection) where
  admitted := ⟨[], List.nil_prefix, .nil⟩
  succeeded := by simp
  finished_iff := by
    have positive := List.length_pos_of_ne_nil w.plan_ne_nil
    simp [Nat.ne_of_lt positive]
  stopped _ called := (called rfl).elim
  rejected _ := ⟨rejection, rfl⟩

/--
Whatever snapshot is published, and against every engine that leaves decoding to the
default detector, a run of a workflow keeps to the plan of that workflow.
-/
theorem run_keepsPlan
    {engine : Engine}
    (detects : engine.DetectsByDefault)
    (history : List Call)
    (setup : Setup)
    (s : Snapshot)
    (w : Workflow)
    (r : Request) :
    KeepsPlan w s r
      (engine.attempts history ((w.program setup r).runOn s engine history).calls)
      ((w.program setup r).runOn s engine history).ending := by
  obtain ⟨rest, guarded, sameRun⟩ :=
    (program_readsFirst setup w r).exists_guarded s engine history
  rw [sameRun]
  rcases guarded.course detects history with
    ⟨uncalled, rejection, rejected⟩ | course
  · rw [uncalled, rejected]
    exact .of_rejected w s r rejection
  · exact .of_course course

end Workflow

namespace Rehearsal

/-- Signing parameters with a given certificate. -/
def parameters (certificate : String) : SigningParameters :=
  ⟨certificate, "pwd", "SHA512", "c14n", .enveloped, none, none, none, none⟩

/-- A configuration with one entry of each kind that requests refer to. -/
def document : Config.Document :=
  { signature := [⟨"1", "2", none, none, parameters "sign.p12"⟩]
    proof := [⟨"2", none, parameters "proof.p12"⟩]
    signatureVerification := [⟨"3", none, ⟨"r", ""⟩⟩]
    certificateVerification := [⟨"4", none, ⟨"r", ""⟩⟩]
    ca := [] }

/-- The snapshot of the configuration. -/
def snapshot : Snapshot :=
  .ofDocument document (by decide +kernel)

/-- A request that lacks nothing. -/
def request : Request :=
  { accept := some "application/json"
    signingId := some "1"
    signatureVerificationId := some "3"
    certificateVerificationId := some "4"
    proofId := some "2"
    requestId := some "r"
    proofTag := some "t"
    applicantId := some "a"
    secret := none
    document := some [60, 100, 47, 62] }

/-- Nothing enforced, no context path. -/
def setup : Setup :=
  ⟨true, "", .ofBuild "2.1.3"⟩

/-- An engine that rejects the certificate for proofs. -/
def engine : Engine :=
  Script.engine { Script.smooth with rejections := [("proof.p12", .serviceUnavailable)] }

/-- Signing the document of the request with proof. -/
def run : Run WorkflowReport :=
  ((Workflow.signWithProof .xades).program setup request).runOn snapshot engine []

end Rehearsal

/-- A certificate for proofs that is rejected stops signing with proof at its fifth call. -/
theorem Workflow.run_keepsPlan_proofSigner_rejected :
    Rehearsal.engine.DetectsByDefault ∧
      KeepsPlan (.signWithProof .xades) Rehearsal.snapshot Rehearsal.request
        (Rehearsal.engine.attempts [] Rehearsal.run.calls) Rehearsal.run.ending ∧
      Rehearsal.run.calls.length = 5 ∧
      Rehearsal.run.ending = .rejected .serviceUnavailable :=
  have detects : Rehearsal.engine.DetectsByDefault := fun _ _ => rfl
  ⟨detects, run_keepsPlan detects [] _ _ _ _, by decide +kernel, by decide +kernel⟩

end Notary
