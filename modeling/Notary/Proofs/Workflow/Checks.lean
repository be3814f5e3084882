import Notary.Proofs.Program.Reporting
import Notary.Proofs.Workflow.CallPlan

namespace Notary

/-!
# The checks of each workflow

A workflow goes through its guards one by one. Each guard checks the request and has
a rejection of its own. The checks of all workflows come in one order: first the
configurations that the request names, then the one that the signing configuration
refers to, what the caller accepts, the document, the proof fields and the secret.
Before its first call a workflow refuses a request exactly as the first check that
fails says.
-/

open Config (Entry SigningEntry Snapshot)

/-- A configuration that requests name: the field that holds its id, and its collection. -/
structure Reference where
  field : Field
  kind : Config.Kind
deriving Repr, DecidableEq

namespace Reference

/-- Whether a request leaves the id out. -/
def missing (r : Request) (x : Reference) : Bool :=
  (r.get x.field).isNone

/-- Whether a request carries an id that no entry has. -/
def unknown (s : Snapshot) (r : Request) (x : Reference) : Bool :=
  (r.get x.field).any fun id => (s.entry? x.kind id).isNone

end Reference

namespace Workflow

/-- The configurations that a request has to name for a workflow, in the order of their look-ups. -/
def references : Workflow → List Reference
  | sign _ => [⟨.signingId, .signature⟩]
  | signWithProof _ =>
      [⟨.signingId, .signature⟩, ⟨.signatureVerificationId, .signatureVerification⟩]
  | validate _ => [⟨.signatureVerificationId, .signatureVerification⟩]
  | validateWithProof _ =>
      [⟨.signatureVerificationId, .signatureVerification⟩, ⟨.proofId, .proof⟩]
  | validateCertificate => [⟨.certificateVerificationId, .certificateVerification⟩]
  | validateCertificateWithProof =>
      [⟨.certificateVerificationId, .certificateVerification⟩, ⟨.proofId, .proof⟩]

/-- Whether a workflow signs the document of the request. -/
def signs : Workflow → Bool
  | sign _ | signWithProof _ => true
  | _ => false

/-- Whether a workflow has its validation proved. -/
def proves : Workflow → Bool
  | signWithProof _ | validateWithProof _ | validateCertificateWithProof => true
  | _ => false

end Workflow

/-- A check of a request. -/
inductive Check where
  | reference (x : Reference)
  /-- The proof configuration that the signing configuration refers to. -/
  | proofOfSigner
  | accept
  | document
  | proofFields
  | secret
deriving Repr, DecidableEq

/-- How a check rejects a request; nothing if the request passes. -/
def Check.refusal? (setup : Setup) (s : Snapshot) (r : Request) : Check → Option Rejection
  | reference x =>
      if x.missing r then some .badRequest
      else if x.unknown s r then some .notFound
      else none
  | proofOfSigner =>
      match (Workflow.signer? s r).bind fun entry => s.proof? entry.proofId with
      | some _ => none
      | none => some .notFound
  | accept => if Guard.allowsJson r.accept then none else some .notImplemented
  | document => if r.document.isSome then none else some .badRequest
  | proofFields => if (Guard.proofFields? r).isSome then none else some .badRequest
  | secret =>
      if setup.secretsEnforced &&
          (Workflow.signer? s r).any fun entry =>
            (Secret.verdict Secret.verifier entry.secret r.secret).rejects
      then some .unauthorized
      else none

/-- The checks that look configurations up. -/
def Workflow.lookupChecks (w : Workflow) : List Check :=
  w.references.map .reference ++ if w.signs && w.proves then [.proofOfSigner] else []

/-- The checks that the request is complete. -/
def Workflow.shapeChecks (w : Workflow) : List Check :=
  .document :: if w.proves then [.proofFields] else []

/-- The check of the caller's secret, where there is one. -/
def Workflow.secretChecks (w : Workflow) : List Check :=
  if w.signs then [.secret] else []

/-- The checks of a workflow in order. -/
def Workflow.checks (w : Workflow) : List Check :=
  w.lookupChecks ++ .accept :: w.shapeChecks ++ w.secretChecks

/-- Before its first call, a program refuses a request as the first of the checks that fails. -/
def Checked
    {α : Type}
    (setup : Setup)
    (s : Snapshot)
    (r : Request)
    (checks : List Check)
    (program : Program α) : Prop :=
  program.refusal? s = checks.findSome? (Check.refusal? setup s r)

/-- What a check complains of; nothing if the request passes. -/
def Check.complaint? (setup : Setup) (s : Snapshot) (r : Request) : Check → Option Complaint
  | reference x =>
      match r.get x.field with
      | none => some ⟨.idMissing x.kind, .badRequest⟩
      | some id =>
          if (s.entry? x.kind id).isSome then none else some ⟨.entryUnknown x.kind id, .notFound⟩
  | proofOfSigner =>
      let id := ((Workflow.signer? s r).map (·.proofId)).getD ""
      match (Workflow.signer? s r).bind fun entry => s.proof? entry.proofId with
      | some _ => none
      | none => some ⟨.entryUnknown .proof id, .notFound⟩
  | accept =>
      if Guard.allowsJson r.accept then none else some ⟨.acceptRefused r.accept, .notImplemented⟩
  | document => if r.document.isSome then none else some ⟨.documentMissing, .badRequest⟩
  | proofFields =>
      if (Guard.proofFields? r).isSome then none else some ⟨.proofFieldsMissing, .badRequest⟩
  | secret =>
      match Workflow.signer? s r with
      | some entry =>
          if setup.secretsEnforced &&
              (Secret.verdict Secret.verifier entry.secret r.secret).rejects
          then some ⟨.secretRefused entry.id, .unauthorized⟩
          else none
      | none => none

/-- A check rejects a request as its complaint says. -/
theorem Check.refusal?_eq
    (setup : Setup)
    (s : Snapshot)
    (r : Request)
    (check : Check) :
    check.refusal? setup s r = (check.complaint? setup s r).map (·.rejection) := by
  cases check with
  | reference x =>
      cases named : r.get x.field with
      | none =>
          simp [refusal?, complaint?, Reference.missing, named]
      | some id =>
          cases found : s.entry? x.kind id <;>
            simp [refusal?, complaint?, Reference.missing, Reference.unknown, named, found]
  | secret =>
      cases signer : Workflow.signer? s r with
      | none =>
          simp [refusal?, complaint?, signer]
      | some entry =>
          simp only [refusal?, complaint?, signer, Option.any_some]
          split <;> rfl
  | _ =>
      simp only [refusal?, complaint?]
      split <;> rfl

/-- A program makes the complaint of the first of the checks that fails. -/
def Complains
    {α : Type}
    (setup : Setup)
    (s : Snapshot)
    (r : Request)
    (checks : List Check)
    (program : Program α) : Prop :=
  program.Reported s (checks.findSome? (Check.complaint? setup s r))

/-- The first complaint comes with the first refusal. -/
theorem Complains.checked
    {α : Type}
    {setup : Setup}
    {s : Snapshot}
    {r : Request}
    {checks : List Check}
    {program : Program α}
    (complains : Complains setup s r checks program) :
    Checked setup s r checks program := by
  unfold Checked
  rw [complains.refusal?_eq, List.map_findSome?]
  exact congrArg (checks.findSome? ·) (funext fun check => (check.refusal?_eq setup s r).symm)

namespace Complains

variable
    {α β : Type}
    {setup : Setup}
    {s : Snapshot}
    {r : Request}
    {check : Check}
    {checks : List Check}

/-- A check that fails decides. -/
theorem of_fails
    {program : Program α}
    (complaint : Complaint)
    (fails : check.complaint? setup s r = some complaint)
    (refuses : program.Reported s (some complaint)) :
    Complains setup s r (check :: checks) program := by
  unfold Complains
  rw [List.findSome?_cons, fails]
  exact refuses

/-- A check that passes leaves the complaint to those behind it. -/
theorem of_passes
    {program : Program α}
    (passes : check.complaint? setup s r = none)
    (rest : Complains setup s r checks program) :
    Complains setup s r (check :: checks) program := by
  unfold Complains
  rw [List.findSome?_cons, passes]
  exact rest

/-- Resolving the id of a reference is the check of that reference. -/
theorem resolve_bind
    (x : Reference)
    {lookup : String → Option α}
    {wrap : α → Entry}
    (finds : ∀ id, s.entry? x.kind id = (lookup id).map wrap)
    {next : α → Program β}
    (rest : ∀ entry, (r.get x.field).bind lookup = some entry →
      Complains setup s r checks (next entry)) :
    Complains setup s r (.reference x :: checks)
      (Guard.resolve x.kind (r.get x.field) lookup >>= next) := by
  cases named : r.get x.field with
  | none =>
      refine .of_fails ⟨.idMissing x.kind, .badRequest⟩ ?_ (Program.refuse_bind_reported _ next)
      simp [Check.complaint?, named]
  | some id =>
      cases found : lookup id with
      | none =>
          have unknown : s.entry? x.kind id = none := by
            rw [finds, found]
            rfl
          refine .of_fails ⟨.entryUnknown x.kind id, .notFound⟩ ?_ ?_
          · simp [Check.complaint?, named, unknown]
          · simp only [Guard.resolve, found]
            exact Program.refuse_bind_reported _ next
      | some entry =>
          have known : s.entry? x.kind id = some (wrap entry) := by
            rw [finds, found]
            rfl
          refine .of_passes ?_ ?_
          · simp [Check.complaint?, named, known]
          · simp only [Guard.resolve, found]
            exact rest entry (by rw [named]; exact found)

/-- Looking up the proof of the signer that was found is one more check of the list. -/
theorem resolve_proofOfSigner_bind
    {entry : SigningEntry}
    (signer : Workflow.signer? s r = some entry)
    {next : Config.ProofEntry → Program β}
    (rest : ∀ proofEntry, Complains setup s r checks (next proofEntry)) :
    Complains setup s r (.proofOfSigner :: checks)
      (Guard.resolve .proof (some entry.proofId) s.proof? >>= next) := by
  cases found : s.proof? entry.proofId with
  | none =>
      refine .of_fails ⟨.entryUnknown .proof entry.proofId, .notFound⟩ ?_ ?_
      · simp [Check.complaint?, signer, found]
      · simp only [Guard.resolve, found]
        exact Program.refuse_bind_reported _ next
  | some proofEntry =>
      refine .of_passes ?_ ?_
      · simp [Check.complaint?, signer, found]
      · simp only [Guard.resolve, found]
        exact rest proofEntry

/-- A program that asks first whether JSON is accepted checks that before the rest. -/
theorem acceptJson_bind
    {next : Unit → Program β}
    (rest : Complains setup s r checks (next ())) :
    Complains setup s r (.accept :: checks) (Guard.acceptJson r.accept >>= next) := by
  unfold Guard.acceptJson
  split
  · next allowed =>
      exact .of_passes (by simp [Check.complaint?, allowed]) rest
  · next refused =>
      exact .of_fails ⟨.acceptRefused r.accept, .notImplemented⟩
        (by simp [Check.complaint?, refused]) (Program.refuse_bind_reported _ next)

theorem requireDocument_bind
    {next : List UInt8 → Program β}
    (rest : ∀ bytes, Complains setup s r checks (next bytes)) :
    Complains setup s r (.document :: checks) (Guard.requireDocument r.document >>= next) := by
  cases given : r.document with
  | none =>
      exact .of_fails ⟨.documentMissing, .badRequest⟩
        (by simp [Check.complaint?, given]) (Program.refuse_bind_reported _ next)
  | some bytes =>
      exact .of_passes (by simp [Check.complaint?, given]) (rest bytes)

theorem requireProofFields_bind
    {next : Guard.ProofFields → Program β}
    (rest : ∀ fields, Complains setup s r checks (next fields)) :
    Complains setup s r (.proofFields :: checks) (Guard.requireProofFields r >>= next) := by
  unfold Guard.requireProofFields
  split
  · next fields given =>
      exact .of_passes (by simp [Check.complaint?, given]) (rest fields)
  · next incomplete =>
      exact .of_fails ⟨.proofFieldsMissing, .badRequest⟩
        (by simp [Check.complaint?, incomplete]) (Program.refuse_bind_reported _ next)

/-- The caller's secret is a check, whatever is noted about unusable hashes. -/
theorem checkSecret_bind
    {entry : SigningEntry}
    (signer : Workflow.signer? s r = some entry)
    {next : Unit → Program β}
    (rest : Complains setup s r checks (next ())) :
    Complains setup s r (.secret :: checks)
      (Guard.checkSecret setup.secretsEnforced entry r.secret >>= next) := by
  unfold Guard.checkSecret
  cases enforced : setup.secretsEnforced with
  | false =>
      exact .of_passes (by simp [Check.complaint?, signer, enforced]) rest
  | true =>
      have skips :
          ∀ n ∈ (Secret.verdict Secret.verifier entry.secret r.secret).skipped.map
              fun fault => Journal.Note.event (.hashSkipped fault.message),
            ∃ message, n = .event (.hashSkipped message) := by
        intro n noted
        obtain ⟨fault, -, rfl⟩ := List.mem_map.mp noted
        exact ⟨fault.message, rfl⟩
      cases rejects : (Secret.verdict Secret.verifier entry.secret r.secret).rejects with
      | true =>
          refine .of_fails ⟨.secretRefused entry.id, .unauthorized⟩
            (by simp [Check.complaint?, signer, enforced, rejects]) ?_
          simp only [↓reduceIte, rejects]
          exact Program.sayAll_bind_bind_reported skips (Program.refuse_bind_reported _ next)
      | false =>
          refine .of_passes (by simp [Check.complaint?, signer, enforced, rejects]) ?_
          simp only [↓reduceIte, rejects]
          exact Program.sayAll_bind_bind_reported skips rest

/-- Behind the checks, a certificate that is let pass is nothing to complain of. -/
theorem checkCertificate_bind
    {parameters : Config.SigningParameters}
    {next : Unit → Program β}
    (rest : Complains setup s r [] (next ())) :
    Complains setup s r [] (Guard.checkCertificate parameters >>= next) := by
  refine ⟨rfl, fun status => ?_⟩
  cases status with
  | proceed =>
      exact rest
  | reject rejection =>
      exact Program.refuse_bind_reported _ next

/-- The other calls may be answered with anything. -/
theorem call_bind
    {call : Call}
    {next : call.Answer → Program β}
    (fine : ∀ answer, Attempt.complaint? ⟨call, .answered answer⟩ = none)
    (rest : ∀ answer, Complains setup s r [] (next answer)) :
    Complains setup s r [] (Program.call call >>= next) :=
  Program.call_bind_reported fine rest

/--
A call whose answers are all fine has nothing to check and nothing to complain of but its failure.
-/
theorem call
    {call : Call}
    (fine : ∀ answer, Attempt.complaint? ⟨call, .answered answer⟩ = none) :
    Complains setup s r [] (Program.call call) :=
  ⟨rfl, fine⟩

theorem done
    (value : α) :
    Complains setup s r [] (.done value) :=
  rfl

end Complains

namespace Workflow

/-! Each workflow goes through the guards in the order of its checks. -/

variable
    {setup : Setup}
    {s : Snapshot}
    {r : Request}

/-- Signing a proof complains only of failed calls. -/
theorem signProof_bind_complains
    {α : Type}
    (profile : Profile)
    (proof : String)
    (parameters : Config.SigningParameters)
    {next : String → Program α}
    (rest : ∀ signedProof, Complains setup s r [] (next signedProof)) :
    Complains setup s r [] (signProof profile proof parameters >>= next) := by
  have signs : Complains setup s r [] (signProof profile proof parameters) := by
    apply Complains.checkCertificate_bind
    refine Complains.call_bind (fun _ => rfl) fun signed => ?_
    exact .done _
  exact Program.Reported.bind signs rest

theorem validateCertificateDocument_bind_complains
    {α : Type}
    (document : List UInt8)
    (parameters : Config.ValidationParameters)
    {next : ValidationReport → Program α}
    (rest : ∀ validation, Complains setup s r [] (next validation)) :
    Complains setup s r [] (validateCertificateDocument document parameters >>= next) := by
  have validates : Complains setup s r [] (validateCertificateDocument document parameters) := by
    by_cases binary : Text.isBinary document = true
    · simp only [validateCertificateDocument, binary, ↓reduceIte]
      exact .call fun _ => rfl
    · simp only [validateCertificateDocument, binary, Bool.false_eq_true, ↓reduceIte]
      exact .call_bind (fun _ => rfl) fun text => .call fun _ => rfl
  exact Program.Reported.bind validates rest

/-- Signing checks what its list of checks says, in that order. -/
theorem runSign_complains
    (profile : Profile) :
    Complains setup s r (sign profile).checks (runSign setup r profile) := by
  refine Complains.resolve_bind ⟨.signingId, .signature⟩ (fun _ => rfl) ?_
  intro entry signer
  apply Complains.acceptJson_bind
  apply Complains.requireDocument_bind
  intro document
  apply Complains.checkSecret_bind signer
  apply Complains.checkCertificate_bind
  refine Complains.call_bind (fun _ => rfl) fun signed => ?_
  exact .done _

theorem runSignWithProof_complains
    (profile : Profile) :
    Complains setup s r (signWithProof profile).checks (runSignWithProof setup r profile) := by
  refine Complains.resolve_bind ⟨.signingId, .signature⟩ (fun _ => rfl) ?_
  intro entry signer
  refine Complains.resolve_bind ⟨.signatureVerificationId, .signatureVerification⟩
    (fun _ => rfl) ?_
  intro verification _
  apply Complains.resolve_proofOfSigner_bind signer
  intro proofEntry
  apply Complains.acceptJson_bind
  apply Complains.requireDocument_bind
  intro document
  apply Complains.requireProofFields_bind
  intro fields
  apply Complains.checkSecret_bind signer
  apply Complains.checkCertificate_bind
  refine Complains.call_bind (fun _ => rfl) fun signed => ?_
  refine Complains.call_bind (fun _ => rfl) fun validation => ?_
  refine Complains.call_bind (fun _ => rfl) fun proof => ?_
  apply signProof_bind_complains
  intro signedProof
  exact .done _

theorem runValidate_complains
    (profile : Profile) :
    Complains setup s r (validate profile).checks (runValidate r profile) := by
  refine Complains.resolve_bind ⟨.signatureVerificationId, .signatureVerification⟩
    (fun _ => rfl) ?_
  intro entry _
  apply Complains.acceptJson_bind
  apply Complains.requireDocument_bind
  intro document
  refine Complains.call_bind (fun _ => rfl) fun text => ?_
  refine Complains.call_bind (fun _ => rfl) fun validation => ?_
  exact .done _

theorem runValidateWithProof_complains
    (profile : Profile) :
    Complains setup s r (validateWithProof profile).checks
      (runValidateWithProof setup r profile) := by
  refine Complains.resolve_bind ⟨.signatureVerificationId, .signatureVerification⟩
    (fun _ => rfl) ?_
  intro entry _
  refine Complains.resolve_bind ⟨.proofId, .proof⟩ (fun _ => rfl) ?_
  intro proofEntry _
  apply Complains.acceptJson_bind
  apply Complains.requireDocument_bind
  intro document
  apply Complains.requireProofFields_bind
  intro fields
  refine Complains.call_bind (fun _ => rfl) fun text => ?_
  refine Complains.call_bind (fun _ => rfl) fun validation => ?_
  refine Complains.call_bind (fun _ => rfl) fun proof => ?_
  apply signProof_bind_complains
  intro signedProof
  exact .done _

theorem runValidateCertificate_complains :
    Complains setup s r validateCertificate.checks (runValidateCertificate r) := by
  refine Complains.resolve_bind ⟨.certificateVerificationId, .certificateVerification⟩
    (fun _ => rfl) ?_
  intro entry _
  apply Complains.acceptJson_bind
  apply Complains.requireDocument_bind
  intro document
  apply validateCertificateDocument_bind_complains
  intro validation
  exact .done _

theorem runValidateCertificateWithProof_complains :
    Complains setup s r validateCertificateWithProof.checks
      (runValidateCertificateWithProof setup r) := by
  refine Complains.resolve_bind ⟨.certificateVerificationId, .certificateVerification⟩
    (fun _ => rfl) ?_
  intro entry _
  refine Complains.resolve_bind ⟨.proofId, .proof⟩ (fun _ => rfl) ?_
  intro proofEntry _
  apply Complains.acceptJson_bind
  apply Complains.requireDocument_bind
  intro document
  apply Complains.requireProofFields_bind
  intro fields
  apply validateCertificateDocument_bind_complains
  intro validation
  refine Complains.call_bind (fun _ => rfl) fun proof => ?_
  apply signProof_bind_complains
  intro signedProof
  exact .done _

/-- Every workflow makes the complaint of the first check that fails, or goes on to its calls. -/
theorem steps_complains
    (setup : Setup)
    (s : Snapshot)
    (w : Workflow)
    (r : Request) :
    Complains setup s r w.checks (w.steps setup r) := by
  cases w with
  | sign profile =>
      exact runSign_complains profile
  | signWithProof profile =>
      exact runSignWithProof_complains profile
  | validate profile =>
      exact runValidate_complains profile
  | validateWithProof profile =>
      exact runValidateWithProof_complains profile
  | validateCertificate =>
      exact runValidateCertificate_complains
  | validateCertificateWithProof =>
      exact runValidateCertificateWithProof_complains

/-- Every workflow goes through its checks in order before its first call. -/
theorem program_checked
    (setup : Setup)
    (s : Snapshot)
    (w : Workflow)
    (r : Request) :
    Checked setup s r w.checks (w.program setup r) := by
  have stepsChecked : Checked setup s r w.checks (w.steps setup r) :=
    (steps_complains setup s w r).checked
  unfold Checked
  rw [← stepsChecked]
  -- What is left after the steps is to note the completion, which refuses nothing.
  exact Program.refusal?_bind_of_none (fun _ => rfl) (w.steps setup r)

end Workflow

end Notary
