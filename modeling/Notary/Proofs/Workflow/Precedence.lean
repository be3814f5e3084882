import Notary.Proofs.Workflow.Checks

namespace Notary

/-!
# Which defect of a request decides

A request may have several defects at once. If it names every configuration that its
workflow needs, one order of precedence decides how it is rejected: an absent
configuration comes before what the caller accepts, that before an incomplete
request, and that before a secret that does not match.
-/

open Config (Snapshot)

namespace Workflow

/-- Some configuration that a workflow looks up is not named, or absent. -/
def LacksConfiguration (w : Workflow) (s : Snapshot) (r : Request) : Prop :=
  (∃ x ∈ w.references, (r.get x.field).bind (s.entry? x.kind) = none) ∨
    (w.signs = true ∧ w.proves = true ∧ w.proofSigner? s r = none)

/-- The document is absent, or one of the fields that a proof is about. -/
def Incomplete (w : Workflow) (r : Request) : Prop :=
  r.document = none ∨
    (w.proves = true ∧
      ∃ field ∈ [Field.requestId, .proofTag, .applicantId], r.get field = none)

/-- Secrets are enforced and the one of the signing configuration is not matched. -/
def SecretRefused (setup : Setup) (w : Workflow) (s : Snapshot) (r : Request) : Prop :=
  w.signs = true ∧ setup.secretsEnforced = true ∧
    ∃ entry, signer? s r = some entry ∧
      (Secret.verdict Secret.verifier entry.secret r.secret).rejects = true

end Workflow

/-- Nothing that the caller accepts contains the media type of the answers. -/
def Request.RefusesJson (r : Request) : Prop :=
  ∀ accepted, r.accept = some accepted →
    ¬ Guard.jsonMediaType.toList <:+: accepted.toList

/-- A caller refuses JSON exactly when the guard does not find it accepted. -/
theorem Request.refusesJson_iff
    (r : Request) :
    r.RefusesJson ↔ Guard.allowsJson r.accept = false := by
  cases accepted : r.accept with
  | none =>
      simp [RefusesJson, accepted, Guard.allowsJson]
  | some value =>
      simp [RefusesJson, accepted, Guard.allowsJson, ← Text.occurs_iff]

instance (r : Request) : Decidable r.RefusesJson :=
  decidable_of_iff _ r.refusesJson_iff.symm

/-- Some checks fail with one rejection exactly when a request has a certain defect. -/
structure Detects
    (setup : Setup)
    (s : Snapshot)
    (r : Request)
    (checks : List Check)
    (defect : Prop)
    (rejection : Rejection) : Prop where
  fails : defect → checks.findSome? (Check.refusal? setup s r) = some rejection
  passes : ¬ defect → checks.findSome? (Check.refusal? setup s r) = none

namespace Detects

variable
    {setup : Setup}
    {s : Snapshot}
    {r : Request}
    {checks later : List Check}
    {first second : Prop}
    {rejection : Rejection}

theorem nil :
    Detects setup s r [] False rejection :=
  ⟨False.elim, fun _ => rfl⟩

/-- One check detects the condition it decides. -/
theorem single
    {check : Check}
    (failing : Bool)
    (decides : check.refusal? setup s r = if failing then some rejection else none) :
    Detects setup s r [check] (failing = true) rejection where
  fails failed := by
    rw [List.findSome?_singleton, decides, failed]
    rfl
  passes passed := by
    rw [List.findSome?_singleton, decides, Bool.eq_false_iff.mpr passed]
    rfl

/-- Checks that fail with the same rejection, one after another. -/
theorem append
    (left : Detects setup s r checks first rejection)
    (right : Detects setup s r later second rejection) :
    Detects setup s r (checks ++ later) (first ∨ second) rejection where
  fails failed := by
    rw [List.findSome?_append]
    by_cases failedFirst : first
    · rw [left.fails failedFirst]
      rfl
    · rw [left.passes failedFirst, right.fails (failed.resolve_left failedFirst)]
      rfl
  passes passed := by
    rw [not_or] at passed
    rw [List.findSome?_append, left.passes passed.1, right.passes passed.2]
    rfl

theorem congr
    (detects : Detects setup s r checks first rejection)
    (same : first ↔ second) :
    Detects setup s r checks second rejection :=
  propext same ▸ detects

/-- Checks that only some workflows make. -/
theorem guarded
    (detects : Detects setup s r checks first rejection)
    (made : Bool) :
    Detects setup s r (if made then checks else []) (made = true ∧ first) rejection := by
  cases made with
  | true =>
      exact detects.congr (by simp)
  | false =>
      exact nil.congr (by simp)

/-- A reference whose id is given fails exactly when nothing is found. -/
theorem reference
    {x : Reference}
    (named : x.missing r = false) :
    Detects setup s r [.reference x] ((r.get x.field).bind (s.entry? x.kind) = none)
      .notFound := by
  have decides :
      (Check.reference x).refusal? setup s r =
        if x.unknown s r then some .notFound else none := by
    simp only [Check.refusal?, named, Bool.false_eq_true, ↓reduceIte]
  refine (single _ decides).congr ?_
  unfold Reference.missing at named
  cases id : r.get x.field with
  | none =>
      simp [id] at named
  | some value =>
      simp [Reference.unknown, id]

/-- References whose ids are all given fail exactly when nothing is found for one of them. -/
theorem references
    {xs : List Reference}
    (named : ∀ x ∈ xs, x.missing r = false) :
    Detects setup s r (xs.map .reference)
      (∃ x ∈ xs, (r.get x.field).bind (s.entry? x.kind) = none) .notFound := by
  induction xs with
  | nil =>
      exact nil.congr (by simp)
  | cons x rest inductionHypothesis =>
      have namedRest := inductionHypothesis fun y member => named y (List.mem_cons_of_mem x member)
      exact ((reference (named x List.mem_cons_self)).append namedRest).congr
        (by simp only [List.exists_mem_cons_iff])

end Detects

namespace Workflow

variable
    {w : Workflow}
    {setup : Setup}
    {s : Snapshot}
    {r : Request}

/-- The proof configuration of signing is looked up through the signing configuration. -/
theorem proofSigner?_of_signs
    (signs : w.signs = true)
    (proves : w.proves = true) :
    w.proofSigner? s r = (signer? s r).bind fun entry => s.proof? entry.proofId := by
  cases w with
  | signWithProof profile =>
      rfl
  | sign profile =>
      cases proves
  | _ =>
      cases signs

/-- If all ids are given, the look-ups fail exactly when a configuration is absent. -/
theorem lookupChecks_detect
    (named : ∀ x ∈ w.references, x.missing r = false) :
    Detects setup s r w.lookupChecks (w.LacksConfiguration s r) .notFound := by
  have referred :
      Detects setup s r [.proofOfSigner]
        (((signer? s r).bind fun entry => s.proof? entry.proofId).isNone = true) .notFound := by
    refine .single _ ?_
    unfold Check.refusal?
    cases (signer? s r).bind fun entry => s.proof? entry.proofId <;> rfl
  refine ((Detects.references named).append (referred.guarded (w.signs && w.proves))).congr
    (or_congr_right ?_)
  rw [Bool.and_eq_true, and_assoc, Option.isNone_iff_eq_none]
  refine and_congr_right fun signs => and_congr_right fun proves => ?_
  rw [proofSigner?_of_signs signs proves]

theorem acceptCheck_detects :
    Detects setup s r [.accept] r.RefusesJson .notImplemented := by
  refine (Detects.single (!Guard.allowsJson r.accept) ?_).congr ?_
  · unfold Check.refusal?
    cases Guard.allowsJson r.accept <;> rfl
  · rw [Bool.not_eq_true', r.refusesJson_iff]

/-- The proof fields are there unless one of them is absent. -/
theorem proofFields?_eq_none_iff
    (r : Request) :
    Guard.proofFields? r = none ↔
      ∃ field ∈ [Field.requestId, .proofTag, .applicantId], r.get field = none := by
  unfold Guard.proofFields? Request.get
  cases r.requestId <;> cases r.proofTag <;> cases r.applicantId <;> simp

/-- The shape fails exactly when the request is incomplete. -/
theorem shapeChecks_detect :
    Detects setup s r w.shapeChecks (w.Incomplete r) .badRequest := by
  have document : Detects setup s r [.document] (r.document.isNone = true) .badRequest := by
    refine .single _ ?_
    unfold Check.refusal?
    cases r.document <;> rfl
  have fields :
      Detects setup s r [.proofFields] ((Guard.proofFields? r).isNone = true) .badRequest := by
    refine .single _ ?_
    unfold Check.refusal?
    cases Guard.proofFields? r <;> rfl
  refine (document.append (fields.guarded w.proves)).congr ?_
  rw [Option.isNone_iff_eq_none, Option.isNone_iff_eq_none, proofFields?_eq_none_iff]
  rfl

/-- The last check fails exactly when the secret is refused. -/
theorem secretChecks_detect :
    Detects setup s r w.secretChecks (SecretRefused setup w s r) .unauthorized := by
  have secret :
      Detects setup s r [.secret]
        ((setup.secretsEnforced &&
          (signer? s r).any fun entry =>
            (Secret.verdict Secret.verifier entry.secret r.secret).rejects) = true)
        .unauthorized :=
    .single _ rfl
  refine (secret.guarded w.signs).congr (and_congr_right fun _ => ?_)
  rw [Bool.and_eq_true, Option.any_eq_true]

/-- How the checks of a workflow reject a request; nothing if the request passes them all. -/
def refusal? (setup : Setup) (s : Snapshot) (w : Workflow) (r : Request) : Option Rejection :=
  w.checks.findSome? (Check.refusal? setup s r)

-- The groups are those of the precedence: look-ups, media type, shape, secret.
/--
The refusal of a workflow is the first of those of its look-ups, of the accept check, of the shape
of the request and of the secret.
-/
theorem refusal?_eq_or
    (setup : Setup)
    (s : Snapshot)
    (w : Workflow)
    (r : Request) :
    refusal? setup s w r =
      (w.lookupChecks.findSome? (Check.refusal? setup s r)).or
        (([Check.accept].findSome? (Check.refusal? setup s r)).or
          ((w.shapeChecks.findSome? (Check.refusal? setup s r)).or
            (w.secretChecks.findSome? (Check.refusal? setup s r)))) := by
  rw [← List.findSome?_append, ← List.findSome?_append, ← List.findSome?_append]
  simp [refusal?, checks]

/-- If all ids are given, an absent configuration decides whatever else is wrong. -/
theorem refusal?_of_lacksConfiguration
    (named : ∀ x ∈ w.references, x.missing r = false)
    (lacks : w.LacksConfiguration s r) :
    refusal? setup s w r = some .notFound := by
  rw [refusal?_eq_or, (lookupChecks_detect named).fails lacks]
  rfl

/-- Where every id is there and leads to an entry, a request that refuses JSON is told so. -/
theorem refusal?_of_refusesJson
    (named : ∀ x ∈ w.references, x.missing r = false)
    (found : ¬ w.LacksConfiguration s r)
    (refuses : r.RefusesJson) :
    refusal? setup s w r = some .notImplemented := by
  rw [refusal?_eq_or, (lookupChecks_detect named).passes found,
    acceptCheck_detects.fails refuses]
  rfl

/-- After the accept check it is the incomplete request that is told of. -/
theorem refusal?_of_incomplete
    (named : ∀ x ∈ w.references, x.missing r = false)
    (found : ¬ w.LacksConfiguration s r)
    (accepts : ¬ r.RefusesJson)
    (incomplete : w.Incomplete r) :
    refusal? setup s w r = some .badRequest := by
  rw [refusal?_eq_or, (lookupChecks_detect named).passes found,
    acceptCheck_detects.passes accepts, shapeChecks_detect.fails incomplete]
  rfl

/-- The secret is compared last. -/
theorem refusal?_of_secretRefused
    (named : ∀ x ∈ w.references, x.missing r = false)
    (found : ¬ w.LacksConfiguration s r)
    (accepts : ¬ r.RefusesJson)
    (complete : ¬ w.Incomplete r)
    (refused : SecretRefused setup w s r) :
    refusal? setup s w r = some .unauthorized := by
  rw [refusal?_eq_or, (lookupChecks_detect named).passes found,
    acceptCheck_detects.passes accepts, shapeChecks_detect.passes complete,
    secretChecks_detect.fails refused]
  rfl

/-- A request is let through if nothing of all this is the case. -/
theorem refusal?_eq_none
    (named : ∀ x ∈ w.references, x.missing r = false)
    (found : ¬ w.LacksConfiguration s r)
    (accepts : ¬ r.RefusesJson)
    (complete : ¬ w.Incomplete r)
    (matched : ¬ SecretRefused setup w s r) :
    refusal? setup s w r = none := by
  rw [refusal?_eq_or, (lookupChecks_detect named).passes found,
    acceptCheck_detects.passes accepts, shapeChecks_detect.passes complete,
    secretChecks_detect.passes matched]
  rfl

/-- If all ids are given, a request is refused exactly for one of the defects. -/
theorem refusal?_isSome_iff
    (named : ∀ x ∈ w.references, x.missing r = false) :
    (refusal? setup s w r).isSome = true ↔
      w.LacksConfiguration s r ∨ r.RefusesJson ∨ w.Incomplete r ∨ SecretRefused setup w s r := by
  by_cases lacks : w.LacksConfiguration s r
  · simp [refusal?_of_lacksConfiguration named lacks, lacks]
  by_cases refuses : r.RefusesJson
  · simp [refusal?_of_refusesJson named lacks refuses, refuses]
  by_cases incomplete : w.Incomplete r
  · simp [refusal?_of_incomplete named lacks refuses incomplete, incomplete]
  by_cases refused : SecretRefused setup w s r
  · simp [refusal?_of_secretRefused named lacks refuses incomplete refused, refused]
  · simp [refusal?_eq_none named lacks refuses incomplete refused, lacks, refuses, incomplete,
      refused]

/-- A check does not look into the document, only at whether there is one. -/
theorem check_refusal?_other_document
    (setup : Setup)
    (s : Snapshot)
    {bytes : List UInt8}
    (given : r.document = some bytes)
    (other : List UInt8)
    (check : Check) :
    check.refusal? setup s { r with document := some other } = check.refusal? setup s r := by
  have get (field : Field) : { r with document := some other }.get field = r.get field := by
    cases field <;> rfl
  cases check with
  | reference x =>
      have missing : x.missing { r with document := some other } = x.missing r := by
        rw [Reference.missing, get, Reference.missing]
      have unknown : x.unknown s { r with document := some other } = x.unknown s r := by
        rw [Reference.unknown, get, Reference.unknown]
      simp only [Check.refusal?, missing, unknown]
  | document =>
      simp [Check.refusal?, given]
  | _ =>
      rfl

/-- What is in a document has no influence on how the checks reject a request. -/
theorem refusal?_other_document
    {bytes : List UInt8}
    (given : r.document = some bytes)
    (other : List UInt8) :
    refusal? setup s w { r with document := some other } = refusal? setup s w r := by
  have same := funext (check_refusal?_other_document setup s given other)
  unfold refusal?
  rw [same]

variable
    {engine : Engine}
    {rejection : Rejection}

/-- A request that the checks reject ends so against every engine, without a call. -/
theorem run_of_refusal?
    (refuses : refusal? setup s w r = some rejection)
    (engine : Engine)
    (history : List Call) :
    ((w.program setup r).runOn s engine history).calls = [] ∧
      ((w.program setup r).runOn s engine history).ending = .rejected rejection :=
  Program.runOn_of_refusal? ((program_checked setup s w r).trans refuses) engine history

/-- A workflow leaves the engine alone exactly on the requests that its checks reject. -/
theorem uncalled_iff_refusal?
    (detects : engine.DetectsByDefault)
    (history : List Call)
    (setup : Setup)
    (s : Snapshot)
    (w : Workflow)
    (r : Request) :
    ((w.program setup r).runOn s engine history).Uncalled ↔
      (refusal? setup s w r).isSome = true := by
  constructor
  · intro uncalled
    obtain ⟨next, reads, guarded⟩ := program_readsFirst setup w r
    have checked : (w.program setup r).refusal? s = refusal? setup s w r :=
      program_checked setup s w r
    -- After the read the rest is guarded. If it came to no refusal, it would call.
    rw [reads] at checked uncalled
    rw [Option.isSome_iff_ne_none]
    intro accepts
    exact (guarded s).not_uncalled_of_refusal?_none detects w.plan_ne_nil
      (checked.trans accepts) history uncalled
  · intro refuses
    obtain ⟨rejection, refuses⟩ := Option.isSome_iff_exists.mp refuses
    intro call member
    rw [(run_of_refusal? refuses engine history).1] at member
    cases member

end Workflow

/-- A run that is rejected before its first call. -/
def Run.RejectedAtOnce {α : Type} (run : Run α) (rejection : Rejection) : Prop :=
  run.calls = [] ∧ run.ending = .rejected rejection

/-- How a workflow deals with the defects of a request before it turns to the engine. -/
structure GuardStage
    (setup : Setup)
    (s : Snapshot)
    (w : Workflow)
    (r : Request)
    (run : Request → Run WorkflowReport) : Prop where
  /-- The engine is left alone exactly if there is a defect. -/
  uncalled_iff :
    (run r).Uncalled ↔
      w.LacksConfiguration s r ∨ r.RefusesJson ∨ w.Incomplete r ∨ w.SecretRefused setup s r
  /-- An absent configuration comes before everything else. -/
  notFound : w.LacksConfiguration s r → (run r).RejectedAtOnce .notFound
  /-- Then comes what the caller accepts. -/
  notImplemented :
    ¬ w.LacksConfiguration s r → r.RefusesJson → (run r).RejectedAtOnce .notImplemented
  /-- Then comes what the request lacks. -/
  badRequest :
    ¬ w.LacksConfiguration s r → ¬ r.RefusesJson → w.Incomplete r →
      (run r).RejectedAtOnce .badRequest
  /-- Last comes the secret. -/
  unauthorized :
    ¬ w.LacksConfiguration s r → ¬ r.RefusesJson → ¬ w.Incomplete r →
      w.SecretRefused setup s r → (run r).RejectedAtOnce .unauthorized
  /-- With another document in place of the one given, the request is rejected alike. -/
  document :
    ∀ bytes other, r.document = some bytes →
      ((run { r with document := some other }).Uncalled ↔ (run r).Uncalled) ∧
        ((run r).Uncalled → (run { r with document := some other }).ending = (run r).ending)

/--
If a request names every configuration that its workflow needs, then whatever snapshot
is published, and against every engine that leaves decoding to the default detector,
the defects of the request decide in order of precedence.
-/
theorem Workflow.run_guardStage
    {engine : Engine}
    (detects : engine.DetectsByDefault)
    (history : List Call)
    (setup : Setup)
    (s : Snapshot)
    (w : Workflow)
    (r : Request)
    (named : ∀ x ∈ w.references, x.missing r = false) :
    GuardStage setup s w r fun request =>
      (w.program setup request).runOn s engine history where
  uncalled_iff := by
    rw [uncalled_iff_refusal? detects, refusal?_isSome_iff named]
  notFound lacks :=
    run_of_refusal? (refusal?_of_lacksConfiguration named lacks) engine history
  notImplemented found refuses :=
    run_of_refusal? (refusal?_of_refusesJson named found refuses) engine history
  badRequest found accepts incomplete :=
    run_of_refusal? (refusal?_of_incomplete named found accepts incomplete) engine history
  unauthorized found accepts complete refused :=
    run_of_refusal? (refusal?_of_secretRefused named found accepts complete refused) engine
      history
  document bytes other given := by
    have same : refusal? setup s w { r with document := some other } = refusal? setup s w r :=
      refusal?_other_document given other
    rw [uncalled_iff_refusal? detects, uncalled_iff_refusal? detects, same]
    refine ⟨Iff.rfl, fun refuses => ?_⟩
    obtain ⟨rejection, refuses⟩ := Option.isSome_iff_exists.mp refuses
    rw [(run_of_refusal? refuses engine history).2,
      (run_of_refusal? (same.trans refuses) engine history).2]

namespace Rehearsal

/-- A request of a caller that wants something else, without document and proof fields. -/
def defective : Request :=
  { request with accept := some "text/html", document := none, proofTag := none }

/-- Signing the document of a request with proof. -/
def guardedRun (r : Request) : Run WorkflowReport :=
  ((Workflow.signWithProof .xades).program setup r).runOn snapshot engine []

end Rehearsal

/-- A caller that does not accept JSON is told so, whatever else its request lacks. -/
theorem Workflow.run_guardStage_refusing_json :
    Rehearsal.engine.DetectsByDefault ∧
      (∀ x ∈ (signWithProof .xades).references, x.missing Rehearsal.defective = false) ∧
      GuardStage Rehearsal.setup Rehearsal.snapshot (.signWithProof .xades) Rehearsal.defective
        Rehearsal.guardedRun ∧
      (Rehearsal.guardedRun Rehearsal.defective).ending = .rejected .notImplemented :=
  have detects : Rehearsal.engine.DetectsByDefault := fun _ _ => rfl
  have named :
      ∀ x ∈ (signWithProof .xades).references, x.missing Rehearsal.defective = false := by
    decide
  ⟨detects, named, run_guardStage detects [] _ _ _ _ named, by decide +kernel⟩

end Notary
