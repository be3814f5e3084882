import Notary.Proofs.Program.Counting
import Notary.Workflow.Plan

namespace Notary

/-!
# What workflows count

Guards and workflows note events and count nothing. So a run of a workflow counts one
failure for each call that failed, and nothing else.
-/

open Config (SigningEntry SigningParameters ValidationParameters)

namespace Guard

variable
    {α : Type}

/-- Looking an entry up counts nothing, whether it is found or not. -/
theorem resolve_countsNothing
    (kind : Config.Kind)
    (id : Option String)
    (lookup : String → Option α) :
    (resolve kind id lookup).CountsNothing := by
  cases id with
  | none =>
      exact Program.refuse_countsNothing _ _
  | some id =>
      cases found : lookup id with
      | none =>
          simp only [resolve, found]
          exact Program.refuse_countsNothing _ _
      | some entry =>
          simp only [resolve, found]
          trivial

/-- To refuse a request for what it accepts counts nothing. -/
theorem acceptJson_countsNothing
    (accept : Option String) :
    (acceptJson accept).CountsNothing := by
  unfold acceptJson
  split
  · trivial
  · exact Program.refuse_countsNothing _ _

/-- To refuse a request without a document counts nothing. -/
theorem requireDocument_countsNothing
    (document : Option (List UInt8)) :
    (requireDocument document).CountsNothing := by
  cases document with
  | none =>
      exact Program.refuse_countsNothing _ _
  | some bytes =>
      trivial

/-- To refuse a request without the fields of a proof counts nothing. -/
theorem requireProofFields_countsNothing
    (r : Request) :
    (requireProofFields r).CountsNothing := by
  unfold requireProofFields
  split
  · trivial
  · exact Program.refuse_countsNothing _ _

/-- Holding secrets against hashes counts nothing; hashes that are skipped are logged only. -/
theorem checkSecret_countsNothing
    (enforced : Bool)
    (entry : SigningEntry)
    (candidate : Option String) :
    (checkSecret enforced entry candidate).CountsNothing := by
  unfold checkSecret
  split
  · refine Program.CountsNothing.bind (Program.sayAll_countsNothing ?_) fun _ => ?_
    · intro n noted
      obtain ⟨fault, _, rfl⟩ := List.mem_map.mp noted
      rfl
    · split
      · exact Program.refuse_countsNothing _ _
      · trivial
  · trivial

/-- The check of a certificate is left to the engine, and its verdict is not counted. -/
theorem checkCertificate_countsNothing
    (parameters : SigningParameters) :
    (checkCertificate parameters).CountsNothing := by
  intro status
  cases status with
  | proceed =>
      trivial
  | reject rejection =>
      exact Program.refuse_countsNothing _ _

end Guard

namespace Workflow

variable
    {setup : Setup}
    {r : Request}

/-- Signing a proof counts nothing beside what the engine counts. -/
theorem signProof_countsNothing
    (profile : Profile)
    (proof : String)
    (parameters : SigningParameters) :
    (signProof profile proof parameters).CountsNothing :=
  (Guard.checkCertificate_countsNothing parameters).bind fun _ =>
    Program.call_bind_countsNothing fun _ => trivial

/-- Validating a certificate counts nothing, whether it looks binary or not. -/
theorem validateCertificateDocument_countsNothing
    (document : List UInt8)
    (parameters : ValidationParameters) :
    (validateCertificateDocument document parameters).CountsNothing := by
  cases binary : Text.isBinary document with
  | true =>
      simp only [validateCertificateDocument, binary, ↓reduceIte]
      exact fun _ => trivial
  | false =>
      simp only [validateCertificateDocument, binary, Bool.false_eq_true, ↓reduceIte]
      exact fun _ _ => trivial

/-- Each workflow is put together from guards and calls, so it counts nothing itself. -/
theorem runSign_countsNothing
    (profile : Profile) :
    (runSign setup r profile).CountsNothing := by
  intro s
  refine (Guard.resolve_countsNothing _ _ _).bind fun entry => ?_
  refine (Guard.acceptJson_countsNothing _).bind fun _ => ?_
  refine (Guard.requireDocument_countsNothing _).bind fun document => ?_
  refine (Guard.checkSecret_countsNothing _ _ _).bind fun _ => ?_
  refine (Guard.checkCertificate_countsNothing _).bind fun _ => ?_
  exact Program.call_bind_countsNothing fun _ => trivial

theorem runSignWithProof_countsNothing
    (profile : Profile) :
    (runSignWithProof setup r profile).CountsNothing := by
  intro s
  refine (Guard.resolve_countsNothing _ _ _).bind fun entry => ?_
  refine (Guard.resolve_countsNothing _ _ _).bind fun verification => ?_
  refine (Guard.resolve_countsNothing _ _ _).bind fun proofEntry => ?_
  refine (Guard.acceptJson_countsNothing _).bind fun _ => ?_
  refine (Guard.requireDocument_countsNothing _).bind fun document => ?_
  refine (Guard.requireProofFields_countsNothing _).bind fun fields => ?_
  refine (Guard.checkSecret_countsNothing _ _ _).bind fun _ => ?_
  refine (Guard.checkCertificate_countsNothing _).bind fun _ => ?_
  refine Program.call_bind_countsNothing fun signed => ?_
  refine Program.call_bind_countsNothing fun validation => ?_
  refine Program.call_bind_countsNothing fun proof => ?_
  exact (signProof_countsNothing _ _ _).bind fun _ => trivial

theorem runValidate_countsNothing
    (profile : Profile) :
    (runValidate r profile).CountsNothing := by
  intro s
  refine (Guard.resolve_countsNothing _ _ _).bind fun entry => ?_
  refine (Guard.acceptJson_countsNothing _).bind fun _ => ?_
  refine (Guard.requireDocument_countsNothing _).bind fun document => ?_
  refine Program.call_bind_countsNothing fun text => ?_
  exact Program.call_bind_countsNothing fun _ => trivial

theorem runValidateWithProof_countsNothing
    (profile : Profile) :
    (runValidateWithProof setup r profile).CountsNothing := by
  intro s
  refine (Guard.resolve_countsNothing _ _ _).bind fun entry => ?_
  refine (Guard.resolve_countsNothing _ _ _).bind fun proofEntry => ?_
  refine (Guard.acceptJson_countsNothing _).bind fun _ => ?_
  refine (Guard.requireDocument_countsNothing _).bind fun document => ?_
  refine (Guard.requireProofFields_countsNothing _).bind fun fields => ?_
  refine Program.call_bind_countsNothing fun text => ?_
  refine Program.call_bind_countsNothing fun validation => ?_
  refine Program.call_bind_countsNothing fun proof => ?_
  exact (signProof_countsNothing _ _ _).bind fun _ => trivial

theorem runValidateCertificate_countsNothing :
    (runValidateCertificate r).CountsNothing := by
  intro s
  refine (Guard.resolve_countsNothing _ _ _).bind fun entry => ?_
  refine (Guard.acceptJson_countsNothing _).bind fun _ => ?_
  refine (Guard.requireDocument_countsNothing _).bind fun document => ?_
  exact (validateCertificateDocument_countsNothing _ _).bind fun _ => trivial

theorem runValidateCertificateWithProof_countsNothing :
    (runValidateCertificateWithProof setup r).CountsNothing := by
  intro s
  refine (Guard.resolve_countsNothing _ _ _).bind fun entry => ?_
  refine (Guard.resolve_countsNothing _ _ _).bind fun proofEntry => ?_
  refine (Guard.acceptJson_countsNothing _).bind fun _ => ?_
  refine (Guard.requireDocument_countsNothing _).bind fun document => ?_
  refine (Guard.requireProofFields_countsNothing _).bind fun fields => ?_
  refine (validateCertificateDocument_countsNothing _ _).bind fun validation => ?_
  refine Program.call_bind_countsNothing fun proof => ?_
  exact (signProof_countsNothing _ _ _).bind fun _ => trivial

/-- No workflow counts anything itself, from the look at the snapshot to the report. -/
theorem program_countsNothing
    (setup : Setup)
    (w : Workflow)
    (r : Request) :
    (w.program setup r).CountsNothing := by
  have steps : (w.steps setup r).CountsNothing := by
    cases w with
    | sign profile =>
        exact runSign_countsNothing profile
    | signWithProof profile =>
        exact runSignWithProof_countsNothing profile
    | validate profile =>
        exact runValidate_countsNothing profile
    | validateWithProof profile =>
        exact runValidateWithProof_countsNothing profile
    | validateCertificate =>
        exact runValidateCertificate_countsNothing
    | validateCertificateWithProof =>
        exact runValidateCertificateWithProof_countsNothing
  exact steps.bind fun _ => ⟨rfl, trivial⟩

/-- A run of a workflow counts one failure for each cryptographic call that failed. -/
theorem counts_run
    {engine : Engine}
    (detects : engine.DetectsByDefault)
    (quiet : engine.CountsNothing)
    (history : List Call)
    (setup : Setup)
    (s : Config.Snapshot)
    (w : Workflow)
    (r : Request) :
    let run := (w.program setup r).runOn s engine history
    Journal.counts run.notes = (engine.attempts history run.calls).filterMap Attempt.count? := by
  intro run
  rw [Engine.filterMap_count?_attempts detects]
  exact (program_countsNothing setup w r).counts_runOn quiet history

end Workflow

end Notary
