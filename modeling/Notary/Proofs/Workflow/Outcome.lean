import Notary.Proofs.Workflow.Precedence

namespace Notary

/-!
# What becomes of a run

Either the checks refuse the request, and the run ends so at once; or they let it pass, and
the run is a course of the plan of its workflow. The checks refuse with four rejections
only, so the other two are left to the engine.
-/

open Config (Snapshot)

namespace Workflow

/-- The rejections that checks come to. -/
def checkRejections : List Rejection :=
  [.badRequest, .unauthorized, .notFound, .notImplemented]

variable
    {setup : Setup}
    {s : Snapshot}
    {w : Workflow}
    {r : Request}
    {rejection : Rejection}

theorem mem_checkRejections_of_check
    {check : Check}
    (refuses : check.refusal? setup s r = some rejection) :
    rejection ∈ checkRejections := by
  cases check with
  | reference x =>
      simp only [Check.refusal?] at refuses
      split at refuses
      · cases refuses
        decide
      · split at refuses
        · cases refuses
          decide
        · cases refuses
  | secret =>
      simp only [Check.refusal?] at refuses
      split at refuses
      · cases refuses
        decide
      · cases refuses
  | proofOfSigner | accept | document | proofFields =>
      simp only [Check.refusal?] at refuses
      split at refuses
      · cases refuses
      · cases refuses
        decide

/-- A workflow refuses with one of the rejections of its checks. -/
theorem mem_checkRejections
    (refuses : refusal? setup s w r = some rejection) :
    rejection ∈ checkRejections := by
  obtain ⟨check, _, fails⟩ := List.exists_of_findSome?_eq_some refuses
  exact mem_checkRejections_of_check fails

/-- A request that passes all guards of a workflow. -/
structure Passes (setup : Setup) (s : Snapshot) (w : Workflow) (r : Request) : Prop where
  found : ¬ w.LacksConfiguration s r
  accepts : ¬ r.RefusesJson
  complete : ¬ w.Incomplete r
  matched : ¬ SecretRefused setup w s r

/-- The checks let exactly the requests pass that have no defect. -/
theorem refusal?_eq_none_iff :
    refusal? setup s w r = none ↔ w.Passes setup s r := by
  by_cases named : ∀ x ∈ w.references, x.missing r = false
  · rw [← Option.isNone_iff_eq_none, ← Option.not_isSome, Bool.not_eq_true',
      ← Bool.not_eq_true, refusal?_isSome_iff named, not_or, not_or, not_or]
    constructor
    · rintro ⟨found, accepts, complete, matched⟩
      exact ⟨found, accepts, complete, matched⟩
    · intro passes
      exact ⟨passes.found, passes.accepts, passes.complete, passes.matched⟩
  · -- An id that is left out is both refused and a configuration that is lacking.
    rw [not_forall₂] at named
    obtain ⟨x, listed, missing⟩ := named
    have leftOut : r.get x.field = none := by
      simpa [Reference.missing] using missing
    have checked : Check.reference x ∈ w.checks := by
      simp [checks, lookupChecks, listed]
    constructor
    · intro passes
      have passesReference := List.findSome?_eq_none_iff.mp passes _ checked
      simp [Check.refusal?, Reference.missing, leftOut] at passesReference
    · intro passes
      refine (passes.found (.inl ⟨x, listed, ?_⟩)).elim
      rw [leftOut, Option.bind_none]

/-- A request is refused at once by the checks, or its run is a course of the plan. -/
theorem run_refused_or_course
    {engine : Engine}
    (detects : engine.DetectsByDefault)
    (history : List Call)
    (setup : Setup)
    (s : Snapshot)
    (w : Workflow)
    (r : Request) :
    let run := (w.program setup r).runOn s engine history
    (∃ rejection, refusal? setup s w r = some rejection ∧ run.RejectedAtOnce rejection) ∨
      (refusal? setup s w r = none ∧
        Course (w.Admits s r) w.plan (engine.attempts history run.calls) run.ending) := by
  intro run
  cases refuses : refusal? setup s w r with
  | some rejection =>
      exact .inl ⟨rejection, rfl, run_of_refusal? refuses engine history⟩
  | none =>
      refine .inr ⟨rfl, ?_⟩
      obtain ⟨rest, guarded, sameRun⟩ :=
        (program_readsFirst setup w r).exists_guarded s engine history
      have called : ¬ run.Uncalled := by
        rw [uncalled_iff_refusal? detects, refuses]
        exact Bool.false_ne_true
      rcases guarded.course detects history with ⟨unattempted, _⟩ | course
      · rw [← sameRun] at unattempted
        refine absurd (fun call member => ?_) called
        have unattemptedCalls := engine.map_call_attempts history run.calls
        rw [unattempted, List.map_nil] at unattemptedCalls
        simpa using List.filter_eq_nil_iff.mp unattemptedCalls.symm call member
      · rw [← sameRun] at course
        exact course

end Workflow

end Notary
