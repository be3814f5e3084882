import Notary.Proofs.Program.Course

namespace Notary

/-!
# Programs that refuse before their first call

What a program does before its first call depends on the published snapshot alone.
It may come to a rejection there; then it ends so against every engine, without a
call. A guarded program that does not come to one makes at least one call of its plan.
-/

namespace Program

variable
    {α β : Type}
    {published : Config.Snapshot}

/-- The rejection that a program comes to before its first call. -/
def refusal? (published : Config.Snapshot) : Program α → Option Rejection
  | done _ => none
  | rejected rejection => some rejection
  | note _ rest => rest.refusal? published
  | read next => (next published).refusal? published
  | look rest => (rest ()).refusal? published
  | ask _ _ => none

/-- A program that refuses by itself ends so against every engine, without a call. -/
theorem runOn_of_refusal?
    {program : Program α}
    {rejection : Rejection}
    (refuses : program.refusal? published = some rejection)
    (engine : Engine)
    (history : List Call) :
    (program.runOn published engine history).calls = [] ∧
      (program.runOn published engine history).ending = .rejected rejection := by
  induction program with
  | done value =>
      cases refuses
  | rejected other =>
      cases refuses
      exact ⟨rfl, rfl⟩
  | note n rest inductionHypothesis =>
      exact inductionHypothesis refuses
  | read next inductionHypothesis =>
      exact inductionHypothesis published refuses
  | look rest inductionHypothesis =>
      exact inductionHypothesis () refuses
  | ask call next =>
      cases refuses

/-- What comes after a program matters only once that yields a value. -/
theorem refusal?_bind_of_none
    {next : α → Program β}
    (accepts : ∀ value, (next value).refusal? published = none)
    (program : Program α) :
    (program >>= next).refusal? published = program.refusal? published := by
  induction program with
  | done value =>
      exact accepts value
  | rejected rejection =>
      rfl
  | note n rest inductionHypothesis =>
      exact inductionHypothesis
  | read taken inductionHypothesis =>
      exact inductionHypothesis published
  | look rest inductionHypothesis =>
      exact inductionHypothesis ()
  | ask call answered =>
      rfl

end Program

variable
    {σ α : Type}
    {published : Config.Snapshot}
    {engine : Engine}
    {plan : List σ}

/-- A run that does not turn to the cryptography of the engine. -/
def Run.Uncalled (run : Run α) : Prop :=
  ∀ call ∈ run.calls, call.isCryptographic = false

theorem Engine.exists_cryptographic_of_attempts_ne_nil
    {history calls : List Call}
    (attempted : engine.attempts history calls ≠ []) :
    ∃ call ∈ calls, call.isCryptographic = true := by
  induction calls generalizing history with
  | nil =>
      exact (attempted rfl).elim
  | cons call rest inductionHypothesis =>
      cases cryptographic : call.isCryptographic with
      | true =>
          exact ⟨call, List.mem_cons_self, cryptographic⟩
      | false =>
          simp only [Engine.attempts, cryptographic, Bool.false_eq_true, ↓reduceIte] at attempted
          obtain ⟨later, member, isCryptographic⟩ := inductionHypothesis attempted
          exact ⟨later, List.mem_cons_of_mem call member, isCryptographic⟩

/-- A course of a plan with something to do begins with an attempt. -/
theorem Course.attempts_ne_nil
    {admits : σ → Call → Prop}
    {attempts : List Attempt}
    {ending : Ending α}
    (course : Course admits plan attempts ending)
    (planned : plan ≠ []) :
    attempts ≠ [] := by
  cases course with
  | finished value =>
      exact (planned rfl).elim
  | stopped plan admitted stops =>
      exact List.cons_ne_nil _ _
  | onward admitted succeeded rest =>
      exact List.cons_ne_nil _ _

/-- A guarded program that does not refuse by itself makes a call of its plan. -/
theorem Guarded.not_uncalled_of_refusal?_none
    {admits : σ → Call → Prop}
    {program : Program α}
    (detects : engine.DetectsByDefault)
    (guarded : Guarded admits plan program)
    (planned : plan ≠ [])
    (accepts : program.refusal? published = none)
    (history : List Call) :
    ¬ (program.runOn published engine history).Uncalled := by
  induction guarded with
  | rejected rejection =>
      cases accepts
  | note n _ inductionHypothesis =>
      exact inductionHypothesis accepts
  | look _ inductionHypothesis =>
      exact inductionHypothesis accepts
  | @commits program committed =>
      intro uncalled
      -- The plan is not empty, so its course begins with an attempt at a call.
      have course :
          Course admits plan
            (engine.attempts history (program.runOn published engine history).calls)
            (program.runOn published engine history).ending :=
        committed.course detects history
      obtain ⟨call, member, cryptographic⟩ :=
        Engine.exists_cryptographic_of_attempts_ne_nil (course.attempts_ne_nil planned)
      rw [uncalled call member] at cryptographic
      cases cryptographic

end Notary
