import Notary.Engine.Charset
import Notary.Workflow.Program

namespace Notary

/-!
# Calls and what came of them

A run keeps the calls that it made, but not their outcomes. An engine answers
each call according to the calls before it, so the outcomes can be read off the
engine again. An attempt is a call together with its outcome; it either lets the
run go on or says how the run ends.
-/

/-- An engine that leaves the decoding of documents to the default detector. -/
def Engine.DetectsByDefault (engine : Engine) : Prop :=
  ∀ history document,
    engine.reply history (.decode document) = Charset.reply document

/-- A call and its outcome. -/
structure Attempt where
  call : Call
  outcome : Outcome call.Answer

namespace Attempt

/-- A call succeeds when it is answered, a checked certificate being let pass. -/
def Succeeded : Attempt → Prop
  | ⟨.checkCertificate _, .answered (.reject _)⟩ => False
  | ⟨_, .answered _⟩ => True
  | ⟨_, _⟩ => False

/-- How a run ends on an attempt; nothing if the run goes on. -/
def stop? {α : Type} : Attempt → Option (Ending α)
  | ⟨.checkCertificate _, .answered (.reject rejection)⟩ => some (.rejected rejection)
  | ⟨_, .answered _⟩ => none
  | ⟨_, .failed ⟨.client, _, _⟩⟩ => some (.rejected .notImplemented)
  | ⟨_, .failed ⟨.server, _, _⟩⟩ => some (.rejected .serviceUnavailable)
  | ⟨_, .failed ⟨.processing, _, _⟩⟩ => some (.rejected .internalServerError)
  | ⟨_, .crashed⟩ => some .crashed

/-- A failure stops a run with the rejection of its kind, whatever the call. -/
@[simp] theorem stop?_failed
    {α : Type}
    (call : Call)
    (failure : Failure) :
    (⟨call, .failed failure⟩ : Attempt).stop? =
      some (Ending.rejected failure.rejection : Ending α) := by
  rcases failure with ⟨kind, cause, deeper⟩
  cases kind with
  | client | server | processing =>
      cases call <;> rfl

/-- A crash stops a run, whatever the call. -/
@[simp] theorem stop?_crashed
    {α : Type}
    (call : Call) :
    (⟨call, .crashed⟩ : Attempt).stop? = some (Ending.crashed : Ending α) := by
  cases call <;> rfl

theorem exists_eq_of_failed
    {attempt : Attempt}
    {failure : Failure}
    (failed : attempt.outcome = .failed failure) :
    ∃ call, attempt = ⟨call, .failed failure⟩ := by
  refine ⟨attempt.call, ?_⟩
  rw [← failed]

/-- A run goes on exactly after the calls that succeeded. -/
theorem stop?_eq_none_iff
    {α : Type}
    (attempt : Attempt) :
    attempt.stop? (α := α) = none ↔ attempt.Succeeded := by
  rcases attempt with ⟨call, answer | failure | _⟩
  · cases call with
    | checkCertificate parameters =>
        cases answer <;> simp [stop?, Succeeded]
    | _ =>
        simp [stop?, Succeeded]
  · simp [Succeeded]
  · simp [Succeeded]

/-- No attempt ends a run with a value. -/
theorem stop?_ne_finished
    {α : Type}
    (attempt : Attempt)
    (value : α) :
    attempt.stop? ≠ some (Ending.finished value) := by
  rcases attempt with ⟨call, answer | failure | _⟩
  · cases call with
    | checkCertificate parameters =>
        cases answer <;> simp [stop?]
    | _ =>
        simp [stop?]
  · simp
  · simp

end Attempt

/-- The cryptographic calls among some calls made after others, with their outcomes. -/
def Engine.attempts (engine : Engine) (history : List Call) : List Call → List Attempt
  | [] => []
  | call :: rest =>
      if call.isCryptographic then
        ⟨call, (engine.reply history call).outcome⟩ ::
          engine.attempts (history ++ [call]) rest
      else engine.attempts (history ++ [call]) rest

/-- The attempts are those of the calls that go to the cryptographic part of the engine. -/
theorem Engine.map_call_attempts
    (engine : Engine)
    (history calls : List Call) :
    (engine.attempts history calls).map (·.call) = calls.filter (·.isCryptographic) := by
  induction calls generalizing history with
  | nil =>
      rfl
  | cons call rest inductionHypothesis =>
      cases cryptographic : call.isCryptographic with
      | true =>
          simp [Engine.attempts, cryptographic, inductionHypothesis]
      | false =>
          simp [Engine.attempts, cryptographic, inductionHypothesis]

namespace Run

variable {α : Type}

@[simp] theorem calling_calls
    (call : Call)
    (run : Run α) :
    (run.calling call).calls = call :: run.calls :=
  rfl

end Run

namespace Program

variable
    {α : Type}
    {published : Config.Snapshot}
    {engine : Engine}
    {history : List Call}
    {call : Call}
    {next : call.Answer → Program α}

/-- After an answer a program goes on with what it planned for it. -/
theorem runOn_ask_answered
    {answer : call.Answer}
    (answered : (engine.reply history call).outcome = .answered answer) :
    (ask call next).runOn published engine history =
      (((next answer).runOn published engine (history ++ [call])).noting
        (engine.reply history call).notes).calling call := by
  simp only [runOn, answered]

/-- A failure ends a program with the rejection that its kind calls for. -/
theorem runOn_ask_failed
    {failure : Failure}
    (failed : (engine.reply history call).outcome = .failed failure) :
    (ask call next).runOn published engine history =
      ((⟨.rejected failure.rejection, [], failure.notes⟩ : Run α).noting
        (engine.reply history call).notes).calling call := by
  simp only [runOn, failed]

/-- A crash of the engine tears a program down. -/
theorem runOn_ask_crashed
    (crashed : (engine.reply history call).outcome = .crashed) :
    (ask call next).runOn published engine history =
      ((⟨.crashed, [], []⟩ : Run α).noting
        (engine.reply history call).notes).calling call := by
  simp only [runOn, crashed]

/-- The first call of a program that asks is the one it asks. -/
theorem exists_calls_runOn_ask
    (published : Config.Snapshot)
    (engine : Engine)
    (history : List Call)
    (call : Call)
    (next : call.Answer → Program α) :
    ∃ later, ((ask call next).runOn published engine history).calls = call :: later := by
  rw [runOn]
  exact ⟨_, rfl⟩

/-- A program that asks makes that call, and then those of what it does with the answer. -/
theorem eq_or_mem_calls_of_mem_calls_ask
    {other : Call}
    (member : other ∈ ((ask call next).runOn published engine history).calls) :
    other = call ∨
      ∃ answer, other ∈ ((next answer).runOn published engine (history ++ [call])).calls := by
  cases outcome : (engine.reply history call).outcome with
  | answered answer =>
      rw [runOn_ask_answered outcome] at member
      rcases List.mem_cons.mp member with isCall | later
      · exact .inl isCall
      · exact .inr ⟨answer, later⟩
  | failed failure =>
      rw [runOn_ask_failed outcome] at member
      exact .inl (List.mem_singleton.mp member)
  | crashed =>
      rw [runOn_ask_crashed outcome] at member
      exact .inl (List.mem_singleton.mp member)

end Program

end Notary
