import Mathlib.Data.List.Basic
import Notary.Proofs.Program.Contract

namespace Notary

/-!
# What runs count

A program may leave all counting to what becomes of its calls. Then a run counts exactly the
failures of its calls, each under its kind.
-/

open Journal (Count Note counts)

/-- What is counted about a call. -/
def Attempt.count? : Attempt → Option Count
  | ⟨_, .failed failure⟩ => some (.failure failure.kind)
  | _ => none

/-- An engine that counts nothing by itself. -/
def Engine.CountsNothing (engine : Engine) : Prop :=
  ∀ history call, counts (engine.reply history call).notes = []

/-- A program whose own notes are events. -/
def Program.CountsNothing {α : Type} : Program α → Prop
  | done _ => True
  | rejected _ => True
  | note n rest => n.count? = none ∧ rest.CountsNothing
  | read next => ∀ s, (next s).CountsNothing
  | look rest => (rest ()).CountsNothing
  | ask _ next => ∀ answer, (next answer).CountsNothing

variable
    {α β : Type}
    {published : Config.Snapshot}
    {engine : Engine}

/-- Programs that count nothing may be put one after the other. -/
theorem Program.CountsNothing.bind
    {program : Program α}
    {next : α → Program β}
    (first : program.CountsNothing)
    (rest : ∀ value, (next value).CountsNothing) :
    (program >>= next).CountsNothing := by
  induction program with
  | done value =>
      exact rest value
  | rejected rejection =>
      trivial
  | note n program inductionHypothesis =>
      exact ⟨first.1, inductionHypothesis first.2⟩
  | read taken inductionHypothesis =>
      exact fun s => inductionHypothesis s (first s)
  | look program inductionHypothesis =>
      exact inductionHypothesis () first
  | ask call answered inductionHypothesis =>
      exact fun answer => inductionHypothesis answer (first answer)

theorem Program.call_bind_countsNothing
    {call : Call}
    {next : call.Answer → Program β}
    (rest : ∀ answer, (next answer).CountsNothing) :
    (Program.call call >>= next).CountsNothing :=
  rest

theorem Program.refuse_countsNothing
    (event : Journal.Event)
    (rejection : Rejection) :
    (Program.refuse event rejection : Program α).CountsNothing :=
  ⟨rfl, trivial⟩

theorem Program.sayAll_countsNothing
    {notes : List Note}
    (uncounted : ∀ n ∈ notes, n.count? = none) :
    (sayAll notes).CountsNothing := by
  induction notes with
  | nil =>
      trivial
  | cons n rest inductionHypothesis =>
      obtain ⟨first, later⟩ := List.forall_mem_cons.mp uncounted
      exact ⟨first, inductionHypothesis later⟩

theorem counts_append
    (first second : List Note) :
    counts (first ++ second) = counts first ++ counts second :=
  List.filterMap_append

/-- What an engine notes by itself over some calls made after others. -/
def Engine.notesOver (engine : Engine) (history : List Call) : List Call → List Note
  | [] => []
  | call :: rest =>
      (engine.reply history call).notes ++ engine.notesOver (history ++ [call]) rest

/-- A quiet engine adds no counter over any sequence of calls. -/
theorem Engine.CountsNothing.counts_notesOver
    (quiet : engine.CountsNothing)
    (history calls : List Call) :
    counts (engine.notesOver history calls) = [] := by
  induction calls generalizing history with
  | nil =>
      rfl
  | cons call rest inductionHypothesis =>
      rw [notesOver, counts_append, quiet, inductionHypothesis]
      rfl

/--
Beside what the engine counts, a run of a program that counts nothing by itself counts the
calls that failed.
-/
theorem Program.CountsNothing.counts_runOn_beside
    {program : Program α}
    (own : program.CountsNothing)
    (history : List Call) :
    let run := program.runOn published engine history
    counts run.notes =
      counts (engine.notesOver history run.calls) ++
        (engine.transcript history run.calls).filterMap Attempt.count? := by
  induction program generalizing history with
  | done value =>
      rfl
  | rejected rejection =>
      rfl
  | note n rest inductionHypothesis =>
      have later := inductionHypothesis own.2 history
      have here : counts [n] = [] := by
        rw [counts, List.filterMap_cons, own.1]
        rfl
      intro run
      rw [show run.notes = [n] ++ (rest.runOn published engine history).notes from rfl,
        counts_append, here, later]
      rfl
  | read next inductionHypothesis =>
      exact inductionHypothesis published (own published) history
  | look rest inductionHypothesis =>
      exact inductionHypothesis () own history
  | ask call next inductionHypothesis =>
      intro run
      cases outcome : (engine.reply history call).outcome with
      | answered answer =>
          have later := inductionHypothesis answer (own answer) (history ++ [call])
          simp only [run, runOn_ask_answered outcome, Run.calling, Run.noting, counts_append, later,
            Engine.transcript, Engine.notesOver, outcome, List.filterMap_cons, List.append_assoc]
          rfl
      | failed failure =>
          simp only [run, runOn_ask_failed outcome, Run.calling, Run.noting, counts_append,
            Engine.transcript, Engine.notesOver, outcome, List.append_nil]
          rfl
      | crashed =>
          simp only [run, runOn_ask_crashed outcome, Run.calling, Run.noting, Engine.transcript,
            Engine.notesOver, outcome, List.append_nil]
          exact (List.append_nil _).symm

/-- A run of a program that counts nothing by itself counts the calls that failed. -/
theorem Program.CountsNothing.counts_runOn
    {program : Program α}
    (own : program.CountsNothing)
    (quiet : engine.CountsNothing)
    (history : List Call) :
    counts (program.runOn published engine history).notes =
      (engine.transcript history (program.runOn published engine history).calls).filterMap
        Attempt.count? := by
  rw [own.counts_runOn_beside, quiet.counts_notesOver, List.nil_append]

/-- The failure of a call, if it failed. -/
def Attempt.failure? : Attempt → Option Failure
  | ⟨_, .failed failure⟩ => some failure
  | _ => none

/-- An attempt is counted exactly if it failed, under the kind of the failure. -/
theorem Attempt.count?_eq
    (attempt : Attempt) :
    attempt.count? = attempt.failure?.map fun failure => .failure failure.kind := by
  rcases attempt with ⟨call, answer | failure | _⟩ <;> rfl

/-- How some calls made after others failed. -/
def Engine.failures (engine : Engine) (history calls : List Call) : List Failure :=
  (engine.transcript history calls).filterMap Attempt.failure?

/--
The failures over a sequence of calls are those of its first call and then those of the rest, with
the history grown by that call.
-/
theorem Engine.failures_cons
    (engine : Engine)
    (history : List Call)
    (call : Call)
    (rest : List Call) :
    engine.failures history (call :: rest) =
      (Attempt.failure? ⟨call, (engine.reply history call).outcome⟩).toList ++
        engine.failures (history ++ [call]) rest := by
  unfold failures
  rw [transcript, List.filterMap_cons]
  cases Attempt.failure? ⟨call, (engine.reply history call).outcome⟩ <;> rfl

/-- At most one call of a run fails, and the run ends with it. -/
theorem Program.failures_runOn
    (program : Program α)
    (history : List Call) :
    let run := program.runOn published engine history
    engine.failures history run.calls = [] ∨
      ∃ failure, engine.failures history run.calls = [failure] ∧
        run.ending = .rejected failure.rejection := by
  induction program generalizing history with
  | done value =>
      exact .inl rfl
  | rejected rejection =>
      exact .inl rfl
  | note n rest inductionHypothesis =>
      exact inductionHypothesis history
  | read next inductionHypothesis =>
      exact inductionHypothesis published history
  | look rest inductionHypothesis =>
      exact inductionHypothesis () history
  | ask call next inductionHypothesis =>
      intro run
      cases outcome : (engine.reply history call).outcome with
      | answered answer =>
          have later := inductionHypothesis answer (history ++ [call])
          rw [show run = _ from runOn_ask_answered outcome, Run.calling_calls,
            Engine.failures_cons, outcome]
          exact later
      | failed failure =>
          rw [show run = _ from runOn_ask_failed outcome, Run.calling_calls,
            Engine.failures_cons, outcome]
          exact .inr ⟨failure, rfl, rfl⟩
      | crashed =>
          rw [show run = _ from runOn_ask_crashed outcome, Run.calling_calls,
            Engine.failures_cons, outcome]
          exact .inl rfl

/-- Decoding by default never fails, so only cryptographic calls are counted. -/
theorem Engine.filterMap_count?_attempts
    (detects : engine.DetectsByDefault)
    (history calls : List Call) :
    (engine.attempts history calls).filterMap Attempt.count? =
      (engine.transcript history calls).filterMap Attempt.count? := by
  rw [engine.attempts_eq_filter, List.filterMap_filter]
  refine List.filterMap_congr fun attempt member => ?_
  cases cryptographic : attempt.call.isCryptographic with
  | true =>
      rfl
  | false =>
      obtain ⟨earlier, replied⟩ := exists_reply_of_mem_transcript member
      obtain ⟨call, outcome⟩ := attempt
      cases call with
      | decode document =>
          rw [detects] at replied
          have isText : outcome = (Charset.reply document).outcome := replied
          subst isText
          rfl
      | _ =>
          cases cryptographic

end Notary
