import Mathlib.Data.List.Forall2
import Notary.Proofs.Program.Attempt

namespace Notary

/-!
# Programs that follow a plan

A plan lists the steps that a program is to take, and a relation says which calls
are admitted for each step. A program is committed to a plan when each of its
branches makes the planned calls in order; it is guarded when it may still be
rejected before the first of them; and it reads first when it takes a snapshot before
anything else, and only then. These are properties of the tree alone. What they come
to in a run, against any engine, is a course: calls that succeed, and either the end
of the plan or one last call that stops the run.
-/

namespace Program

/-- A program that turns neither to the engine nor to the store. -/
def MakesNoCall {α : Type} : Program α → Prop
  | done _ => True
  | rejected _ => True
  | note _ rest => rest.MakesNoCall
  | read _ => False
  | look rest => (rest ()).MakesNoCall
  | ask _ _ => False

/-- A program that never reads the store. -/
def ReadFree {α : Type} : Program α → Prop
  | done _ => True
  | rejected _ => True
  | note _ rest => rest.ReadFree
  | read _ => False
  | look rest => (rest ()).ReadFree
  | ask _ next => ∀ answer, (next answer).ReadFree

/-- The values that some branch of a program yields. -/
inductive Yields {α : Type} : Program α → α → Prop where
  | done
      (value : α) :
      Yields (.done value) value
  | note
      {n : Journal.Note}
      {rest : Program α}
      {value : α} :
      Yields rest value →
      Yields (.note n rest) value
  | look
      {rest : Unit → Program α}
      {value : α} :
      Yields (rest ()) value →
      Yields (.look rest) value
  | ask
      {call : Call}
      {next : call.Answer → Program α}
      (answer : call.Answer)
      {value : α} :
      Yields (next answer) value →
      Yields (.ask call next) value

/-- A refusal yields nothing. -/
theorem not_yields_refuse
    {α : Type}
    {event : Journal.Event}
    {rejection : Rejection}
    {value : α} :
    ¬ (refuse event rejection : Program α).Yields value := by
  rintro (_ | ⟨⟨⟩⟩)

end Program

variable
    {σ α β : Type}
    {admits : σ → Call → Prop}
    {published : Config.Snapshot}

/-- Two programs without calls make one without calls. -/
theorem Program.MakesNoCall.bind
    {program : Program α}
    {next : α → Program β}
    (silent : program.MakesNoCall)
    (rest : ∀ value, (next value).MakesNoCall) :
    (program >>= next).MakesNoCall := by
  induction program with
  | done value =>
      exact rest value
  | rejected rejection =>
      trivial
  | note n program inductionHypothesis =>
      exact inductionHypothesis silent
  | read taken =>
      exact silent.elim
  | look program inductionHypothesis =>
      exact inductionHypothesis () silent
  | ask call answered =>
      exact silent.elim

/--
A program that makes the planned calls in order. It yields a value only when all
of them are made, and rejects by itself only what a certificate check rejects.
-/
inductive Commits (admits : σ → Call → Prop) : List σ → Program α → Prop where
  | done
      (value : α) :
      Commits admits [] (.done value)
  | note
      {plan : List σ}
      {program : Program α}
      (n : Journal.Note) :
      Commits admits plan program →
      Commits admits plan (.note n program)
  | look
      {plan : List σ}
      {rest : Unit → Program α} :
      Commits admits plan (rest ()) →
      Commits admits plan (.look rest)
  | decode
      {plan : List σ}
      {document : List UInt8}
      {next : (Call.decode document).Answer → Program α} :
      (∀ text, Commits admits plan (next text)) →
      Commits admits plan (.ask (.decode document) next)
  | check
      {step : σ}
      {plan : List σ}
      {parameters : Config.SigningParameters}
      {next : (Call.checkCertificate parameters).Answer → Program α}
      (admitted : admits step (.checkCertificate parameters)) :
      Commits admits plan (next CertificateStatus.proceed) →
      (∀ rejection, ∃ event,
        next (CertificateStatus.reject rejection) = .refuse event rejection) →
      Commits admits (step :: plan) (.ask (.checkCertificate parameters) next)
  | ask
      {step : σ}
      {plan : List σ}
      {call : Call}
      {next : call.Answer → Program α}
      (cryptographic : call.isCryptographic = true)
      (unconditional : ∀ answer, Attempt.Succeeded ⟨call, .answered answer⟩)
      (admitted : admits step call) :
      (∀ answer, Commits admits plan (next answer)) →
      Commits admits (step :: plan) (.ask call next)

/-- A program that may be rejected before the first planned call. -/
inductive Guarded (admits : σ → Call → Prop) (plan : List σ) : Program α → Prop where
  | rejected
      (rejection : Rejection) :
      Guarded admits plan (.rejected rejection)
  | note
      {program : Program α}
      (n : Journal.Note) :
      Guarded admits plan program →
      Guarded admits plan (.note n program)
  | look
      {rest : Unit → Program α} :
      Guarded admits plan (rest ()) →
      Guarded admits plan (.look rest)
  | commits
      {program : Program α} :
      Commits admits plan program →
      Guarded admits plan program

/-- A program that takes the published snapshot first of all, and is guarded from there on. -/
def ReadsFirst
    (admits : Config.Snapshot → σ → Call → Prop)
    (plan : List σ)
    (program : Program α) : Prop :=
  ∃ next, program = .read next ∧ ∀ s, Guarded (admits s) plan (next s)

/-- The plans of two programs add up when one goes on where the other ends. -/
theorem Commits.bind
    {plan later : List σ}
    {program : Program α}
    {next : α → Program β}
    (first : Commits admits plan program)
    (second : ∀ value, Commits admits later (next value)) :
    Commits admits (plan ++ later) (program >>= next) := by
  induction first with
  | done value =>
      exact second value
  | note n _ inductionHypothesis =>
      exact .note n inductionHypothesis
  | look _ inductionHypothesis =>
      exact .look inductionHypothesis
  | decode _ inductionHypothesis =>
      exact .decode inductionHypothesis
  | check admitted _ rejects inductionHypothesis =>
      refine .check admitted inductionHypothesis ?_
      intro rejection
      obtain ⟨event, refused⟩ := rejects rejection
      exact ⟨event, by rw [refused]; rfl⟩
  | ask cryptographic unconditional admitted _ inductionHypothesis =>
      exact .ask cryptographic unconditional admitted inductionHypothesis

/-- Guards stand in front of a plan without adding to it. -/
theorem Guarded.bind
    {plan : List σ}
    {guards : Program α}
    {next : α → Program β}
    (silent : guards.MakesNoCall)
    (rest : ∀ value, guards.Yields value → Guarded admits plan (next value)) :
    Guarded admits plan (guards >>= next) := by
  induction guards with
  | done value =>
      exact rest value (.done value)
  | rejected rejection =>
      exact .rejected rejection
  | note n program inductionHypothesis =>
      exact .note n
        (inductionHypothesis silent fun value yields => rest value (.note yields))
  | read taken =>
      exact silent.elim
  | look program inductionHypothesis =>
      exact .look
        (inductionHypothesis () silent fun value yields => rest value (.look yields))
  | ask call next =>
      exact silent.elim

/-- A guarded program stays guarded when another one goes on where it ends. -/
theorem Guarded.followedBy
    {plan later : List σ}
    {program : Program α}
    {next : α → Program β}
    (first : Guarded admits plan program)
    (second : ∀ value, Commits admits later (next value)) :
    Guarded admits (plan ++ later) (program >>= next) := by
  induction first with
  | rejected rejection =>
      exact .rejected rejection
  | note n _ inductionHypothesis =>
      exact .note n inductionHypothesis
  | look _ inductionHypothesis =>
      exact .look inductionHypothesis
  | commits committed =>
      exact .commits (committed.bind second)

namespace ReadsFirst

variable
    {admits : Config.Snapshot → σ → Call → Prop}
    {plan later : List σ}

/-- What is guarded with any snapshot reads first when it is handed the published one. -/
theorem snapshot_bind
    {next : Config.Snapshot → Program β}
    (rest : ∀ s, Guarded (admits s) plan (next s)) :
    ReadsFirst admits plan (Program.snapshot >>= next) :=
  ⟨next, rfl, rest⟩

/-- A program that reads first still does when another one goes on where it ends. -/
theorem followedBy
    {program : Program α}
    {next : α → Program β}
    (first : ReadsFirst admits plan program)
    (second : ∀ s value, Commits (admits s) later (next value)) :
    ReadsFirst admits (plan ++ later) (program >>= next) := by
  obtain ⟨taken, rfl, guarded⟩ := first
  exact ⟨fun s => taken s >>= next, rfl, fun s => (guarded s).followedBy (second s)⟩

end ReadsFirst

/-- A committed program works with the snapshot that it has. -/
theorem Commits.readFree
    {plan : List σ}
    {program : Program α}
    (committed : Commits admits plan program) :
    program.ReadFree := by
  induction committed with
  | done value =>
      trivial
  | note n _ inductionHypothesis =>
      exact inductionHypothesis
  | look _ inductionHypothesis =>
      exact inductionHypothesis
  | decode _ inductionHypothesis =>
      exact inductionHypothesis
  | check admitted _ rejects inductionHypothesis =>
      intro status
      cases status with
      | proceed =>
          exact inductionHypothesis
      | reject rejection =>
          obtain ⟨event, refused⟩ := rejects rejection
          rw [refused]
          trivial
  | ask cryptographic unconditional admitted _ inductionHypothesis =>
      exact inductionHypothesis

/-- A guarded program works with the snapshot that it has. -/
theorem Guarded.readFree
    {plan : List σ}
    {program : Program α}
    (guarded : Guarded admits plan program) :
    program.ReadFree := by
  induction guarded with
  | rejected rejection =>
      trivial
  | note n _ inductionHypothesis =>
      exact inductionHypothesis
  | look _ inductionHypothesis =>
      exact inductionHypothesis
  | commits committed =>
      exact committed.readFree

/--
The attempts of a run that keeps to a plan, with how the run ends: each attempt is
admitted for its step, and only the last one may stop the run.
-/
inductive Course (admits : σ → Call → Prop) :
    List σ → List Attempt → Ending α → Prop where
  | finished
      (value : α) :
      Course admits [] [] (.finished value)
  | stopped
      {step : σ}
      (plan : List σ)
      {attempt : Attempt}
      {ending : Ending α}
      (admitted : admits step attempt.call)
      (stops : attempt.stop? = some ending) :
      Course admits (step :: plan) [attempt] ending
  | onward
      {step : σ}
      {plan : List σ}
      {attempt : Attempt}
      {attempts : List Attempt}
      {ending : Ending α}
      (admitted : admits step attempt.call)
      (succeeded : attempt.Succeeded) :
      Course admits plan attempts ending →
      Course admits (step :: plan) (attempt :: attempts) ending

namespace Course

variable
    {plan : List σ}
    {attempts : List Attempt}
    {ending : Ending α}

/-- The calls of a course are admitted for the first steps of its plan. -/
theorem admitted
    (course : Course admits plan attempts ending) :
    ∃ made,
      made <+: plan ∧
        List.Forall₂ (fun step attempt => admits step attempt.call) made attempts := by
  induction course with
  | finished value =>
      exact ⟨[], List.prefix_refl [], .nil⟩
  | @stopped step plan attempt ending admitted stops =>
      exact ⟨[step], ⟨plan, rfl⟩, .cons admitted .nil⟩
  | @onward step plan attempt attempts ending admitted _ _ inductionHypothesis =>
      obtain ⟨made, isPrefix, matching⟩ := inductionHypothesis
      exact ⟨step :: made, (List.prefix_cons_inj step).mpr isPrefix,
        .cons admitted matching⟩

/-- Every attempt of a course except possibly the last succeeds. -/
theorem succeeded_of_mem_dropLast
    (course : Course admits plan attempts ending) :
    ∀ attempt ∈ attempts.dropLast, attempt.Succeeded := by
  induction course with
  | finished value =>
      simp
  | stopped plan admitted stops =>
      simp
  | @onward step plan attempt attempts ending admitted succeeded _ inductionHypothesis =>
      cases attempts with
      | nil =>
          simp
      | cons second attempts =>
          rw [List.dropLast_cons_cons]
          exact List.forall_mem_cons.mpr ⟨succeeded, inductionHypothesis⟩

/-- A course finishes exactly when the whole plan is executed and each attempt succeeds. -/
theorem finished_iff
    (course : Course admits plan attempts ending) :
    (∃ value, ending = .finished value) ↔
      attempts.length = plan.length ∧ ∀ attempt ∈ attempts, attempt.Succeeded := by
  induction course with
  | finished value =>
      simp
  | @stopped step plan attempt ending admitted stops =>
      have failed : ¬ attempt.Succeeded := by
        rw [← attempt.stop?_eq_none_iff (α := α), stops]
        simp
      constructor
      · rintro ⟨value, rfl⟩
        exact (attempt.stop?_ne_finished value stops).elim
      · rintro ⟨_, allSucceeded⟩
        exact (failed (allSucceeded attempt (by simp))).elim
  | onward admitted succeeded _ inductionHypothesis =>
      rw [inductionHypothesis, List.length_cons, List.length_cons, List.forall_mem_cons,
        Nat.add_right_cancel_iff]
      simp only [succeeded, true_and]

/-- A course that does not finish ends as its last attempt says. -/
theorem stopped_by_last
    (course : Course admits plan attempts ending)
    (unfinished : ∀ value, ending ≠ .finished value) :
    ∃ last, attempts.getLast? = some last ∧ last.stop? = some ending := by
  induction course with
  | finished value =>
      exact (unfinished value rfl).elim
  | stopped plan admitted stops =>
      exact ⟨_, rfl, stops⟩
  | @onward step plan attempt attempts ending admitted succeeded _ inductionHypothesis =>
      obtain ⟨last, isLast, stops⟩ := inductionHypothesis unfinished
      refine ⟨last, ?_, stops⟩
      rw [List.getLast?_cons, isLast]
      rfl

end Course

/-- A committed program takes a course of its plan against every engine. -/
theorem Commits.course
    {engine : Engine}
    (detects : engine.DetectsByDefault)
    {plan : List σ}
    {program : Program α}
    (committed : Commits admits plan program)
    (history : List Call) :
    Course admits plan
      (engine.attempts history (program.runOn published engine history).calls)
      (program.runOn published engine history).ending := by
  induction committed generalizing history with
  | done value =>
      exact .finished value
  | note n _ inductionHypothesis =>
      exact inductionHypothesis history
  | look _ inductionHypothesis =>
      exact inductionHypothesis history
  | @decode plan document next _ inductionHypothesis =>
      have answered :
          (engine.reply history (.decode document)).outcome =
            .answered (String.ofList (Charset.decode document)) := by
        rw [detects]
        rfl
      rw [Program.runOn_ask_answered answered]
      exact inductionHypothesis _ _
  | @check step plan parameters next admitted _ rejects inductionHypothesis =>
      cases outcome : (engine.reply history (.checkCertificate parameters)).outcome with
      | answered status =>
          rw [Program.runOn_ask_answered outcome]
          cases status with
          | proceed =>
              exact .onward admitted (by rw [outcome]; trivial) (inductionHypothesis _)
          | reject rejection =>
              obtain ⟨event, refused⟩ := rejects rejection
              rw [refused]
              exact .stopped plan admitted (by simp only [outcome]; rfl)
      | failed failure =>
          rw [Program.runOn_ask_failed outcome]
          refine .stopped plan admitted ?_
          simp only [outcome]
          exact Attempt.stop?_failed _ failure
      | crashed =>
          rw [Program.runOn_ask_crashed outcome]
          exact .stopped plan admitted (by simp only [outcome]; rfl)
  | @ask step plan call next cryptographic unconditional admitted _ inductionHypothesis =>
      cases outcome : (engine.reply history call).outcome with
      | answered answer =>
          rw [Program.runOn_ask_answered outcome]
          simp only [Run.calling_calls, Engine.attempts, cryptographic, outcome]
          exact .onward admitted (unconditional answer) (inductionHypothesis answer _)
      | failed failure =>
          rw [Program.runOn_ask_failed outcome]
          simp only [Run.calling_calls, Engine.attempts, cryptographic, outcome]
          exact .stopped plan admitted (Attempt.stop?_failed call failure)
      | crashed =>
          rw [Program.runOn_ask_crashed outcome]
          simp only [Run.calling_calls, Engine.attempts, cryptographic, outcome]
          exact .stopped plan admitted (Attempt.stop?_crashed call)

/-- A guarded program is rejected before the first planned call, or takes a course of its plan. -/
theorem Guarded.course
    {engine : Engine}
    (detects : engine.DetectsByDefault)
    {plan : List σ}
    {program : Program α}
    (guarded : Guarded admits plan program)
    (history : List Call) :
    (engine.attempts history (program.runOn published engine history).calls = [] ∧
        ∃ rejection, (program.runOn published engine history).ending = .rejected rejection) ∨
      Course admits plan
        (engine.attempts history (program.runOn published engine history).calls)
        (program.runOn published engine history).ending := by
  induction guarded with
  | rejected rejection =>
      exact .inl ⟨rfl, rejection, rfl⟩
  | note n _ inductionHypothesis =>
      exact inductionHypothesis
  | look _ inductionHypothesis =>
      exact inductionHypothesis
  | commits committed =>
      exact .inr (committed.course detects history)

/-- Against any engine, the cryptographic calls of a committed program are admitted by its plan. -/
theorem Commits.admits_of_mem_calls
    {engine : Engine}
    {plan : List σ}
    {program : Program α}
    (committed : Commits admits plan program)
    (history : List Call) :
    ∀ call ∈ (program.runOn published engine history).calls,
      call.isCryptographic = true →
        ∃ step ∈ plan, admits step call := by
  induction committed generalizing history with
  | done value =>
      simp [Program.runOn]
  | note n _ inductionHypothesis =>
      exact inductionHypothesis history
  | look _ inductionHypothesis =>
      exact inductionHypothesis history
  | decode _ inductionHypothesis =>
      intro call member cryptographic
      rcases Program.eq_or_mem_calls_of_mem_calls_ask member with
        rfl | ⟨text, later⟩
      · cases cryptographic
      · exact inductionHypothesis text _ call later cryptographic
  | @check step plan parameters next admitted _ rejects inductionHypothesis =>
      intro call member cryptographic
      rcases Program.eq_or_mem_calls_of_mem_calls_ask member with
        rfl | ⟨status, later⟩
      · exact ⟨step, List.mem_cons_self, admitted⟩
      · cases status with
        | proceed =>
            obtain ⟨later, inPlan, admittedLater⟩ :=
              inductionHypothesis _ call later cryptographic
            exact ⟨later, List.mem_cons_of_mem step inPlan, admittedLater⟩
        | reject rejection =>
            obtain ⟨event, refused⟩ := rejects rejection
            rw [refused] at later
            cases later
  | @ask step plan asked next _ _ admitted _ inductionHypothesis =>
      intro call member cryptographic
      rcases Program.eq_or_mem_calls_of_mem_calls_ask member with
        rfl | ⟨answer, later⟩
      · exact ⟨step, List.mem_cons_self, admitted⟩
      · obtain ⟨later, inPlan, admittedLater⟩ :=
          inductionHypothesis answer _ call later cryptographic
        exact ⟨later, List.mem_cons_of_mem step inPlan, admittedLater⟩

/-- Against any engine, the cryptographic calls of a guarded program are admitted by its plan. -/
theorem Guarded.admits_of_mem_calls
    {engine : Engine}
    {plan : List σ}
    {program : Program α}
    (guarded : Guarded admits plan program)
    (history : List Call) :
    ∀ call ∈ (program.runOn published engine history).calls,
      call.isCryptographic = true →
        ∃ step ∈ plan, admits step call := by
  induction guarded with
  | rejected rejection =>
      simp [Program.runOn]
  | note n _ inductionHypothesis =>
      exact inductionHypothesis
  | look _ inductionHypothesis =>
      exact inductionHypothesis
  | commits committed =>
      exact committed.admits_of_mem_calls history

/-- Run while one snapshot is published, a program that reads first goes on with that one. -/
theorem ReadsFirst.exists_guarded
    {admits : Config.Snapshot → σ → Call → Prop}
    {plan : List σ}
    {program : Program α}
    (first : ReadsFirst admits plan program)
    (s : Config.Snapshot)
    (engine : Engine)
    (history : List Call) :
    ∃ rest, Guarded (admits s) plan rest ∧
      program.runOn s engine history = rest.runOn s engine history := by
  obtain ⟨next, rfl, guarded⟩ := first
  exact ⟨next s, guarded s, rfl⟩

end Notary
