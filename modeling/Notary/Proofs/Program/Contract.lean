import Notary.Proofs.Program.Attempt

namespace Notary

/-!
# The terms of a program

Terms say which calls are in order after what came of the calls before, and what may
be noted. That a program meets its terms is a property of its tree; the answers of
the engine are arbitrary there. So every run of the program keeps the terms, against
any engine.
-/

open Journal (Note)

/-- Some calls made after others, with their outcomes. -/
def Engine.transcript (engine : Engine) (history : List Call) : List Call → List Attempt
  | [] => []
  | call :: rest =>
      ⟨call, (engine.reply history call).outcome⟩ ::
        engine.transcript (history ++ [call]) rest

/-- Each outcome in a transcript is the reply of the engine after some calls. -/
theorem Engine.exists_reply_of_mem_transcript
    {engine : Engine}
    {history calls : List Call}
    {attempt : Attempt}
    (member : attempt ∈ engine.transcript history calls) :
    ∃ earlier, attempt.outcome = (engine.reply earlier attempt.call).outcome := by
  induction calls generalizing history with
  | nil =>
      cases member
  | cons call rest inductionHypothesis =>
      rcases List.mem_cons.mp member with rfl | later
      · exact ⟨history, rfl⟩
      · exact inductionHypothesis later

theorem Engine.map_call_transcript
    (engine : Engine)
    (history calls : List Call) :
    (engine.transcript history calls).map (·.call) = calls := by
  induction calls generalizing history with
  | nil =>
      rfl
  | cons call rest inductionHypothesis =>
      rw [transcript, List.map_cons, inductionHypothesis]

/-- The attempts are the part of a transcript that is about cryptographic calls. -/
theorem Engine.attempts_eq_filter
    (engine : Engine)
    (history calls : List Call) :
    engine.attempts history calls =
      (engine.transcript history calls).filter (·.call.isCryptographic) := by
  induction calls generalizing history with
  | nil =>
      rfl
  | cons call rest inductionHypothesis =>
      cases cryptographic : call.isCryptographic with
      | true =>
          simp [attempts, transcript, cryptographic, inductionHypothesis]
      | false =>
          simp [attempts, transcript, cryptographic, inductionHypothesis]

/-- What a program may ask and note. -/
structure Terms where
  /-- Whether a call is in order after the attempts before it. -/
  calls : List Attempt → Call → Prop
  notes : Note → Prop

namespace Program

variable
    {α β : Type}
    {terms : Terms}
    {published : Config.Snapshot}
    {yields : List Attempt → α → Prop}
    {before : List Attempt}

/--
After some attempts, a program only makes calls and notes that are in order, and what it
yields in the end goes with all attempts.
-/
def Meets (terms : Terms) (published : Config.Snapshot) (yields : List Attempt → α → Prop) :
    Program α → List Attempt → Prop
  | done value, before => yields before value
  | rejected _, _ => True
  | note n rest, before => terms.notes n ∧ rest.Meets terms published yields before
  | read next, before => (next published).Meets terms published yields before
  | look rest, before => (rest ()).Meets terms published yields before
  | ask call next, before =>
      terms.calls before call ∧
        ∀ answer,
          (next answer).Meets terms published yields (before ++ [⟨call, .answered answer⟩])

/-- What a program is known to yield may be weakened. -/
theorem Meets.mono
    {weaker : List Attempt → α → Prop}
    {program : Program α}
    (meets : program.Meets terms published yields before)
    (weakens : ∀ later value, yields later value → weaker later value) :
    program.Meets terms published weaker before := by
  induction program generalizing before with
  | done value =>
      exact weakens before value meets
  | rejected rejection =>
      trivial
  | note n rest inductionHypothesis =>
      exact ⟨meets.1, inductionHypothesis meets.2⟩
  | read next inductionHypothesis =>
      exact inductionHypothesis published meets
  | look rest inductionHypothesis =>
      exact inductionHypothesis () meets
  | ask call next inductionHypothesis =>
      exact ⟨meets.1, fun answer => inductionHypothesis answer (meets.2 answer)⟩

/-- A program meets its terms if what comes after its first part does, from there on. -/
theorem Meets.bind
    {yields : List Attempt → β → Prop}
    {program : Program α}
    {next : α → Program β}
    (first :
      program.Meets terms published
        (fun later value => (next value).Meets terms published yields later) before) :
    (program >>= next).Meets terms published yields before := by
  induction program generalizing before with
  | done value =>
      exact first
  | rejected rejection =>
      trivial
  | note n rest inductionHypothesis =>
      exact ⟨first.1, inductionHypothesis first.2⟩
  | read taken inductionHypothesis =>
      exact inductionHypothesis published first
  | look rest inductionHypothesis =>
      exact inductionHypothesis () first
  | ask call answered inductionHypothesis =>
      exact ⟨first.1, fun answer => inductionHypothesis answer (first.2 answer)⟩

/-- A call that is in order meets the terms if what is done with each answer does. -/
theorem Meets.call_bind
    {call : Call}
    {next : call.Answer → Program α}
    (inOrder : terms.calls before call)
    (rest : ∀ answer,
      (next answer).Meets terms published yields (before ++ [⟨call, .answered answer⟩])) :
    (Program.call call >>= next).Meets terms published yields before :=
  ⟨inOrder, rest⟩

/-- Noting things that may be noted meets the terms. -/
theorem Meets.sayAll_bind
    {notes : List Note}
    {next : Unit → Program α}
    (allowed : ∀ n ∈ notes, terms.notes n)
    (rest : (next ()).Meets terms published yields before) :
    (sayAll notes >>= next).Meets terms published yields before := by
  induction notes with
  | nil =>
      exact rest
  | cons n later inductionHypothesis =>
      obtain ⟨allowedFirst, allowedLater⟩ := List.forall_mem_cons.mp allowed
      exact ⟨allowedFirst, inductionHypothesis allowedLater⟩

/-- Every call of a run is in order after the attempts before it. -/
theorem Meets.calls
    {program : Program α}
    (meets : program.Meets terms published yields before)
    (engine : Engine)
    (history : List Call)
    {earlier later : List Attempt}
    {attempt : Attempt}
    (split :
      engine.transcript history (program.runOn published engine history).calls =
        earlier ++ attempt :: later) :
    terms.calls (before ++ earlier) attempt.call := by
  induction program generalizing before history earlier with
  | done value =>
      cases earlier <;> cases split
  | rejected rejection =>
      cases earlier <;> cases split
  | note n rest inductionHypothesis =>
      exact inductionHypothesis meets.2 history split
  | read next inductionHypothesis =>
      exact inductionHypothesis published meets history split
  | look rest inductionHypothesis =>
      exact inductionHypothesis () meets history split
  | ask call next inductionHypothesis =>
      obtain ⟨inOrder, answered⟩ := meets
      cases earlier with
      | nil =>
          obtain ⟨made, asks⟩ := exists_calls_runOn_ask published engine history call next
          rw [asks] at split
          cases split
          rw [List.append_nil]
          exact inOrder
      | cons first earlier =>
          -- There is a later call only after an answer.
          cases outcome : (engine.reply history call).outcome with
          | answered answer =>
              rw [runOn_ask_answered outcome, Run.calling_calls, Engine.transcript,
                outcome] at split
              obtain ⟨rfl, rest⟩ := List.cons_eq_cons.mp split
              rw [List.append_cons]
              exact inductionHypothesis answer (answered answer) (history ++ [call]) rest
          | failed failure =>
              rw [runOn_ask_failed outcome] at split
              obtain ⟨-, rest⟩ := List.cons_eq_cons.mp split
              cases earlier <;> cases rest
          | crashed =>
              rw [runOn_ask_crashed outcome] at split
              obtain ⟨-, rest⟩ := List.cons_eq_cons.mp split
              cases earlier <;> cases rest

/-- What a run yields goes with all attempts that it made. -/
theorem Meets.yields_of_finished
    {program : Program α}
    (meets : program.Meets terms published yields before)
    (engine : Engine)
    (history : List Call)
    {value : α}
    (finished : (program.runOn published engine history).ending = .finished value) :
    yields (before ++ engine.transcript history (program.runOn published engine history).calls)
      value := by
  induction program generalizing before history with
  | done other =>
      cases finished
      rw [runOn, Engine.transcript, List.append_nil]
      exact meets
  | rejected rejection =>
      cases finished
  | note n rest inductionHypothesis =>
      exact inductionHypothesis meets.2 history finished
  | read next inductionHypothesis =>
      exact inductionHypothesis published meets history finished
  | look rest inductionHypothesis =>
      exact inductionHypothesis () meets history finished
  | ask call next inductionHypothesis =>
      cases outcome : (engine.reply history call).outcome with
      | answered answer =>
          rw [runOn_ask_answered outcome] at finished ⊢
          rw [Run.calling_calls, Engine.transcript, outcome, List.append_cons]
          exact inductionHypothesis answer (meets.2 answer) (history ++ [call]) finished
      | failed failure =>
          rw [runOn_ask_failed outcome] at finished
          cases finished
      | crashed =>
          rw [runOn_ask_crashed outcome] at finished
          cases finished

/-- A run only notes what is allowed if that goes for replies and failures as well. -/
theorem Meets.notes
    {program : Program α}
    (meets : program.Meets terms published yields before)
    {engine : Engine}
    (replies : ∀ history call, ∀ n ∈ (engine.reply history call).notes, terms.notes n)
    (failures : ∀ failure : Failure, ∀ n ∈ failure.notes, terms.notes n)
    (history : List Call) :
    ∀ n ∈ (program.runOn published engine history).notes, terms.notes n := by
  induction program generalizing before history with
  | done value =>
      exact List.forall_mem_nil _
  | rejected rejection =>
      exact List.forall_mem_nil _
  | note n rest inductionHypothesis =>
      exact List.forall_mem_cons.mpr ⟨meets.1, inductionHypothesis meets.2 history⟩
  | read next inductionHypothesis =>
      exact inductionHypothesis published meets history
  | look rest inductionHypothesis =>
      exact inductionHypothesis () meets history
  | ask call next inductionHypothesis =>
      cases outcome : (engine.reply history call).outcome with
      | answered answer =>
          rw [runOn_ask_answered outcome]
          exact List.forall_mem_append.mpr
            ⟨replies history call, inductionHypothesis answer (meets.2 answer) _⟩
      | failed failure =>
          rw [runOn_ask_failed outcome]
          exact List.forall_mem_append.mpr ⟨replies history call, failures failure⟩
      | crashed =>
          rw [runOn_ask_crashed outcome]
          exact List.forall_mem_append.mpr ⟨replies history call, List.forall_mem_nil _⟩

end Program

end Notary
