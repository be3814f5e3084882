import Notary.Proofs.Program.Contract
import Notary.Proofs.Program.Refusal

namespace Notary

/-!
# Complaints

A complaint is what is noted about a request that is rejected, together with how it is
rejected. A program reports when it rejects only with a complaint that is due, and goes on
only while none is. Then a run notes the complaint that ends it and no other: one that was
due before the first call, or the one about its last call.
-/

open Journal (Event Note events)

/-- Why a request is rejected: what is noted about it, and how. -/
structure Complaint where
  event : Event
  rejection : Rejection
deriving Repr, DecidableEq

/-- What there is to complain of about a call: its failure, or a certificate that is rejected. -/
def Attempt.complaint? : Attempt → Option Complaint
  | ⟨.checkCertificate parameters, .answered (.reject rejection)⟩ =>
      some ⟨.certificateRefused parameters.certificate rejection, rejection⟩
  | ⟨_, .failed failure⟩ => some ⟨.callFailed failure, failure.rejection⟩
  | _ => none

@[simp] theorem Attempt.complaint?_failed
    (call : Call)
    (failure : Failure) :
    Attempt.complaint? ⟨call, .failed failure⟩ =
      some ⟨.callFailed failure, failure.rejection⟩ := by
  cases call <;> rfl

@[simp] theorem Attempt.complaint?_crashed
    (call : Call) :
    Attempt.complaint? ⟨call, .crashed⟩ = none := by
  cases call <;> rfl

namespace Program

variable
    {α β : Type}
    {published : Config.Snapshot}
    {due : Option Complaint}

/--
A program makes the complaint that is due and rejects, or goes on if none is; after a call, the
one about that call is due. Hashes that cannot be read may be noted on the way.
-/
def Reported (published : Config.Snapshot) : Option Complaint → Program α → Prop
  | due, done _ => due = none
  | _, rejected _ => False
  | due, note n rest =>
      (∃ complaint, due = some complaint ∧ n = .event complaint.event ∧
        rest = rejected complaint.rejection) ∨
      ∃ message, n = .event (.hashSkipped message) ∧ rest.Reported published due
  | due, read next => (next published).Reported published due
  | due, look rest => (rest ()).Reported published due
  | due, ask call next =>
      due = none ∧
        ∀ answer, (next answer).Reported published (Attempt.complaint? ⟨call, .answered answer⟩)

/-- Refusing a request makes the complaint that is due. -/
theorem refuse_bind_reported
    (complaint : Complaint)
    (next : α → Program β) :
    (refuse complaint.event complaint.rejection >>= next).Reported published (some complaint) :=
  .inl ⟨complaint, rfl, rfl, rfl⟩

/-- After a part that publishes what it owes, a part that owes nothing may follow. -/
theorem Reported.bind
    {program : Program α}
    {next : α → Program β}
    (first : program.Reported published due)
    (rest : ∀ value, (next value).Reported published none) :
    (program >>= next).Reported published due := by
  induction program generalizing due with
  | done value =>
      rw [show due = none from first]
      exact rest value
  | rejected rejection =>
      exact first.elim
  | note n program inductionHypothesis =>
      refine first.imp ?_ ?_
      · rintro ⟨complaint, isDue, noted, rfl⟩
        exact ⟨complaint, isDue, noted, rfl⟩
      · rintro ⟨message, noted, later⟩
        exact ⟨message, noted, inductionHypothesis later⟩
  | read taken inductionHypothesis =>
      exact inductionHypothesis published first
  | look program inductionHypothesis =>
      exact inductionHypothesis () first
  | ask call answered inductionHypothesis =>
      exact ⟨first.1, fun answer => inductionHypothesis answer (first.2 answer)⟩

/-- An answer that is nothing to complain of lets a program go on. -/
theorem call_bind_reported
    {call : Call}
    {next : call.Answer → Program β}
    (fine : ∀ answer, Attempt.complaint? ⟨call, .answered answer⟩ = none)
    (rest : ∀ answer, (next answer).Reported published none) :
    (Program.call call >>= next).Reported published none := by
  refine ⟨rfl, fun answer => ?_⟩
  rw [fine answer]
  exact rest answer

/-- Noting hashes that cannot be read leaves open what is due. -/
theorem sayAll_bind_bind_reported
    {notes : List Note}
    {program : Unit → Program α}
    {next : α → Program β}
    (skips : ∀ n ∈ notes, ∃ message, n = .event (.hashSkipped message))
    (rest : (program () >>= next).Reported published due) :
    ((sayAll notes >>= program) >>= next).Reported published due := by
  induction notes with
  | nil =>
      exact rest
  | cons n notes inductionHypothesis =>
      obtain ⟨⟨message, noted⟩, later⟩ := List.forall_mem_cons.mp skips
      exact .inr ⟨message, noted, inductionHypothesis later⟩

/-- Before its first call, a program refuses a request with the complaint that is due. -/
theorem Reported.refusal?_eq
    {program : Program α}
    (reported : program.Reported published due) :
    program.refusal? published = due.map (·.rejection) := by
  induction program generalizing due with
  | done value =>
      rw [show due = none from reported]
      rfl
  | rejected rejection =>
      exact reported.elim
  | note n program inductionHypothesis =>
      rcases reported with ⟨complaint, rfl, -, rfl⟩ | ⟨message, -, later⟩
      · rfl
      · exact inductionHypothesis later
  | read taken inductionHypothesis =>
      exact inductionHypothesis published reported
  | look program inductionHypothesis =>
      exact inductionHypothesis () reported
  | ask call answered =>
      rw [reported.1]
      rfl

end Program

/-- The complaint that ends a run: the one due from the start, or the one about its last call. -/
def Run.complaint?
    {α : Type}
    (engine : Engine)
    (history : List Call)
    (due : Option Complaint)
    (run : Run α) : Option Complaint :=
  due.or ((engine.transcript history run.calls).getLast?.bind Attempt.complaint?)

/-- A run notes the complaint that ends it, and rejects as that says. -/
structure Run.Explained
    {α : Type}
    (engine : Engine)
    (history : List Call)
    (due : Option Complaint)
    (run : Run α) : Prop where
  /-- There is no other event of a kind that the engine does not note, nor a skipped hash. -/
  noted :
    ∀ kind : Event → Bool,
      (∀ message, kind (.hashSkipped message) = false) →
      (∀ earlier call, (events (engine.reply earlier call).notes).filter kind = []) →
        (events run.notes).filter kind =
          ((run.complaint? engine history due).toList.map (·.event)).filter kind
  atOnce : due.isSome = true → run.calls = []
  rejected :
    ∀ rejection, run.ending = .rejected rejection →
      ∃ complaint, run.complaint? engine history due = some complaint ∧
        complaint.rejection = rejection
  finished :
    ∀ value, run.ending = .finished value → run.complaint? engine history due = none

theorem events_append
    (first second : List Note) :
    events (first ++ second) = events first ++ events second :=
  List.filterMap_append

/-- After a call that was answered, the complaint about it is due to what follows. -/
theorem Run.complaint?_calling
    {α : Type}
    {engine : Engine}
    {history : List Call}
    {call : Call}
    {answer : call.Answer}
    {run : Run α}
    (answered : (engine.reply history call).outcome = .answered answer)
    (atOnce :
      (Attempt.complaint? ⟨call, .answered answer⟩).isSome = true → run.calls = [])
    (notes : List Note) :
    ((run.noting notes).calling call).complaint? engine history none =
      run.complaint? engine (history ++ [call]) (Attempt.complaint? ⟨call, .answered answer⟩) := by
  have sameCalls : ((run.noting notes).calling call).calls = call :: run.calls :=
    rfl
  rw [complaint?, complaint?, sameCalls, Engine.transcript, answered, Option.none_or]
  cases calls : run.calls with
  | nil =>
      exact (Option.or_none).symm
  | cons next rest =>
      cases complains : Attempt.complaint? ⟨call, .answered answer⟩ with
      | none =>
          rfl
      | some complaint =>
          rw [complains, calls] at atOnce
          cases atOnce rfl

namespace Program

variable
    {α : Type}
    {published : Config.Snapshot}
    {due : Option Complaint}

/-- Against any engine, a run of a program that reports is explained by a complaint. -/
theorem Reported.explained
    {program : Program α}
    (reported : program.Reported published due)
    (engine : Engine)
    (history : List Call) :
    (program.runOn published engine history).Explained engine history due := by
  induction program generalizing due history with
  | done value =>
      rw [show due = none from reported]
      refine ⟨fun _ _ _ => rfl, fun _ => rfl, fun rejection ends => ?_, fun _ _ => rfl⟩
      cases ends
  | rejected rejection =>
      exact reported.elim
  | note n program inductionHypothesis =>
      rcases reported with ⟨complaint, rfl, rfl, rfl⟩ | ⟨message, rfl, later⟩
      · refine ⟨fun _ _ _ => rfl, fun _ => rfl, fun rejection ends => ?_, fun value ends => ?_⟩
        · exact ⟨complaint, rfl, Ending.rejected.inj ends⟩
        · cases ends
      · obtain ⟨noted, atOnce, rejected, finished⟩ := inductionHypothesis later history
        refine ⟨fun kind unskipped silent => ?_, atOnce, rejected, finished⟩
        have skips : kind (.hashSkipped message) ≠ true :=
          Bool.eq_false_iff.mp (unskipped message)
        exact (List.filter_cons_of_neg skips).trans (noted kind unskipped silent)
  | read next inductionHypothesis =>
      exact inductionHypothesis published reported history
  | look rest inductionHypothesis =>
      exact inductionHypothesis () reported history
  | ask call next inductionHypothesis =>
      obtain ⟨rfl, reported⟩ := reported
      cases outcome : (engine.reply history call).outcome with
      | answered answer =>
          obtain ⟨noted, atOnce, rejected, finished⟩ :=
            inductionHypothesis answer (reported answer) (history ++ [call])
          -- What is to complain of about the answer is due to the rest, which then makes no call.
          have sameComplaint := Run.complaint?_calling outcome atOnce
            (engine.reply history call).notes
          rw [runOn_ask_answered outcome]
          refine ⟨fun kind unskipped silent => ?_, fun isDue => Bool.noConfusion isDue, ?_, ?_⟩
          · rw [sameComplaint, ← noted kind unskipped silent]
            simp only [Run.calling, Run.noting, events_append, List.filter_append, silent,
              List.nil_append]
          · rw [sameComplaint]
            exact rejected
          · rw [sameComplaint]
            exact finished
      | failed failure =>
          have complains :
              (((⟨.rejected failure.rejection, [], failure.notes⟩ : Run α).noting
                  (engine.reply history call).notes).calling call).complaint? engine history none =
                some ⟨.callFailed failure, failure.rejection⟩ := by
            simp [Run.complaint?, Run.calling, Run.noting, Engine.transcript, outcome]
          rw [runOn_ask_failed outcome]
          refine ⟨fun kind _ silent => ?_, fun isDue => Bool.noConfusion isDue,
            fun rejection ends => ?_, fun value ends => ?_⟩
          · rw [complains]
            simp only [Run.calling, Run.noting, events_append, List.filter_append, silent,
              List.nil_append]
            rfl
          · exact ⟨_, complains, Ending.rejected.inj ends⟩
          · cases ends
      | crashed =>
          have fine :
              (((⟨.crashed, [], []⟩ : Run α).noting
                  (engine.reply history call).notes).calling call).complaint? engine history none =
                none := by
            simp [Run.complaint?, Run.calling, Run.noting, Engine.transcript, outcome]
          rw [runOn_ask_crashed outcome]
          refine ⟨fun kind _ silent => ?_, fun isDue => Bool.noConfusion isDue,
            fun rejection ends => ?_, fun value ends => ?_⟩
          · rw [fine]
            simp only [Run.calling, Run.noting, List.append_nil, silent]
            rfl
          · cases ends
          · cases ends

end Program

end Notary
