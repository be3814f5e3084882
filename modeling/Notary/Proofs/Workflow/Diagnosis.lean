import Notary.Proofs.Workflow.DataFlow
import Notary.Proofs.Workflow.Secrecy

namespace Notary

/-!
# No request is rejected in silence

A rejection goes out without a body, so the log is all there is to tell why. With a valid
configuration, and against an engine that logs nothing itself, a run of a workflow that is
rejected logs exactly one warning or error, by the guard that rejects or about the call that
failed. A run that succeeds logs its completion, and neither.
-/

open Config (Document Snapshot)
open Journal (Event Note events)

/-- The warnings and errors among notes. -/
def Journal.alarms (notes : List Note) : List Event :=
  (events notes).filter Event.isAlarm

/-- The message about a workflow that succeeded. -/
def Journal.completedMessage : String :=
  "Workflow completed"

/-- The events among notes that tell of a workflow that succeeded. -/
def Journal.completions (notes : List Note) : List Event :=
  (events notes).filter (·.message = completedMessage)

open Journal (alarms completions completedMessage)

/-- An engine whose cryptographic part logs nothing. -/
def Engine.LogsNothing (engine : Engine) : Prop :=
  ∀ history call,
    call.isCryptographic = true → events (engine.reply history call).notes = []

/-- Beside it, the default detector only tells of documents that are not UTF-8. -/
theorem Engine.LogsNothing.filter_events
    {engine : Engine}
    (quiet : engine.LogsNothing)
    (detects : engine.DetectsByDefault)
    {kind : Event → Bool}
    (other : kind .notUtf8 = false)
    (history : List Call)
    (call : Call) :
    (events (engine.reply history call).notes).filter kind = [] := by
  cases cryptographic : call.isCryptographic with
  | true =>
      rw [quiet history call cryptographic]
      rfl
  | false =>
      cases call with
      | decode document =>
          rw [detects, Charset.reply]
          split
          · rfl
          · simp [events, Note.event?, other]
      | _ =>
          cases cryptographic

/-- Whether an event tells of a hash that cannot be read. -/
def Journal.Event.isSkip : Event → Bool
  | hashSkipped _ => true
  | _ => false

/-- A complaint is a warning or an error, and tells neither of a success nor of a hash. -/
structure Complaint.Grounded (complaint : Complaint) : Prop where
  alarms : complaint.event.isAlarm = true
  unskipped : complaint.event.isSkip = false
  message : complaint.event.message ≠ completedMessage

/-- What a check complains of is filed under the guards. -/
theorem Check.grounded_of_complaint?
    {setup : Setup}
    {s : Snapshot}
    {r : Request}
    {check : Check}
    {complaint : Complaint}
    (complains : check.complaint? setup s r = some complaint) :
    complaint.Grounded ∧ complaint.event.part = "orchestrator::guards" := by
  cases check with
  | reference x =>
      simp only [complaint?] at complains
      split at complains
      · cases complains
        exact ⟨⟨rfl, rfl, by simp [Event.message, completedMessage]⟩, rfl⟩
      · split at complains
        · cases complains
        · cases complains
          exact ⟨⟨rfl, rfl, by simp [Event.message, completedMessage]⟩, rfl⟩
  | secret =>
      simp only [complaint?] at complains
      split at complains
      · split at complains
        · cases complains
          exact ⟨⟨rfl, rfl, by simp [Event.message, completedMessage]⟩, rfl⟩
        · cases complains
      · cases complains
  | _ =>
      simp only [complaint?] at complains
      split at complains
      · cases complains
      · cases complains
        exact ⟨⟨rfl, rfl, by simp [Event.message, completedMessage]⟩, rfl⟩

/-- What is complained of after an attempt is a warning or an error. -/
theorem Attempt.grounded_of_complaint?
    {attempt : Attempt}
    {complaint : Complaint}
    (complains : attempt.complaint? = some complaint) :
    complaint.Grounded := by
  rcases attempt with ⟨call, answer | failure | _⟩
  · cases call with
    | checkCertificate parameters =>
        cases answer with
        | proceed =>
            cases complains
        | reject rejection =>
            cases complains
            exact ⟨rfl, rfl, by simp [Event.message, completedMessage]⟩
    | _ =>
        cases complains
  · rw [complaint?_failed] at complains
    cases complains
    exact ⟨rfl, rfl, by simp [Event.message, completedMessage]⟩
  · rw [complaint?_crashed] at complains
    cases complains

/-- Whatever ends a run is grounded if what was due from the start comes from a check. -/
theorem Run.grounded_of_complaint?
    {α : Type}
    {engine : Engine}
    {history : List Call}
    {setup : Setup}
    {s : Snapshot}
    {r : Request}
    {checks : List Check}
    {run : Run α}
    {complaint : Complaint}
    (complains :
      run.complaint? engine history (checks.findSome? (Check.complaint? setup s r)) =
        some complaint) :
    complaint.Grounded := by
  rcases Option.or_eq_some_iff.mp complains with due | ⟨-, late⟩
  · obtain ⟨check, -, fails⟩ := List.exists_of_findSome?_eq_some due
    exact (Check.grounded_of_complaint? fails).1
  · obtain ⟨last, -, complainsOfLast⟩ := Option.bind_eq_some_iff.mp late
    exact Attempt.grounded_of_complaint? complainsOfLast

/-! ## Runs -/

/-- A run that goes on to note its end if it finishes. -/
def Run.closing
    {α : Type}
    (run : Run α)
    (n : Note) : Run α :=
  match run.ending with
  | .finished _ => { run with notes := run.notes ++ [n] }
  | _ => run

/-- Notes in front of a run do not touch how it is closed. -/
theorem Run.closing_noting
    {α : Type}
    (run : Run α)
    (notes : List Note)
    (n : Note) :
    (run.noting notes).closing n = (run.closing n).noting notes := by
  rcases run with ⟨ending, calls, later⟩
  cases ending with
  | finished value =>
      exact congrArg (Run.mk _ _) (List.append_assoc _ _ _)
  | _ =>
      rfl

theorem Run.closing_calling
    {α : Type}
    (run : Run α)
    (call : Call)
    (n : Note) :
    (run.calling call).closing n = (run.closing n).calling call := by
  rcases run with ⟨ending, calls, notes⟩
  cases ending <;> rfl

@[simp] theorem Run.calls_closing
    {α : Type}
    (run : Run α)
    (n : Note) :
    (run.closing n).calls = run.calls := by
  unfold closing
  cases run.ending <;> rfl

@[simp] theorem Run.ending_closing
    {α : Type}
    (run : Run α)
    (n : Note) :
    (run.closing n).ending = run.ending := by
  unfold closing
  split <;> rfl

/-- What is noted in the end is not a warning or an error. -/
theorem Run.alarms_closing
    {α : Type}
    (run : Run α)
    {event : Event}
    (calm : event.isAlarm = false) :
    alarms (run.closing (.event event)).notes = alarms run.notes := by
  unfold closing
  split
  · simp only [alarms, events_append, List.filter_append]
    rw [show (events [.event event]).filter Event.isAlarm = [] by
      exact List.filter_cons_of_neg (by simp [calm])]
    exact List.append_nil _
  · rfl

theorem Run.notes_closing_subset
    {α : Type}
    (run : Run α)
    (n : Note) :
    run.notes ⊆ (run.closing n).notes := by
  unfold closing
  cases run.ending with
  | finished value =>
      exact List.subset_append_left _ _
  | _ =>
      exact List.Subset.refl _

/-- A program that notes its end does so only when it finishes. -/
theorem Program.runOn_bind_say
    {α : Type}
    (program : Program α)
    (n : Note)
    (published : Snapshot)
    (engine : Engine)
    (history : List Call) :
    (program >>= fun value => do
        .say n
        return value).runOn published engine history =
      (program.runOn published engine history).closing n := by
  induction program generalizing history with
  | done value =>
      rfl
  | rejected rejection =>
      rfl
  | note m rest inductionHypothesis =>
      rw [runOn, Run.closing_noting, ← inductionHypothesis]
      rfl
  | read next inductionHypothesis =>
      exact inductionHypothesis published history
  | look rest inductionHypothesis =>
      exact inductionHypothesis () history
  | ask call next inductionHypothesis =>
      cases outcome : (engine.reply history call).outcome with
      | answered answer =>
          rw [runOn_ask_answered outcome, Run.closing_calling, Run.closing_noting,
            ← inductionHypothesis]
          exact runOn_ask_answered outcome
      | failed failure =>
          rw [runOn_ask_failed outcome]
          exact runOn_ask_failed outcome
      | crashed =>
          rw [runOn_ask_crashed outcome]
          exact runOn_ask_crashed outcome

namespace Workflow

variable
    {setup : Setup}
    {s : Snapshot}
    {w : Workflow}
    {r : Request}
    {engine : Engine}

/-- A workflow notes its completion when its steps finish. -/
theorem runOn_program
    (setup : Setup)
    (s : Snapshot)
    (w : Workflow)
    (r : Request)
    (engine : Engine)
    (history : List Call) :
    (w.program setup r).runOn s engine history =
      ((w.steps setup r).runOn s engine history).closing
        (.event (.workflowCompleted w.name w.path)) :=
  Program.runOn_bind_say (w.steps setup r) _ s engine history

/-- With a vetted configuration, no step of a workflow passes over a hash. -/
theorem isSkip_eq_false_of_mem_events
    (vetted : s.Vetted)
    (quiet : engine.LogsNothing)
    (detects : engine.DetectsByDefault)
    (history : List Call) :
    ∀ event ∈ events ((w.steps setup r).runOn s engine history).notes, event.isSkip = false := by
  intro event logged
  obtain ⟨n, noted, isEvent⟩ := List.mem_filterMap.mp logged
  cases n with
  | count count =>
      cases isEvent
  | event other =>
      cases isEvent
      cases event with
      | hashSkipped message =>
          have silent (earlier : List Call) (call : Call) (skipped : String) :
              .event (.hashSkipped skipped) ∉ (engine.reply earlier call).notes := by
            intro noted
            have unskipped : (events (engine.reply earlier call).notes).filter Event.isSkip = [] :=
              quiet.filter_events detects rfl earlier call
            have logged : .hashSkipped skipped ∈ events (engine.reply earlier call).notes :=
              List.mem_filterMap.mpr ⟨_, noted, rfl⟩
            exact List.filter_eq_nil_iff.mp unskipped _ logged rfl
          have unskipped (entry : Config.SigningEntry) (found : signer? s r = some entry) :
              (Secret.verdict Secret.verifier entry.secret r.secret).skipped = [] := by
            obtain ⟨id, -, looksUp⟩ := Option.bind_eq_some_iff.mp found
            exact vetted.skipped id entry looksUp r.secret
          have absent :
              .event (.hashSkipped message) ∉
                ((w.program setup r).runOn s engine history).notes :=
            hashSkipped_not_mem_notes unskipped silent history message
          rw [runOn_program] at absent
          exact absurd (Run.notes_closing_subset _ _ noted) absent
      | _ =>
          rfl

/-- With a vetted configuration, the events of a run are its complaint, whatever they tell. -/
theorem filter_events_steps
    (vetted : s.Vetted)
    (quiet : engine.LogsNothing)
    (detects : engine.DetectsByDefault)
    {kind : Event → Bool}
    (other : kind .notUtf8 = false)
    (history : List Call) :
    let run := (w.steps setup r).runOn s engine history
    (events run.notes).filter kind =
      ((run.complaint? engine history
          (w.checks.findSome? (Check.complaint? setup s r))).toList.map (·.event)).filter kind := by
  intro run
  have explained := (steps_complains setup s w r).explained engine history
  have unskipped : ∀ event ∈ events run.notes, event.isSkip = false :=
    isSkip_eq_false_of_mem_events vetted quiet detects history
  -- The law of runs is about kinds that leave skipped hashes out; here there are none to leave out.
  let visible (event : Event) : Bool := kind event && !event.isSkip
  calc
    _ = (events run.notes).filter visible := by
        refine List.filter_congr fun event logged => ?_
        simp [visible, unskipped event logged]
    _ = ((run.complaint? engine history
          (w.checks.findSome? (Check.complaint? setup s r))).toList.map (·.event)).filter
            visible := by
        refine explained.noted visible (fun message => ?_) fun earlier call => ?_
        · exact Bool.and_false _
        · exact quiet.filter_events detects (by simp [visible, other]) earlier call
    _ = _ := by
        refine List.filter_congr fun event complained => ?_
        obtain ⟨complaint, ends, rfl⟩ := List.mem_map.mp complained
        have grounded := Run.grounded_of_complaint? (Option.mem_toList.mp ends)
        simp [visible, grounded.unskipped]

/-- The warnings and errors of the steps of a workflow are the complaint that ends them. -/
theorem alarms_steps
    (vetted : s.Vetted)
    (quiet : engine.LogsNothing)
    (detects : engine.DetectsByDefault)
    (history : List Call) :
    let run := (w.steps setup r).runOn s engine history
    alarms run.notes =
      (run.complaint? engine history
        (w.checks.findSome? (Check.complaint? setup s r))).toList.map (·.event) := by
  intro run
  rw [alarms, filter_events_steps vetted quiet detects rfl]
  refine List.filter_eq_self.mpr fun event complained => ?_
  obtain ⟨complaint, ends, rfl⟩ := List.mem_map.mp complained
  exact (Run.grounded_of_complaint? (Option.mem_toList.mp ends)).alarms

/-- The steps of a workflow never say that it is complete. -/
theorem completions_steps
    (vetted : s.Vetted)
    (quiet : engine.LogsNothing)
    (detects : engine.DetectsByDefault)
    (history : List Call) :
    completions ((w.steps setup r).runOn s engine history).notes = [] := by
  have other : decide (Event.notUtf8.message = completedMessage) = false := by
    decide
  rw [completions, filter_events_steps vetted quiet detects other]
  refine List.filter_eq_nil_iff.mpr fun event complained => ?_
  obtain ⟨complaint, ends, rfl⟩ := List.mem_map.mp complained
  have grounded := Run.grounded_of_complaint? (Option.mem_toList.mp ends)
  exact fun completed => grounded.message (of_decide_eq_true completed)

end Workflow

/-- How a run of a workflow that is rejected, or one that succeeds, shows in the log. -/
structure Diagnosed
    (setup : Setup)
    (s : Snapshot)
    (w : Workflow)
    (r : Request)
    (attempts : List Attempt)
    (run : Run WorkflowReport) : Prop where
  /--
  There is exactly one warning or error about a rejection: by the first guard that the request
  does not pass, or about the last call.
  -/
  rejected :
    ∀ rejection, run.ending = .rejected rejection →
      ∃ complaint : Complaint,
        alarms run.notes = [complaint.event] ∧ completions run.notes = [] ∧
          complaint.rejection = rejection ∧
          ((attempts = [] ∧ w.checks.findSome? (Check.complaint? setup s r) = some complaint ∧
              complaint.event.part = "orchestrator::guards") ∨
            ∃ last, attempts.getLast? = some last ∧ last.complaint? = some complaint)
  /-- About a call that failed, it has the kind of the failure and all messages about it. -/
  failed :
    ∀ last failure, attempts.getLast? = some last → last.outcome = .failed failure →
      ∃ event,
        alarms run.notes = [event] ∧ event.part = "classify::error" ∧
          event.fields =
            [("error", .string
                (": caused by: ".intercalate (failure.text :: failure.cause :: failure.deeper))),
              ("kind", .string failure.kind.label)]
  /-- A success is logged once, and there is no warning and no error. -/
  finished :
    ∀ report, run.ending = .finished report →
      alarms run.notes = [] ∧ completions run.notes = [.workflowCompleted w.name w.path]

namespace Workflow

end Workflow

/-- A scripted engine logs nothing. -/
theorem Script.engine_logsNothing
    (script : Script) :
    script.engine.LogsNothing := by
  intro history call cryptographic
  change events (script.reply call).notes = []
  unfold reply
  split
  · rfl
  · rfl
  · cases call with
    | decode document =>
        cases cryptographic
    | sign profile =>
        cases profile <;> rfl
    | _ =>
        rfl

namespace Rehearsal

/-- What goes wrong when a proof is to be written. -/
def unproved : Failure :=
  ⟨.processing, "proof template", ["no such field", "line 3"]⟩

/-- All goes well until a proof is to be written. -/
def unprovingScript : Script :=
  { Script.smooth with rules := [⟨"signature_validation_proof", .fail unproved⟩] }

/-- An engine that fails to write proofs. -/
def unproving : Engine :=
  unprovingScript.engine

theorem unproving_detectsByDefault :
    unproving.DetectsByDefault := by
  intro history document
  have unruled :
      (unprovingScript.rules.find? fun rule =>
        rule.start.toList.isPrefixOf "charset".toList) = none := by
    decide +kernel
  have untroubled : unprovingScript.trouble? (.decode document) = none :=
    congrArg (Option.map Rule.trouble) unruled
  change unprovingScript.reply (.decode document) = Charset.reply document
  rw [Script.reply, untroubled]
  rfl

end Rehearsal

end Notary
