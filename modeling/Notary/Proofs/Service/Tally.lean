import Mathlib.Algebra.BigOperators.Group.List.Basic
import Notary.Proofs.Config.Ledger
import Notary.Proofs.Http.Classification
import Notary.Proofs.Workflow.Counting

namespace Notary

/-!
# The counters balance

Every message that is handled is counted once, by its operation and the status that it was
answered with, and its duration is sampled once. A call of the engine that fails is counted
once more, and the status agrees with its kind. Every reload is counted by what became of
it. Whatever an engine counts by itself comes on top of that. So in any sequence of messages
and reloads, the requests counted under all statuses are the durations sampled.
-/

open Journal (Count Note counts total)

/-- How a request is answered when a call fails in some way. -/
theorem FailureKind.status_mem
    (kind : FailureKind) :
    (kind, kind.rejection.status) ∈
      [(FailureKind.client, 501), (.server, 503), (.processing, 500)] := by
  cases kind <;> decide

namespace Http

theorem map_note_entries
    (span : Option Journal.RequestSpan)
    (notes : List Note) :
    (Journal.entries span notes).map (·.note) = notes := by
  simp [Journal.entries, Function.comp_def]

/-- Names that are not those of fields are noted, and nothing is counted. -/
theorem counts_putPart
    (r : Request)
    (part : Part) :
    counts (putPart r part).2 = [] := by
  unfold putPart
  cases part.name with
  | none =>
      rfl
  | some name =>
      dsimp only
      split
      · rfl
      · unfold Request.setNamed
        split <;> rfl

/-- Reading the parts of a form counts nothing. -/
theorem counts_putParts
    (r : Request)
    (parts : List Part) :
    counts (putParts r parts).2 = [] := by
  induction parts generalizing r with
  | nil =>
      rfl
  | cons part rest inductionHypothesis =>
      rw [putParts, counts_append, counts_putPart, inductionHypothesis]
      rfl

theorem counts_readForm
    (bodyLimit : Nat)
    (m : Message) :
    counts (readForm bodyLimit m).notes = [] := by
  unfold readForm
  split
  · rfl
  · dsimp only
    split
    · exact counts_putParts _ _
    · rw [counts_append, counts_putParts]
      rfl

/--
Beside what the engine counts, handling a request counts the failure of a call; at most one
call fails, and the outcome goes by it.
-/
structure Handling.Accounted
    (engine : Engine)
    (h : Handling) : Prop where
  counted :
    counts (h.log.map (·.note)) =
      counts (engine.notesOver [] h.calls) ++
        (engine.failures [] h.calls).map fun failure => .failure failure.kind
  failed :
    engine.failures [] h.calls = [] ∨
      ∃ failure, engine.failures [] h.calls = [failure] ∧ h.outcome = .error failure.rejection

namespace Handling.Accounted

variable
    {engine : Engine}
    {h : Handling}

/-- Without a call there is nothing to account for. -/
theorem of_uncalled
    (uncalled : h.calls = [])
    (uncounted : counts (h.log.map (·.note)) = []) :
    h.Accounted engine := by
  constructor
  · rw [uncalled, uncounted]
    rfl
  · rw [uncalled]
    exact .inl rfl

/-- An account stays right when entries without counters are added to the journal. -/
theorem after
    (accounted : h.Accounted engine)
    {log : List Journal.Entry}
    (uncounted : counts (log.map (·.note)) = []) :
    (h.after log).Accounted engine := by
  constructor
  · rw [Handling.after, List.map_append, counts_append, uncounted, accounted.counted]
    rfl
  · exact accounted.failed

/-- A run is handled with its calls and counts, and a rejection of it is the outcome. -/
theorem of_run
    {α : Type}
    {run : Run α}
    (counted :
      counts run.notes =
        counts (engine.notesOver [] run.calls) ++
          (engine.transcript [] run.calls).filterMap Attempt.count?)
    (failed :
      engine.failures [] run.calls = [] ∨
        ∃ failure, engine.failures [] run.calls = [failure] ∧
          run.ending = .rejected failure.rejection)
    (span : Journal.RequestSpan)
    (text : α → String) :
    (Handling.ofRun span text run).Accounted engine := by
  have sameCalls : (Handling.ofRun span text run).calls = run.calls := by
    unfold Handling.ofRun
    cases run.ending <;> rfl
  have sameCounts :
      counts ((Handling.ofRun span text run).log.map (·.note)) = counts run.notes := by
    unfold Handling.ofRun
    cases run.ending with
    | crashed =>
        rw [List.map_append, map_note_entries, map_note_entries, counts_append]
        exact List.append_nil _
    | _ =>
        exact congrArg counts (map_note_entries none run.notes)
  constructor
  · rw [sameCalls, sameCounts, counted, Engine.failures, List.map_filterMap]
    exact congrArg (_ ++ ·) (List.filterMap_congr fun attempt _ => attempt.count?_eq)
  · rw [sameCalls]
    rcases failed with unfailing | ⟨failure, only, ends⟩
    · exact .inl unfailing
    · refine .inr ⟨failure, only, ?_⟩
      rw [Handling.ofRun, ends]

end Handling.Accounted

/-- Whatever is asked for, handling it is accounted for. -/
theorem handle_accounted
    (g : Gateway)
    (salt : List UInt8)
    (span : Journal.RequestSpan)
    (m : Message)
    (r : Resource) :
    (handle g salt span m r).Accounted g.engine := by
  cases r with
  | authorities =>
      have own (accept : Option String) : (Workflow.authorities accept).CountsNothing :=
        (Guard.acceptJson_countsNothing accept).bind fun _ _ => trivial
      exact .of_run ((own _).counts_runOn_beside []) (Program.failures_runOn _ []) _ _
  | secretHash =>
      simp only [handle, handleSecret]
      split
      · exact .of_uncalled rfl rfl
      · split <;> exact .of_uncalled rfl rfl
  | status =>
      exact .of_uncalled rfl rfl
  | workflow w =>
      simp only [handle, handleWorkflow]
      have uncounted :
          counts ((Journal.entries (some span)
            (.event (.requestReceived span.requestId w.name) ::
              (readForm g.bodyLimit m).notes)).map (·.note)) = [] := by
        rw [map_note_entries]
        exact counts_readForm g.bodyLimit m
      split
      · exact .after (.of_uncalled rfl rfl) uncounted
      · next request found =>
          have own := Workflow.program_countsNothing g.setup w request
          exact .after
            (.of_run (own.counts_runOn_beside []) (Program.failures_runOn _ []) _ _) uncounted

/-- The status of a response is that of its outcome. -/
theorem status_respond
    (headOnly : Bool)
    (outcome : Except Rejection String) :
    (respond headOnly outcome).status = statusOf outcome := by
  cases outcome <;> rfl

/-- Every outcome has one of the known statuses. -/
theorem statusOf_mem
    (outcome : Except Rejection String) :
    statusOf outcome ∈ 200 :: faultStatuses := by
  cases outcome with
  | ok body =>
      exact List.mem_cons_self
  | error rejection =>
      cases rejection <;> decide

/-- What an exchange about a resource counts. -/
structure Exchange.Accounted
    (engine : Engine)
    (r : Resource)
    (x : Exchange) : Prop where
  counted :
    counts (x.log.map (·.note)) =
      counts (engine.notesOver [] x.calls) ++
        ((engine.failures [] x.calls).map fun failure => .failure failure.kind) ++
          [.request r.operation x.response.status, .duration r.operation]
  failed :
    engine.failures [] x.calls = [] ∨
      ∃ failure, engine.failures [] x.calls = [failure] ∧
        (failure.kind, x.response.status) ∈
          [(FailureKind.client, 501), (.server, 503), (.processing, 500)]
  status : x.response.status ∈ 200 :: faultStatuses

theorem answer_accounted
    {m : Message}
    {r : Resource}
    (leads : m.route = .resource r)
    (g : Gateway)
    (salt : List UInt8)
    (madeUpId : String) :
    (answer g salt madeUpId m).Accounted g.engine r := by
  obtain ⟨counted, failed⟩ :=
    handle_accounted g salt ⟨m.method, m.path, m.requestId madeUpId⟩ m r
  simp only [answer, leads]
  refine ⟨?_, ?_, ?_⟩
  · rw [List.map_append, counts_append, counted, map_note_entries, status_respond]
    rfl
  · rcases failed with unfailing | ⟨failure, only, outcome⟩
    · exact .inl unfailing
    · refine .inr ⟨failure, only, ?_⟩
      rw [status_respond, outcome, statusOf]
      exact failure.kind.status_mem
  · rw [status_respond]
    exact statusOf_mem _

/-- What leads to no resource is not counted. -/
theorem answer_of_no_resource
    {m : Message}
    (leads : ∀ r, m.route ≠ .resource r)
    (g : Gateway)
    (salt : List UInt8)
    (madeUpId : String) :
    (answer g salt madeUpId m).log = [] ∧ (answer g salt madeUpId m).calls = [] := by
  unfold answer
  cases route : m.route with
  | resource r =>
      exact absurd route (leads r)
  | _ =>
      exact ⟨rfl, rfl⟩

end Http

/-! ## Messages and reloads -/

/-- Something that a gateway is put to. -/
inductive Task where
  /-- A message is answered, with the engine that is attached at that time. -/
  | answer (attached : Option Engine) (salt : List UInt8) (madeUpId : String) (m : Http.Message)
  | reload (file : Config.File)

/-- What becomes of a task. -/
inductive Deal where
  /-- A message was handled: with a status, and after the failures of calls. -/
  | handled (operation : String) (status : Nat) (failures : List Failure)
  /-- A message led to no resource. -/
  | unrouted
  /-- The configuration was reloaded, and maybe a new snapshot was published. -/
  | reloaded (published : Bool)

namespace Deal

/-- What is counted about a task, beside what the engine counts. -/
def counts : Deal → List Count
  | handled operation status failures =>
      (failures.map fun failure => .failure failure.kind) ++
        [.request operation status, .duration operation]
  | unrouted => []
  | reloaded published => [.reload published]

/-- A message was handled under the name of an operation. -/
def isOf (operation : String) : Deal → Bool
  | handled name _ _ => name = operation
  | _ => false

/-- A message was handled under the name of an operation and answered with a status. -/
def isAnswered (operation : String) (status : Nat) : Deal → Bool
  | handled name answered _ => name = operation ∧ answered = status
  | _ => false

/-- A message was handled until a call failed in some way. -/
def isFailure (kind : FailureKind) : Deal → Bool
  | handled _ _ failures => failures.any (·.kind = kind)
  | _ => false

/-- The configuration was reloaded, with or without a new snapshot. -/
def isReload (published : Bool) : Deal → Bool
  | reloaded other => other = published
  | _ => false

/--
The status is a known one, and at most one call failed; if one did, the status agrees with the
kind of its failure.
-/
def Sound : Deal → Prop
  | handled _ status failures =>
      status ∈ 200 :: Http.faultStatuses ∧
        (failures = [] ∨
          ∃ failure, failures = [failure] ∧
            (failure.kind, status) ∈
              [(FailureKind.client, 501), (.server, 503), (.processing, 500)])
  | _ => True

end Deal

namespace Gateway

/-- The gateway with the engine that is attached for a message. -/
def attaching (g : Gateway) (attached : Option Engine) : Gateway :=
  { g with attached }

/-- The gateway after a task. -/
def after (g : Gateway) : Task → Gateway
  | .answer .. => g
  | .reload file => (g.reload file).1

/-- What is noted in the course of a task. -/
def notes (g : Gateway) : Task → List Note
  | .answer attached salt madeUpId m =>
      (Http.answer (g.attaching attached) salt madeUpId m).log.map (·.note)
  | .reload file => (g.reload file).2.2

/-- What the engine notes by itself in the course of a task. -/
def engineNotes (g : Gateway) : Task → List Note
  | .answer attached salt madeUpId m =>
      (g.attaching attached).engine.notesOver []
        (Http.answer (g.attaching attached) salt madeUpId m).calls
  | .reload _ => []

/-- What becomes of a task. -/
def deal (g : Gateway) : Task → Deal
  | .answer attached salt madeUpId m =>
      let exchange := Http.answer (g.attaching attached) salt madeUpId m
      match m.route with
      | .resource r =>
          .handled r.operation exchange.response.status
            ((g.attaching attached).engine.failures [] exchange.calls)
      | _ => .unrouted
  | .reload file => .reloaded ((g.reload file).1.store.current.number ≠ g.store.current.number)

/-- What is gathered from tasks, one after another. -/
def gather {α : Type} (gathered : Gateway → Task → List α) (g : Gateway) : List Task → List α
  | [] => []
  | task :: rest => gathered g task ++ gather gathered (g.after task) rest

/-- What becomes of tasks, one after another. -/
def deals (g : Gateway) (tasks : List Task) : List Deal :=
  g.gather (fun g task => [g.deal task]) tasks

/-- A reload publishes exactly when the number of the published snapshot changes. -/
theorem published_eq_number_ne
    (g : Gateway)
    (file : Config.File) :
    (g.store.reload file).published =
      decide ((g.reload file).1.store.current.number ≠ g.store.current.number) := by
  unfold reload Config.Store.reload
  cases Config.Snapshot.load file <;> simp [Config.Store.publish]

/-- Every task is counted by what became of it, beside what the engine counts. -/
theorem counts_notes
    (g : Gateway)
    (task : Task) :
    counts (g.notes task) = counts (g.engineNotes task) ++ (g.deal task).counts ∧
      (g.deal task).Sound := by
  cases task with
  | answer attached salt madeUpId m =>
      cases leads : m.route with
      | resource r =>
          have accounted := Http.answer_accounted leads (g.attaching attached) salt madeUpId
          simp only [notes, engineNotes, deal, leads, Deal.counts, Deal.Sound]
          exact ⟨accounted.counted.trans (List.append_assoc _ _ _), accounted.status,
            accounted.failed⟩
      | _ =>
          have nowhere : ∀ r, m.route ≠ .resource r := by
            rw [leads]
            nofun
          obtain ⟨unlogged, uncalled⟩ :=
            Http.answer_of_no_resource nowhere (g.attaching attached) salt madeUpId
          simp only [notes, engineNotes, deal, leads, unlogged, uncalled]
          exact ⟨rfl, trivial⟩
  | reload file =>
      refine ⟨?_, trivial⟩
      rw [deal, ← published_eq_number_ne]
      exact Config.Store.counts_reload g.store file

/-- Over several tasks, counts are those of the engines and those of what became of each task. -/
theorem total_notes
    (g : Gateway)
    (tasks : List Task)
    (count : Count) :
    total count (g.gather notes tasks) =
      total count (g.gather engineNotes tasks) +
        ((g.deals tasks).flatMap Deal.counts).countP (· = count) := by
  induction tasks generalizing g with
  | nil =>
      rfl
  | cons task rest inductionHypothesis =>
      have here :
          total count (g.notes task) =
            total count (g.engineNotes task) + (g.deal task).counts.countP (· = count) := by
        rw [total, (g.counts_notes task).1, List.countP_append]
        rfl
      have later := inductionHypothesis (g.after task)
      simp only [deals, gather, List.flatMap_append, List.flatMap_singleton, List.countP_append,
        Journal.total_append] at later ⊢
      omega

theorem deals_sound
    (g : Gateway)
    (tasks : List Task) :
    ∀ deal ∈ g.deals tasks, deal.Sound := by
  induction tasks generalizing g with
  | nil =>
      nofun
  | cons task rest inductionHypothesis =>
      exact List.forall_mem_cons.mpr ⟨(g.counts_notes task).2, inductionHypothesis (g.after task)⟩

end Gateway

/-! ## Totals -/

namespace Deal

/-- A counter that each deal increments at most once tells how many deals do. -/
theorem countP_flatMap_counts
    {deals : List Deal}
    {count : Count}
    {increments : Deal → Bool}
    (each : ∀ deal ∈ deals, deal.counts.countP (· = count) = if increments deal then 1 else 0) :
    (deals.flatMap Deal.counts).countP (· = count) = deals.countP increments := by
  induction deals with
  | nil =>
      rfl
  | cons deal rest inductionHypothesis =>
      obtain ⟨here, later⟩ := List.forall_mem_cons.mp each
      rw [List.flatMap_cons, List.countP_append, here, inductionHypothesis later,
        List.countP_cons, Nat.add_comm]

/-- The request that a deal counts is the one that it answered. -/
theorem countP_request
    (deal : Deal)
    (operation : String)
    (status : Nat) :
    deal.counts.countP (· = .request operation status) =
      if deal.isAnswered operation status then 1 else 0 := by
  cases deal <;> simp [counts, isAnswered, List.countP_map, List.countP_cons]

/-- A deal holds one duration for its own operation and none for any other. -/
theorem countP_duration
    (deal : Deal)
    (operation : String) :
    deal.counts.countP (· = .duration operation) = if deal.isOf operation then 1 else 0 := by
  cases deal <;> simp [counts, isOf, List.countP_map, List.countP_cons]

theorem countP_reload
    (deal : Deal)
    (published : Bool) :
    deal.counts.countP (· = .reload published) = if deal.isReload published then 1 else 0 := by
  cases deal <;> simp [counts, isReload, List.countP_map, List.countP_cons]

/-- A sound deal holds one failure of a kind if it ended with it, and none otherwise. -/
theorem Sound.countP_failure
    {deal : Deal}
    (sound : deal.Sound)
    (kind : FailureKind) :
    deal.counts.countP (· = .failure kind) = if deal.isFailure kind then 1 else 0 := by
  cases deal with
  | handled operation status failures =>
      obtain ⟨-, rfl | ⟨failure, rfl, -⟩⟩ := sound
      · simp [counts, isFailure]
      · simp [counts, isFailure, List.countP_cons]
  | _ =>
      simp [counts, isFailure]

/-- Of the known statuses, a message that is handled is answered with one. -/
theorem Sound.sum_isAnswered
    {deal : Deal}
    (sound : deal.Sound)
    (operation : String) :
    ((200 :: Http.faultStatuses).map fun status =>
        if deal.isAnswered operation status then 1 else 0).sum =
      if deal.isOf operation then 1 else 0 := by
  cases deal with
  | handled name status failures =>
      have once : ∀ status ∈ 200 :: Http.faultStatuses,
          ((200 :: Http.faultStatuses).map fun other =>
            if status = other then 1 else 0).sum = 1 := by
        decide
      by_cases same : name = operation
      · simpa only [isAnswered, isOf, same, true_and, decide_true, decide_eq_true_eq, ↓reduceIte]
          using once status sound.1
      · simp [isAnswered, isOf, same]
  | _ =>
      rfl

/-- The answers of an operation, added up over the statuses there are, are its deals. -/
theorem sum_countP_isAnswered
    {deals : List Deal}
    (sound : ∀ deal ∈ deals, deal.Sound)
    (operation : String) :
    ((200 :: Http.faultStatuses).map fun status =>
        deals.countP (·.isAnswered operation status)).sum =
      deals.countP (·.isOf operation) := by
  induction deals with
  | nil =>
      rfl
  | cons deal rest inductionHypothesis =>
      obtain ⟨here, later⟩ := List.forall_mem_cons.mp sound
      simp only [List.countP_cons, List.sum_map_add, inductionHypothesis later,
        here.sum_isAnswered operation]

end Deal

/-- A message that leads to a resource, to be handled under the name of its operation. -/
def Task.isFor (operation : String) : Task → Bool
  | answer _ _ _ m =>
      match m.route with
      | .resource r => r.operation = operation
      | _ => false
  | reload _ => false

theorem Gateway.isOf_deal
    (g : Gateway)
    (task : Task)
    (operation : String) :
    (g.deal task).isOf operation = task.isFor operation := by
  cases task with
  | answer attached salt madeUpId m =>
      cases leads : m.route <;> simp [deal, Task.isFor, Deal.isOf, leads]
  | reload file =>
      rfl

/-- An operation has as many deals as tasks. -/
theorem Gateway.countP_isOf_deals
    (g : Gateway)
    (tasks : List Task)
    (operation : String) :
    (g.deals tasks).countP (·.isOf operation) = tasks.countP (·.isFor operation) := by
  induction tasks generalizing g with
  | nil =>
      rfl
  | cons task rest inductionHypothesis =>
      have later := inductionHypothesis (g.after task)
      simp only [deals] at later
      simp only [deals, gather, List.singleton_append, List.countP_cons, isOf_deal, later]

/-- What the counters tell about tasks, and how they go together. -/
structure Balanced
    (g : Gateway)
    (tasks : List Task) : Prop where
  /-- Every message that is handled is counted once, by its operation and its status. -/
  requests :
    ∀ operation status,
      total (.request operation status) (g.gather Gateway.notes tasks) =
        total (.request operation status) (g.gather Gateway.engineNotes tasks) +
          (g.deals tasks).countP (·.isAnswered operation status)
  /-- Its duration is sampled once. -/
  durations :
    ∀ operation,
      total (.duration operation) (g.gather Gateway.notes tasks) =
        total (.duration operation) (g.gather Gateway.engineNotes tasks) +
          tasks.countP (·.isFor operation)
  /-- Every message that is handled until a call fails is counted once more. -/
  failures :
    ∀ kind,
      total (.failure kind) (g.gather Gateway.notes tasks) =
        total (.failure kind) (g.gather Gateway.engineNotes tasks) +
          (g.deals tasks).countP (·.isFailure kind)
  /-- Every reload is counted once, as the success or the failure that it is. -/
  reloads :
    ∀ published,
      total (.reload published) (g.gather Gateway.notes tasks) =
        total (.reload published) (g.gather Gateway.engineNotes tasks) +
          (g.deals tasks).countP (·.isReload published)
  sound : ∀ deal ∈ g.deals tasks, deal.Sound
  /-- The messages answered with any status are all those that are handled. -/
  answered :
    ∀ operation,
      ((200 :: Http.faultStatuses).map fun status =>
          (g.deals tasks).countP (·.isAnswered operation status)).sum =
        tasks.countP (·.isFor operation)
  /-- Unless an engine counts by itself, totals over statuses are those of the durations. -/
  balance :
    counts (g.gather Gateway.engineNotes tasks) = [] →
      ∀ operation,
        ((200 :: Http.faultStatuses).map fun status =>
            total (.request operation status) (g.gather Gateway.notes tasks)).sum =
          total (.duration operation) (g.gather Gateway.notes tasks)

/-- Whatever a gateway is put to, its counters balance. -/
theorem Gateway.tasks_balanced
    (g : Gateway)
    (tasks : List Task) :
    Balanced g tasks := by
  have sound := g.deals_sound tasks
  have requests (operation : String) (status : Nat) :
      total (.request operation status) (g.gather notes tasks) =
        total (.request operation status) (g.gather engineNotes tasks) +
          (g.deals tasks).countP (·.isAnswered operation status) := by
    rw [total_notes, Deal.countP_flatMap_counts fun deal _ => deal.countP_request operation status]
  have durations (operation : String) :
      total (.duration operation) (g.gather notes tasks) =
        total (.duration operation) (g.gather engineNotes tasks) +
          tasks.countP (·.isFor operation) := by
    rw [total_notes, Deal.countP_flatMap_counts fun deal _ => deal.countP_duration operation,
      countP_isOf_deals]
  have answered (operation : String) :
      ((200 :: Http.faultStatuses).map fun status =>
          (g.deals tasks).countP (·.isAnswered operation status)).sum =
        tasks.countP (·.isFor operation) := by
    rw [Deal.sum_countP_isAnswered sound, countP_isOf_deals]
  refine ⟨requests, durations, fun kind => ?_, fun published => ?_, sound, answered, ?_⟩
  · rw [total_notes, Deal.countP_flatMap_counts fun deal isDeal =>
      (sound deal isDeal).countP_failure kind]
  · rw [total_notes, Deal.countP_flatMap_counts fun deal _ => deal.countP_reload published]
  · intro uncounted operation
    -- An engine may count requests and durations unevenly, so its share has to be nothing.
    have quiet (count : Count) : total count (g.gather engineNotes tasks) = 0 := by
      rw [total, uncounted]
      rfl
    simp only [requests, durations, quiet, Nat.zero_add, answered]

end Notary
