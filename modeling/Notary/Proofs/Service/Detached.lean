import Notary.Lifecycle.Startup
import Notary.Proofs.Config.Reload
import Notary.Proofs.Workflow.Counting
import Notary.Proofs.Workflow.Outcome

namespace Notary

/-!
# Gateways without an engine

A gateway starts without an engine. Then every cryptographic call fails as the server's
fault, so no workflow gets beyond its first one: a request that passes all guards finds
the service unavailable, any other request is refused as ever. Only the authorities are
listed, from the configuration that is published.
-/

open Journal (counts)

/-- Reload the configuration of a gateway for each file. -/
def Gateway.reloads (g : Gateway) (files : List Config.File) : Gateway :=
  files.foldl (fun g file => (g.reload file).1) g

/-- Reloads change nothing about a gateway but its store. -/
theorem Gateway.reloads_eq
    (g : Gateway)
    (files : List Config.File) :
    g.reloads files = { g with store := g.store.reloads files } := by
  induction files generalizing g with
  | nil =>
      rfl
  | cons file files inductionHypothesis =>
      exact inductionHypothesis (g.reload file).1

namespace Offline

variable
    {authorities : List String}

/--
The engine that is not there still finds the type of a document, as every engine does by default.
-/
theorem engine_detectsByDefault :
    (engine authorities).DetectsByDefault :=
  fun _ _ => rfl

theorem engine_countsNothing :
    (engine authorities).CountsNothing := by
  intro history call
  cases call with
  | decode document =>
      change counts (Charset.reply document).notes = []
      unfold Charset.reply
      split <;> rfl
  | _ =>
      rfl

/-- Whatever call a step makes, the engine that is not there fails it. -/
theorem outcome_of_admits
    {w : Workflow}
    {s : Config.Snapshot}
    {r : Request}
    {step : Step}
    {call : Call}
    (admits : w.Admits s r step call) :
    (reply authorities call).outcome = .failed failure := by
  cases admits <;> rfl

end Offline

/-- Where every planned call fails, a course is over with the first one. -/
theorem Course.exists_failed
    {σ α : Type}
    {admits : σ → Call → Prop}
    {plan : List σ}
    {attempts : List Attempt}
    {ending : Ending α}
    {failure : Failure}
    (course : Course admits plan attempts ending)
    (planned : plan ≠ [])
    (fails : ∀ step, ∀ attempt ∈ attempts,
      admits step attempt.call → attempt.outcome = .failed failure) :
    ∃ call, attempts = [⟨call, .failed failure⟩] ∧ ending = .rejected failure.rejection := by
  cases course with
  | finished value =>
      exact (planned rfl).elim
  | @stopped step plan attempt ending admitted stops =>
      obtain ⟨call, rfl⟩ :=
        Attempt.exists_eq_of_failed (fails step attempt List.mem_cons_self admitted)
      rw [Attempt.stop?_failed] at stops
      cases stops
      exact ⟨call, rfl, rfl⟩
  | @onward step plan attempt attempts ending admitted succeeded _ =>
      obtain ⟨call, rfl⟩ :=
        Attempt.exists_eq_of_failed (fails step attempt List.mem_cons_self admitted)
      rw [← Attempt.stop?_eq_none_iff (α := α), Attempt.stop?_failed] at succeeded
      cases succeeded

namespace Gateway

variable
    {g : Gateway}
    {w : Workflow}
    {r : Request}

/--
Without an attached engine the gateway asks the one that is not there, with the authorities of the
active configuration.
-/
theorem engine_of_detached
    (detached : g.attached = none) :
    g.engine = Offline.engine g.snapshot.authorityIds := by
  rw [engine, detached]
  rfl

/-- Without an engine the first planned call ends a run. -/
theorem run_of_passes
    (detached : g.attached = none)
    (passes : w.Passes g.setup g.snapshot r) :
    (g.run w r).ending = .rejected .serviceUnavailable ∧
      counts (g.run w r).notes = [.failure .server] := by
  let offline := Offline.engine g.snapshot.authorityIds
  have detects : offline.DetectsByDefault := Offline.engine_detectsByDefault
  rw [run, engine_of_detached detached,
    Workflow.counts_run detects Offline.engine_countsNothing]
  rcases Workflow.run_refused_or_course detects [] g.setup g.snapshot w r with
    ⟨rejection, refuses, _⟩ | ⟨_, course⟩
  · rw [Workflow.refusal?_eq_none_iff.mpr passes] at refuses
    cases refuses
  · have fails (step : Step) (attempt : Attempt)
        (attempted :
          attempt ∈ offline.attempts []
            ((w.program g.setup r).runOn g.snapshot offline []).calls)
        (admits : w.Admits g.snapshot r step attempt.call) :
        attempt.outcome = .failed Offline.failure := by
      rw [Engine.attempts_eq_filter] at attempted
      obtain ⟨earlier, replied⟩ :=
        Engine.exists_reply_of_mem_transcript (List.mem_of_mem_filter attempted)
      exact replied.trans (Offline.outcome_of_admits admits)
    obtain ⟨call, attempts, ending⟩ := course.exists_failed w.plan_ne_nil fails
    rw [attempts, ending]
    exact ⟨rfl, rfl⟩

/-- A request that does not pass the guards is refused, and nothing is counted. -/
theorem run_of_not_passes
    (detached : g.attached = none)
    (fails : ¬ w.Passes g.setup g.snapshot r) :
    ∃ rejection ∈ Workflow.checkRejections,
      (g.run w r).ending = .rejected rejection ∧ counts (g.run w r).notes = [] := by
  rw [← Workflow.refusal?_eq_none_iff] at fails
  obtain ⟨rejection, refuses⟩ := Option.ne_none_iff_exists'.mp fails
  obtain ⟨uncalled, ending⟩ :=
    Workflow.run_of_refusal? refuses (Offline.engine g.snapshot.authorityIds) []
  refine ⟨rejection, Workflow.mem_checkRejections refuses, ?_⟩
  rw [run, engine_of_detached detached,
    Workflow.counts_run Offline.engine_detectsByDefault Offline.engine_countsNothing, uncalled]
  exact ⟨ending, rfl⟩

/-- Whoever accepts JSON is told the ids of the authorities that are configured now. -/
theorem authorities_of_detached
    (detached : g.attached = none)
    {accepted : String}
    (json : Guard.jsonMediaType.toList <:+: accepted.toList) :
    (g.authorities (some accepted)).ending = .finished (g.snapshot.document.ca.map (·.id)) := by
  have allowed : Guard.allowsJson (some accepted) = true :=
    (Text.occurs_iff _ _).mpr json
  rw [authorities, engine_of_detached detached, Workflow.authorities, Guard.acceptJson,
    if_pos allowed]
  change ((Program.ask .listAuthorities Program.done).runOn _ _ _).ending = _
  rw [Program.runOn_ask_answered rfl]
  rfl

end Gateway

/-- How a request for a workflow ends at a gateway without an engine. -/
structure EndsDetached (g : Gateway) (w : Workflow) (r : Request) : Prop where
  unavailable_iff :
    (g.run w r).ending = .rejected .serviceUnavailable ↔ w.Passes g.setup g.snapshot r
  refused :
    ¬ w.Passes g.setup g.snapshot r →
      ∃ rejection ∈ Workflow.checkRejections, (g.run w r).ending = .rejected rejection
  neverFinished : ∀ report, (g.run w r).ending ≠ .finished report
  neverBroken : (g.run w r).ending ≠ .rejected .internalServerError
  /-- One failure is counted if the service is unavailable, and otherwise none. -/
  counted :
    counts (g.run w r).notes =
      if (g.run w r).ending = .rejected .serviceUnavailable then [.failure .server] else []

theorem EndsDetached.of_detached
    {g : Gateway}
    (detached : g.attached = none)
    (w : Workflow)
    (r : Request) :
    EndsDetached g w r := by
  by_cases passes : w.Passes g.setup g.snapshot r
  · obtain ⟨ending, counted⟩ := Gateway.run_of_passes detached passes
    exact
      { unavailable_iff := iff_of_true ending passes
        refused := fun fails => absurd passes fails
        neverFinished := by rw [ending]; nofun
        neverBroken := by rw [ending]; nofun
        counted := by rw [counted, if_pos ending] }
  · obtain ⟨rejection, isCheck, ending, counted⟩ := Gateway.run_of_not_passes detached passes
    have available : (g.run w r).ending ≠ .rejected .serviceUnavailable := by
      rw [ending]
      rintro same
      cases same
      exact absurd isCheck (by decide)
    exact
      { unavailable_iff := iff_of_false available passes
        refused := fun _ => ⟨rejection, isCheck, ending⟩
        neverFinished := by rw [ending]; nofun
        neverBroken := by
          rw [ending]
          rintro same
          cases same
          exact absurd isCheck (by decide)
        counted := by rw [counted, if_neg available] }

/--
A gateway as it is started has no engine. With any settings, and after any reloads of its
configuration, a workflow is unavailable exactly for the requests that pass its guards, and
refuses all others. The authorities are those of the last valid configuration.
-/
theorem Lifecycle.gatewayOf_endsDetached
    (settings : Settings)
    (store : Config.Store)
    (files : List Config.File)
    (w : Workflow)
    (r : Request) :
    let g := (gatewayOf settings store).reloads files
    EndsDetached g w r ∧
      g.snapshot = Config.lastValid store.current.snapshot files ∧
      ∀ accepted : String, Guard.jsonMediaType.toList <:+: accepted.toList →
        (g.authorities (some accepted)).ending =
          .finished (g.snapshot.document.ca.map (·.id)) := by
  intro g
  have reloaded : g = { gatewayOf settings store with store := store.reloads files } :=
    Gateway.reloads_eq _ files
  have detached : g.attached = none := by
    rw [reloaded]
    rfl
  have published : g.snapshot = Config.lastValid store.current.snapshot files := by
    rw [reloaded]
    exact store.snapshot_reloads files
  refine ⟨.of_detached detached w r, published, ?_⟩
  intro accepted json
  exact Gateway.authorities_of_detached detached json

end Notary
