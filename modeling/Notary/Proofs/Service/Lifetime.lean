import Notary.Proofs.Config.Validity
import Notary.Proofs.Config.Watching
import Notary.Proofs.Workflow.DataFlow

namespace Notary

/-!
# Only valid configurations, for the whole life of a process

Over its life a process opens stores, reloads them, has them watched and holds
snapshots of them, while their files change in any way. A snapshot only ever comes
from a text that was accepted. So whatever is published or held, at any time, passed
validation, and those who look configurations up need no checks of their own.
-/

open Config (File Snapshot Store)
open Config.Watching (Move)

/-- The stores that were opened, each with its file and its watch, and the snapshots held. -/
structure Lifetime where
  stores : List Config.Watching.State
  held : List Snapshot

/-- Something that happens in the life of a process. Stores are numbered from zero. -/
inductive Lifetime.Event where
  /-- A store is opened on what is in its file at that moment. -/
  | openFile (path : String) (file : File)
  /-- A store is set up around the snapshot of a text, whatever is in its file. -/
  | adopt (path : String) (text : List Char) (file : File)
  /-- The file of a store changes, or its watch goes on. -/
  | watch (position : Nat) (move : Move)
  | reload (position : Nat)
  /-- The snapshot that a store publishes is taken, and held from there on. -/
  | hold (position : Nat)
deriving Repr, DecidableEq

/-- Reload a store beside its watch. -/
def Config.Watching.State.reload (state : Config.Watching.State) : Config.Watching.State :=
  let reload := state.watcher.store.reload state.file
  { state with
    watcher := { state.watcher with store := reload.store }
    notes := state.notes ++ reload.notes }

namespace Lifetime

/-- A process that has just begun. -/
def begin : Lifetime :=
  ⟨[], []⟩

/--
One more store, with its watch about to begin. A watch that cannot be established is
one that takes no step.
-/
def withStore (life : Lifetime) (store : Store) (file : File) : Lifetime :=
  { life with stores := life.stores ++ [.start store file] }

/-- What comes of an event. There is no store if it cannot be opened. -/
def step (life : Lifetime) : Event → Lifetime
  | .openFile path file =>
      match (Store.ofFile path file).1 with
      | .ok store => life.withStore store file
      | .error _ => life
  | .adopt path text file =>
      match Snapshot.ofText text with
      | .ok snapshot => life.withStore (.ofSnapshot path snapshot) file
      | .error _ => life
  | .watch position move =>
      { life with stores := life.stores.modify position (·.step move) }
  | .reload position => { life with stores := life.stores.modify position (·.reload) }
  | .hold position =>
      match life.stores[position]? with
      | some state => { life with held := life.held ++ [state.watcher.store.current.snapshot] }
      | none => life

/-- What comes of events in order. -/
def run (life : Lifetime) (events : List Event) : Lifetime :=
  events.foldl step life

/-- The snapshots that are published or held. -/
def snapshots (life : Lifetime) : List Snapshot :=
  life.stores.map (·.watcher.store.current.snapshot) ++ life.held

end Lifetime

namespace Config.Watching.State

/--
A watched store that publishes an accepted snapshot. What it has loaded but not yet
published is accepted as well.
-/
structure Genuine (state : State) : Prop where
  published : state.watcher.store.current.snapshot.Accepted
  settling : ∀ snapshot, state.phase = .settling (.ok snapshot) → snapshot.Accepted

variable
    {state next : State}

/-- A step that neither publishes nor is about to publish changes nothing. -/
theorem Genuine.of_store_eq
    (genuine : state.Genuine)
    (same : next.watcher.store = state.watcher.store)
    (unsettled : ∀ loaded, next.phase = .settling loaded → state.phase = .settling loaded) :
    next.Genuine where
  published := by
    rw [same]
    exact genuine.published
  settling snapshot about := genuine.settling snapshot (unsettled _ about)

/-- What a reload loads is accepted, and what it keeps was. -/
theorem accepted_of_settle
    {store : Store}
    {loaded : Except LoadFault Snapshot}
    (published : store.current.snapshot.Accepted)
    (loads : ∀ snapshot, loaded = .ok snapshot → snapshot.Accepted) :
    (store.settle loaded).store.current.snapshot.Accepted := by
  cases loaded with
  | ok snapshot =>
      exact loads snapshot rfl
  | error fault =>
      exact published

/-- A look at the stop flag publishes nothing. -/
theorem Genuine.poll
    (genuine : state.Genuine) :
    state.poll.Genuine := by
  unfold State.poll
  split
  · exact genuine.of_store_eq rfl nofun
  · exact genuine.of_store_eq rfl nofun

theorem Genuine.take
    (genuine : state.Genuine) :
    state.take.Genuine := by
  unfold State.take
  split
  · exact genuine.of_store_eq rfl nofun
  · exact genuine.of_store_eq rfl nofun

theorem Genuine.examine
    (genuine : state.Genuine)
    (notice : Notice) :
    (state.examine notice).Genuine := by
  unfold State.examine
  cases tracked : isTracked state.watcher.fileName notice with
  | true =>
      exact genuine.of_store_eq rfl nofun
  | false =>
      refine genuine.of_store_eq (receive_of_not_isTracked tracked state.file).1 ?_
      intro loaded about
      simp only [Bool.false_eq_true, ↓reduceIte] at about
      split at about <;> cases about

/-- What was loaded is published only if it was accepted. -/
theorem Genuine.settle
    (genuine : state.Genuine)
    {loaded : Except LoadFault Snapshot}
    (phase : state.phase = .settling loaded) :
    (state.settle loaded).Genuine := by
  refine ⟨accepted_of_settle genuine.published fun snapshot loads => ?_, nofun⟩
  exact genuine.settling snapshot (by rw [phase, loads])

/-- A step of the watcher publishes only what it loaded from the file. -/
theorem Genuine.advance
    (genuine : state.Genuine) :
    state.advance.Genuine := by
  cases phase : state.phase with
  | polling =>
      simp only [State.advance, phase]
      exact genuine.poll
  | waiting =>
      simp only [State.advance, phase]
      exact genuine.take
  | taken notice =>
      simp only [State.advance, phase]
      exact genuine.examine notice
  | reading =>
      simp only [State.advance, phase]
      refine genuine.of_store_eq rfl ?_
      intro loaded about
      cases about
  | parsing file =>
      simp only [State.advance, phase]
      refine ⟨genuine.published, fun snapshot about => ?_⟩
      exact Snapshot.accepted_of_load (Phase.settling.inj about)
  | settling loaded =>
      simp only [State.advance, phase]
      exact genuine.settle phase
  | ended =>
      simp only [State.advance, phase]
      exact genuine

/-- A move leaves a watched store genuine. -/
theorem Genuine.step
    (genuine : state.Genuine)
    (move : Move) :
    (state.step move).Genuine := by
  cases move with
  | replace file =>
      exact genuine.of_store_eq rfl fun _ => id
  | notify reported =>
      show (state.notify reported).Genuine
      unfold notify
      split
      · exact genuine.of_store_eq rfl fun _ => id
      · exact genuine
  | intrude notice =>
      exact genuine.of_store_eq rfl fun _ => id
  | requestStop =>
      exact genuine.of_store_eq rfl fun _ => id
  | advance =>
      exact genuine.advance

/-- A reload beside the watch leaves a watched store genuine. -/
theorem Genuine.reload
    (genuine : state.Genuine) :
    state.reload.Genuine :=
  ⟨accepted_of_settle genuine.published fun _ => Snapshot.accepted_of_load, genuine.settling⟩

/-- The watch of a store that publishes an accepted snapshot begins genuine. -/
theorem Genuine.start
    {store : Store}
    (published : store.current.snapshot.Accepted)
    (file : File) :
    (start store file).Genuine := by
  have kept : (Watcher.start store none).watcher.store = store := by
    unfold Watcher.start
    cases fileName? store.path <;> rfl
  refine ⟨?_, fun snapshot about => ?_⟩
  · rw [State.start, kept]
    exact published
  · simp only [State.start] at about
    split at about <;> cases about

end Config.Watching.State

namespace Lifetime

/-- Nothing but accepted snapshots is published or held. -/
structure Genuine (life : Lifetime) : Prop where
  stores : ∀ state ∈ life.stores, state.Genuine
  held : ∀ snapshot ∈ life.held, snapshot.Accepted

/-- What holds of all members of a list still does after one of them is changed accordingly. -/
theorem forall_mem_modify
    {α : Type}
    {p : α → Prop}
    {change : α → α}
    (keeps : ∀ member, p member → p (change member))
    {members : List α}
    (all : ∀ member ∈ members, p member)
    (position : Nat) :
    ∀ member ∈ members.modify position change, p member := by
  intro member inside
  obtain ⟨index, found⟩ := List.mem_iff_getElem?.mp inside
  rw [List.getElem?_modify] at found
  obtain ⟨before, wasThere, rfl⟩ := Option.map_eq_some_iff.mp found
  have kept := all before (List.mem_of_getElem? wasThere)
  split
  · exact keeps before kept
  · exact kept

/-- A store whose snapshot is accepted may take the place of the one before it. -/
theorem Genuine.withStore
    {life : Lifetime}
    (genuine : life.Genuine)
    {store : Store}
    (published : store.current.snapshot.Accepted)
    (file : File) :
    (life.withStore store file).Genuine where
  stores := by
    unfold Lifetime.withStore
    rw [List.forall_mem_append, List.forall_mem_singleton]
    exact ⟨genuine.stores, .start published file⟩
  held := genuine.held

/-- Every event leaves a process genuine. -/
theorem Genuine.step
    {life : Lifetime}
    (genuine : life.Genuine)
    (event : Event) :
    (life.step event).Genuine := by
  cases event with
  | openFile path file =>
      cases loaded : Snapshot.load file with
      | ok snapshot =>
          simp only [Lifetime.step, Store.ofFile, loaded]
          exact genuine.withStore (Snapshot.accepted_of_load loaded) file
      | error fault =>
          simp only [Lifetime.step, Store.ofFile, loaded]
          exact genuine
  | adopt path text file =>
      cases read : Snapshot.ofText text with
      | ok snapshot =>
          simp only [Lifetime.step, read]
          exact genuine.withStore ⟨text, read⟩ file
      | error fault =>
          simp only [Lifetime.step, read]
          exact genuine
  | watch position move =>
      refine ⟨?_, genuine.held⟩
      exact forall_mem_modify (fun _ watched => watched.step move) genuine.stores position
  | reload position =>
      refine ⟨?_, genuine.held⟩
      exact forall_mem_modify (fun _ watched => watched.reload) genuine.stores position
  | hold position =>
      cases opened : life.stores[position]? with
      | some state =>
          simp only [Lifetime.step, opened]
          refine ⟨genuine.stores, ?_⟩
          rw [List.forall_mem_append, List.forall_mem_singleton]
          exact ⟨genuine.held, (genuine.stores state (List.mem_of_getElem? opened)).published⟩
      | none =>
          simp only [Lifetime.step, opened]
          exact genuine

/-- Whatever happens, a process stays genuine. -/
theorem Genuine.run
    {life : Lifetime}
    (genuine : life.Genuine)
    (events : List Event) :
    (life.run events).Genuine := by
  induction events generalizing life with
  | nil =>
      exact genuine
  | cons event rest inductionHypothesis =>
      exact inductionHypothesis (genuine.step event)

/-- Every snapshot of a genuine life is accepted, the published one and the held ones alike. -/
theorem Genuine.accepted
    {life : Lifetime}
    (genuine : life.Genuine)
    {s : Snapshot}
    (member : s ∈ life.snapshots) :
    s.Accepted := by
  rcases List.mem_append.mp member with published | held
  · obtain ⟨state, opened, rfl⟩ := List.mem_map.mp published
    exact (genuine.stores state opened).published
  · exact genuine.held s held

end Lifetime

/-- On behalf of requests that see a snapshot, no hash is ever noted as skipped. -/
def Config.Snapshot.SkipsNothing (s : Snapshot) : Prop :=
  ∀ engine : Engine,
    (∀ history call message,
      .event (.hashSkipped message) ∉ (engine.reply history call).notes) →
        ∀ history setup (w : Workflow) r message,
          .event (.hashSkipped message) ∉ ((w.program setup r).runOn s engine history).notes

/-- No request passes over a hash of a snapshot whose hashes can all be read. -/
theorem Config.Snapshot.skipsNothing
    {s : Snapshot}
    (vetted : s.Vetted) :
    s.SkipsNothing := by
  intro engine quiet history setup w r message
  refine Workflow.hashSkipped_not_mem_notes (fun entry found => ?_) quiet history message
  obtain ⟨id, -, looksUp⟩ := Option.bind_eq_some_iff.mp found
  exact vetted.skipped id entry looksUp r.secret

namespace Lifetime

/--
Whatever files, stores and watches go through over the life of a process, every
snapshot that is published or held came from an accepted text, keeps what validation
guarantees in all lookups, and makes no request pass over a hash.
-/
theorem vetted_of_mem_snapshots
    (events : List Event)
    {s : Snapshot}
    (member : s ∈ (begin.run events).snapshots) :
    s.Accepted ∧ s.Vetted ∧ s.SkipsNothing := by
  have genuine : (begin.run events).Genuine :=
    Genuine.run ⟨List.forall_mem_nil _, List.forall_mem_nil _⟩ events
  have accepted := genuine.accepted member
  exact ⟨accepted, accepted.vetted, Config.Snapshot.skipsNothing accepted.vetted⟩

/-- A configuration for validating signatures. -/
def rehearsalFile : File :=
  .bytes
    ("\x7b\"signatureVerification\":" ++
      "[\x7b\"id\":\"1\",\"rules\":\"a, b\"\x7d]\x7d").toUTF8.toList

/-- A configuration for validating signatures is replaced by an empty one while it is held. -/
def rehearsal : List Event :=
  [.openFile "conf.json" rehearsalFile, .hold 0, .watch 0 (.replace .absent), .reload 0,
    .watch 0 (.replace (.bytes [123, 125])), .reload 0,
    .adopt "other.json" ['\x7b', '\x7d'] .absent]

/-- The configuration that is held still has its rules when it is published no more. -/
theorem vetted_of_mem_snapshots_held :
    ∃ s ∈ (begin.run rehearsal).snapshots,
      (s.signatureVerification? "1").map (·.parameters.ruleList) = some ["a", "b"] ∧
        (s.Accepted ∧ s.Vetted ∧ s.SkipsNothing) := by
  have listed :
      (begin.run rehearsal).snapshots.map
          (fun s => (s.signatureVerification? "1").map (·.parameters.ruleList)) =
        [none, none, some ["a", "b"]] := by
    decide +kernel
  have among :
      some ["a", "b"] ∈
        (begin.run rehearsal).snapshots.map
          (fun s => (s.signatureVerification? "1").map (·.parameters.ruleList)) := by
    rw [listed]
    decide
  obtain ⟨s, member, found⟩ := List.mem_map.mp among
  exact ⟨s, member, found, vetted_of_mem_snapshots rehearsal member⟩

end Lifetime

end Notary
