import Mathlib.Data.List.Induction
import Mathlib.Logic.Function.Basic
import Notary.Config.Store
import Notary.Proofs.Workflow.CallPlan

namespace Notary.Traffic

/-!
# Requests in flight while the configuration is reloaded

Any number of requests share one store with whoever reloads it. Reading the store,
each look-up, the start and the end of each call and the response are steps of their
own, and reloads come between any two of them. A workflow reads the store first of all
and never again. So, whatever the order of all these steps, a request does exactly what
it does alone with the snapshot that was published when it read the store.
-/

open Config (File Snapshot Store)
open Journal (Note)

/-- Where a request in flight stands. -/
inductive Stage where
  /-- It has the rest of its program to carry out. -/
  | working (program : Program WorkflowReport)
  /-- A call that it made is running. -/
  | calling (call : Call) (next : call.Answer → Program WorkflowReport)
  /-- Its response is out. -/
  | answered (ending : Ending WorkflowReport)

/-- A request in flight, with the calls that ended and what was noted so far. -/
structure Session where
  workflow : Workflow
  request : Request
  stage : Stage
  ended : List Call
  notes : List Note

namespace Session

/-- A request that has just arrived. -/
def arrive (setup : Setup) (w : Workflow) (r : Request) : Session :=
  ⟨w, r, .working (w.program setup r), [], []⟩

/-- All calls that a request made so far, a running one included. -/
def calls (x : Session) : List Call :=
  match x.stage with
  | .calling call _ => x.ended ++ [call]
  | _ => x.ended

/-- How a request ended, if its response is out. -/
def ending? (x : Session) : Option (Ending WorkflowReport) :=
  match x.stage with
  | .answered ending => some ending
  | _ => none

/-- What the reply to the running call makes of a request. -/
def resume
    (x : Session)
    (call : Call)
    (next : call.Answer → Program WorkflowReport)
    (reply : Reply call.Answer) : Session :=
  match reply.outcome with
  | .answered answer =>
      { x with
        stage := .working (next answer)
        ended := x.ended ++ [call]
        notes := x.notes ++ reply.notes }
  | .failed failure =>
      { x with
        stage := .answered (.rejected failure.rejection)
        ended := x.ended ++ [call]
        notes := x.notes ++ (reply.notes ++ failure.notes) }
  | .crashed =>
      { x with
        stage := .answered .crashed
        ended := x.ended ++ [call]
        notes := x.notes ++ reply.notes }

/-- The next step of a request, with the store as it is at that moment. -/
def step (engine : Engine) (store : Store) (x : Session) : Session :=
  match x.stage with
  | .working (.done report) => { x with stage := .answered (.finished report) }
  | .working (.rejected rejection) => { x with stage := .answered (.rejected rejection) }
  | .working (.note n rest) => { x with stage := .working rest, notes := x.notes ++ [n] }
  | .working (.read next) => { x with stage := .working (next store.current.snapshot) }
  | .working (.look rest) => { x with stage := .working (rest ()) }
  | .working (.ask call next) => { x with stage := .calling call next }
  | .calling call next => x.resume call next (engine.reply x.ended call)
  | .answered _ => x

end Session

/-- The store and the requests in flight, each under a key of its own. -/
structure State where
  store : Store
  sessions : Nat → Option Session

/-- Something that happens while requests are in flight. -/
inductive Move where
  | arrive (key : Nat) (w : Workflow) (r : Request)
  | advance (key : Nat)
  | reload (file : File)
deriving Repr, DecidableEq

namespace State

/-- No request is in flight. -/
def quiet (store : Store) : State :=
  ⟨store, fun _ => none⟩

/-- Put a session under a key. -/
def put (state : State) (key : Nat) (x : Session) : State :=
  { state with sessions := Function.update state.sessions key (some x) }

/-- The state after a move; a key is taken once, and a reload may find anything in the file. -/
def step (setup : Setup) (engine : Engine) (state : State) : Move → State
  | .arrive key w r =>
      match state.sessions key with
      | some _ => state
      | none => state.put key (.arrive setup w r)
  | .advance key =>
      match state.sessions key with
      | some x => state.put key (x.step engine state.store)
      | none => state
  | .reload file => { state with store := (state.store.reload file).store }

/-- The state after moves in order. -/
def run (setup : Setup) (engine : Engine) (state : State) (moves : List Move) : State :=
  moves.foldl (step setup engine) state

end State

namespace Session

/-- A request that will not read the store any more. -/
def ReadFree (x : Session) : Prop :=
  match x.stage with
  | .working program => program.ReadFree
  | .calling _ next => ∀ answer, (next answer).ReadFree
  | .answered _ => True

/-- The run that a request is about to complete while one snapshot is published. -/
def outlook (published : Snapshot) (engine : Engine) (x : Session) : Run WorkflowReport :=
  let after (run : Run WorkflowReport) : Run WorkflowReport :=
    ⟨run.ending, x.ended ++ run.calls, x.notes ++ run.notes⟩
  match x.stage with
  | .working program => after (program.runOn published engine x.ended)
  | .calling call next => after ((Program.ask call next).runOn published engine x.ended)
  | .answered ending => ⟨ending, x.ended, x.notes⟩

/-- The first step of a request reads the store, and no later step will. -/
theorem readFree_step_arrive
    (setup : Setup)
    (engine : Engine)
    (store : Store)
    (w : Workflow)
    (r : Request) :
    ((arrive setup w r).step engine store).ReadFree := by
  obtain ⟨next, reads, guarded⟩ := Workflow.program_readsFirst setup w r
  simp only [arrive, step, reads]
  exact (guarded store.current.snapshot).readFree

/-- Reading the store fixes the outlook: the run of the workflow on the snapshot published now. -/
theorem outlook_step_arrive
    (setup : Setup)
    (engine : Engine)
    (store : Store)
    (w : Workflow)
    (r : Request) :
    ((arrive setup w r).step engine store).outlook store.current.snapshot engine =
      (w.program setup r).runOn store.current.snapshot engine [] := by
  obtain ⟨next, reads, _⟩ := Workflow.program_readsFirst setup w r
  simp only [arrive, step, reads]
  rfl

/-- No step makes a request read the store again. -/
theorem readFree_step
    {x : Session}
    (readFree : x.ReadFree)
    (engine : Engine)
    (store : Store) :
    (x.step engine store).ReadFree := by
  rcases x with ⟨w, r, stage, ended, notes⟩
  cases stage with
  | working program =>
      cases program with
      | read next =>
          exact readFree.elim
      | _ =>
          exact readFree
  | calling call next =>
      simp only [step, resume]
      cases (engine.reply ended call).outcome with
      | answered answer =>
          exact readFree answer
      | _ =>
          trivial
  | answered ending =>
      trivial

/-- The end of a call leaves the outlook as it was. -/
theorem outlook_resume
    (published : Snapshot)
    (engine : Engine)
    (x : Session)
    (call : Call)
    (next : call.Answer → Program WorkflowReport) :
    (x.resume call next (engine.reply x.ended call)).outlook published engine =
      ({ x with stage := .calling call next } : Session).outlook published engine := by
  cases outcome : (engine.reply x.ended call).outcome with
  | answered answer =>
      simp only [resume, outlook, outcome, Program.runOn_ask_answered outcome]
      simp [Run.noting, Run.calling]
  | failed failure =>
      simp only [resume, outlook, outcome, Program.runOn_ask_failed outcome]
      simp [Run.noting, Run.calling]
  | crashed =>
      simp only [resume, outlook, outcome, Program.runOn_ask_crashed outcome]
      simp [Run.noting, Run.calling]

/-- No step after the read changes the outlook, whatever the store holds by then. -/
theorem outlook_step
    {x : Session}
    (readFree : x.ReadFree)
    (published : Snapshot)
    (engine : Engine)
    (store : Store) :
    (x.step engine store).outlook published engine = x.outlook published engine := by
  rcases x with ⟨w, r, stage, ended, notes⟩
  cases stage with
  | working program =>
      cases program with
      | done report =>
          simp [step, outlook, Program.runOn]
      | rejected rejection =>
          simp [step, outlook, Program.runOn]
      | note n rest =>
          simp [step, outlook, Program.runOn, Run.noting]
      | read next =>
          exact readFree.elim
      | look rest =>
          rfl
      | ask call next =>
          rfl
  | calling call next =>
      exact outlook_resume published engine ⟨w, r, .calling call next, ended, notes⟩ call next
  | answered ending =>
      rfl

/-- The calls made so far are the first ones of the run that a request is about to complete. -/
theorem calls_isPrefix_outlook
    (published : Snapshot)
    (engine : Engine)
    (x : Session) :
    x.calls <+: (x.outlook published engine).calls := by
  rcases x with ⟨w, r, stage, ended, notes⟩
  cases stage with
  | working program =>
      exact List.prefix_append _ _
  | calling call next =>
      obtain ⟨later, asked⟩ := Program.exists_calls_runOn_ask published engine ended call next
      refine (List.prefix_append_right_inj ended).mpr ⟨later, ?_⟩
      exact asked.symm
  | answered ending =>
      exact List.prefix_refl _

/-- A request whose response is out has completed its run. -/
theorem outlook_of_ending?
    {x : Session}
    {ending : Ending WorkflowReport}
    (responded : x.ending? = some ending)
    (published : Snapshot)
    (engine : Engine) :
    x.outlook published engine = ⟨ending, x.calls, x.notes⟩ := by
  rcases x with ⟨w, r, stage, ended, notes⟩
  cases stage with
  | answered other =>
      cases responded
      rfl
  | _ =>
      cases responded

/-- A step changes neither the workflow nor the request. -/
theorem step_keeps
    (engine : Engine)
    (store : Store)
    (x : Session) :
    (x.step engine store).workflow = x.workflow ∧
      (x.step engine store).request = x.request := by
  rcases x with ⟨w, r, stage, ended, notes⟩
  cases stage with
  | working program =>
      cases program <;> exact ⟨rfl, rfl⟩
  | calling call next =>
      simp only [step, resume]
      split <;> exact ⟨rfl, rfl⟩
  | answered ending =>
      exact ⟨rfl, rfl⟩

end Session

/--
The steps that a program still takes while one snapshot is published: two for each
call, which starts and ends, and one for everything else, the response included.
-/
def stepsOf (published : Snapshot) (engine : Engine) (history : List Call) :
    Program WorkflowReport → Nat
  | .done _ => 1
  | .rejected _ => 1
  | .note _ rest => stepsOf published engine history rest + 1
  | .read next => stepsOf published engine history (next published) + 1
  | .look rest => stepsOf published engine history (rest ()) + 1
  | .ask call next =>
      match (engine.reply history call).outcome with
      | .answered answer => stepsOf published engine (history ++ [call]) (next answer) + 2
      | .failed _ => 2
      | .crashed => 2

/-- A program has at least the step of its response before it. -/
theorem stepsOf_pos
    (published : Snapshot)
    (engine : Engine)
    (history : List Call)
    (program : Program WorkflowReport) :
    0 < stepsOf published engine history program := by
  cases program with
  | ask call next =>
      unfold stepsOf
      split <;> omega
  | _ =>
      simp [stepsOf]

namespace Session

/-- The steps that a request still takes while one snapshot is published. -/
def stepsLeft (published : Snapshot) (engine : Engine) (x : Session) : Nat :=
  match x.stage with
  | .working program => stepsOf published engine x.ended program
  | .calling call next => stepsOf published engine x.ended (.ask call next) - 1
  | .answered _ => 0

/-- Each step of a request that has read the store brings it nearer to its response. -/
theorem stepsLeft_step
    {x : Session}
    (readFree : x.ReadFree)
    (published : Snapshot)
    (engine : Engine)
    (store : Store) :
    (x.step engine store).stepsLeft published engine = x.stepsLeft published engine - 1 := by
  rcases x with ⟨w, r, stage, ended, notes⟩
  cases stage with
  | working program =>
      cases program with
      | read next =>
          exact readFree.elim
      | _ =>
          rfl
  | calling call next =>
      cases outcome : (engine.reply ended call).outcome <;>
        simp [step, resume, stepsLeft, stepsOf, outcome]
  | answered ending =>
      rfl

/-- A request that has no step left has its response out. -/
theorem exists_ending?_of_stepsLeft_eq_zero
    {published : Snapshot}
    {engine : Engine}
    {x : Session}
    (noneLeft : x.stepsLeft published engine = 0) :
    ∃ ending, x.ending? = some ending := by
  rcases x with ⟨w, r, stage, ended, notes⟩
  cases stage with
  | working program =>
      exact absurd noneLeft (Nat.ne_of_gt (stepsOf_pos published engine ended program))
  | calling call next =>
      have two : 2 ≤ stepsOf published engine ended (.ask call next) := by
        unfold stepsOf
        split <;> omega
      simp only [stepsLeft] at noneLeft
      omega
  | answered ending =>
      exact ⟨ending, rfl⟩

end Session

namespace State

variable
    (setup : Setup)
    (engine : Engine)
    {state : State}
    {key : Nat}

/-- A move takes a request one step further if it advances it, and leaves it alone otherwise. -/
theorem sessions_step_of_some
    {x : Session}
    (inFlight : state.sessions key = some x)
    (move : Move) :
    (state.step setup engine move).sessions key =
      some (if move = .advance key then x.step engine state.store else x) := by
  cases move with
  | arrive other w r =>
      cases taken : state.sessions other with
      | some y =>
          simpa [step, taken] using inFlight
      | none =>
          have different : key ≠ other := by
            intro same
            rw [same, taken] at inFlight
            cases inFlight
          simpa [step, taken, put, different] using inFlight
  | advance other =>
      by_cases same : other = key
      · subst other
        simp [step, inFlight, put]
      · cases taken : state.sessions other with
        | some y =>
            simpa [step, taken, put, same, Ne.symm same] using inFlight
        | none =>
            simpa [step, taken, same] using inFlight
  | reload file =>
      simpa [step] using inFlight

/-- A key that is free before a move and taken after it is taken by a request that arrives. -/
theorem eq_arrive_of_sessions_step
    {move : Move}
    {x : Session}
    (free : state.sessions key = none)
    (inFlight : (state.step setup engine move).sessions key = some x) :
    ∃ w r, x = .arrive setup w r := by
  cases move with
  | arrive other w r =>
      by_cases same : key = other
      · subst other
        simp only [step, free, put, Function.update_self, Option.some.injEq] at inFlight
        exact ⟨w, r, inFlight.symm⟩
      · cases taken : state.sessions other with
        | some y =>
            simp [step, taken, free] at inFlight
        | none =>
            simp [step, taken, put, same, free] at inFlight
  | advance other =>
      by_cases same : key = other
      · subst other
        simp [step, free] at inFlight
      · cases taken : state.sessions other with
        | some y =>
            simp [step, taken, put, same, free] at inFlight
        | none =>
            simp [step, taken, free] at inFlight
  | reload file =>
      simp [step, free] at inFlight

/-- The moves of a run come one after another. -/
theorem run_append
    (first second : List Move) :
    run setup engine state (first ++ second) =
      run setup engine (run setup engine state first) second :=
  List.foldl_append

/-- A request that has read the store keeps on going, and comes nearer to its response. -/
theorem exists_sessions_run
    {x : Session}
    (inFlight : state.sessions key = some x)
    (readFree : x.ReadFree)
    (published : Snapshot)
    (moves : List Move) :
    ∃ y, (run setup engine state moves).sessions key = some y ∧
      y.stepsLeft published engine =
        x.stepsLeft published engine - moves.count (.advance key) := by
  induction moves generalizing state x with
  | nil =>
      exact ⟨x, inFlight, rfl⟩
  | cons move moves inductionHypothesis =>
      have after := sessions_step_of_some setup engine inFlight move
      by_cases own : move = .advance key
      · rw [if_pos own] at after
        obtain ⟨y, present, left⟩ :=
          inductionHypothesis after (Session.readFree_step readFree engine state.store)
        refine ⟨y, present, ?_⟩
        rw [left, Session.stepsLeft_step readFree published engine state.store, own,
          List.count_cons_self]
        omega
      · rw [if_neg own] at after
        obtain ⟨y, present, left⟩ := inductionHypothesis after readFree
        refine ⟨y, present, ?_⟩
        rw [left, List.count_cons_of_ne own]

end State

/-- What a request does alone with a snapshot. -/
def Session.alone
    (setup : Setup)
    (engine : Engine)
    (s : Snapshot)
    (x : Session) : Run WorkflowReport :=
  (x.workflow.program setup x.request).runOn s engine []

/-- A request in flight does what it does alone with a snapshot. -/
structure Session.Follows
    (setup : Setup)
    (engine : Engine)
    (s : Snapshot)
    (x : Session) : Prop where
  /-- The calls made so far are the first ones of the run alone, arguments included. -/
  calls : x.calls <+: (x.alone setup engine s).calls
  /-- Once the response is out, nothing distinguishes the two. -/
  response : ∀ ending, x.ending? = some ending →
    ⟨ending, x.calls, x.notes⟩ = x.alone setup engine s
  /-- Every configuration that a call uses is one of the snapshot. -/
  configurations : ∀ call ∈ x.calls, call.isCryptographic = true →
    ∃ step ∈ x.workflow.plan, x.workflow.Admits s x.request step call

/-- A request whose outlook is the run alone follows that run. -/
theorem Session.Follows.of_outlook
    {setup : Setup}
    {engine : Engine}
    {s : Snapshot}
    {x : Session}
    (outlook : x.outlook s engine = x.alone setup engine s) :
    x.Follows setup engine s where
  calls := by
    rw [← outlook]
    exact Session.calls_isPrefix_outlook s engine x
  response ending responded := by
    rw [← outlook, Session.outlook_of_ending? responded s engine]
  configurations call member := by
    obtain ⟨rest, guarded, sameRun⟩ :=
      (Workflow.program_readsFirst setup x.workflow x.request).exists_guarded s engine []
    have aloneCall : call ∈ (x.outlook s engine).calls :=
      (Session.calls_isPrefix_outlook s engine x).subset member
    rw [outlook, Session.alone, sameRun] at aloneCall
    exact guarded.admits_of_mem_calls [] call aloneCall

/--
A request read the store at one of the moves, will not read it again, and its outlook
is the run alone with the snapshot published then.
-/
def HasRead
    (setup : Setup)
    (engine : Engine)
    (store : Store)
    (moves : List Move)
    (key : Nat)
    (x : Session) : Prop :=
  ∃ earlier later, moves = earlier ++ .advance key :: later ∧
    (State.run setup engine (.quiet store) earlier).sessions key =
      some (.arrive setup x.workflow x.request) ∧
    x.ReadFree ∧
    x.outlook (State.run setup engine (.quiet store) earlier).store.current.snapshot engine =
      x.alone setup engine
        (State.run setup engine (.quiet store) earlier).store.current.snapshot

section

variable
    {setup : Setup}
    {engine : Engine}
    {store : Store}
    {moves : List Move}
    {key : Nat}
    {x : Session}

/-- A request that has read the store has read it whatever else happens. -/
theorem HasRead.concat
    (read : HasRead setup engine store moves key x)
    (move : Move) :
    HasRead setup engine store (moves ++ [move]) key x := by
  obtain ⟨earlier, later, split, reading, readFree, outlook⟩ := read
  exact ⟨earlier, later ++ [move], by simp [split], reading, readFree, outlook⟩

/-- A request that has read the store still has when it goes on. -/
theorem HasRead.step
    (read : HasRead setup engine store moves key x)
    (now : Store) :
    HasRead setup engine store moves key (x.step engine now) := by
  obtain ⟨earlier, later, split, reading, readFree, outlook⟩ := read
  obtain ⟨sameWorkflow, sameRequest⟩ := Session.step_keeps engine now x
  refine ⟨earlier, later, split, ?_, Session.readFree_step readFree engine now, ?_⟩
  · rw [sameWorkflow, sameRequest]
    exact reading
  · rw [Session.outlook_step readFree, outlook, Session.alone, Session.alone, sameWorkflow,
      sameRequest]

/-- The first step of a request reads the store. -/
theorem HasRead.of_arrive
    {w : Workflow}
    {r : Request}
    (arrived : (State.run setup engine (.quiet store) moves).sessions key =
      some (.arrive setup w r)) :
    HasRead setup engine store (moves ++ [.advance key]) key
      ((Session.arrive setup w r).step engine
        (State.run setup engine (.quiet store) moves).store) := by
  obtain ⟨sameWorkflow, sameRequest⟩ := Session.step_keeps engine
    (State.run setup engine (.quiet store) moves).store (.arrive setup w r)
  refine ⟨moves, [], rfl, ?_, Session.readFree_step_arrive setup engine _ w r, ?_⟩
  · rw [sameWorkflow, sameRequest]
    exact arrived
  · rw [Session.outlook_step_arrive, Session.alone, sameWorkflow, sameRequest]
    rfl

end

/-- After any moves, a request in flight has not read the store yet, or it has. -/
theorem arrived_or_hasRead
    (setup : Setup)
    (engine : Engine)
    (store : Store)
    (moves : List Move)
    {key : Nat}
    {x : Session}
    (inFlight : (State.run setup engine (.quiet store) moves).sessions key = some x) :
    x = .arrive setup x.workflow x.request ∨ HasRead setup engine store moves key x := by
  induction moves using List.reverseRecOn generalizing x with
  | nil =>
      cases inFlight
  | append_singleton moves move inductionHypothesis =>
      rw [State.run_append] at inFlight
      cases before : (State.run setup engine (.quiet store) moves).sessions key with
      | none =>
          obtain ⟨w, r, rfl⟩ := State.eq_arrive_of_sessions_step setup engine before inFlight
          exact .inl rfl
      | some y =>
          have after := State.sessions_step_of_some setup engine before move
          have found := inFlight.symm.trans after
          by_cases own : move = .advance key
          · rw [if_pos own] at found
            cases found
            right
            rcases inductionHypothesis before with arrived | read
            · rw [own, arrived]
              rw [arrived] at before
              exact .of_arrive before
            · exact (read.concat move).step _
          · rw [if_neg own] at found
            cases found
            exact (inductionHypothesis before).imp_right fun read => read.concat move

/--
What isolation is for a request in flight after moves. It has not read the store
yet; or it follows the run that it does alone with the snapshot published when it
read the store, and a number of its own steps takes it to its response, whatever
else happens in between.
-/
def Isolated
    (setup : Setup)
    (engine : Engine)
    (store : Store)
    (moves : List Move)
    (key : Nat)
    (x : Session) : Prop :=
  x = .arrive setup x.workflow x.request ∨
    ∃ earlier later, moves = earlier ++ .advance key :: later ∧
      (State.run setup engine (.quiet store) earlier).sessions key =
        some (.arrive setup x.workflow x.request) ∧
      x.Follows setup engine
        (State.run setup engine (.quiet store) earlier).store.current.snapshot ∧
      ∃ enough, ∀ more : List Move, enough ≤ more.count (.advance key) →
        ∃ y ending,
          (State.run setup engine (.quiet store) (moves ++ more)).sessions key = some y ∧
            y.ending? = some ending

/-- After any moves, every request in flight is isolated from the reloads. -/
theorem session_isolated
    (setup : Setup)
    (engine : Engine)
    (store : Store)
    (moves : List Move)
    {key : Nat}
    {x : Session}
    (inFlight : (State.run setup engine (.quiet store) moves).sessions key = some x) :
    Isolated setup engine store moves key x := by
  rcases arrived_or_hasRead setup engine store moves inFlight with
    arrived | ⟨earlier, later, split, reading, readFree, outlook⟩
  · exact .inl arrived
  · refine .inr ⟨earlier, later, split, reading, .of_outlook outlook,
      x.stepsLeft store.current.snapshot engine, ?_⟩
    intro more enough
    obtain ⟨y, present, left⟩ :=
      State.exists_sessions_run setup engine inFlight readFree store.current.snapshot more
    have noneLeft : y.stepsLeft store.current.snapshot engine = 0 := by
      omega
    obtain ⟨ending, responded⟩ := Session.exists_ending?_of_stepsLeft_eq_zero noneLeft
    refine ⟨y, ending, ?_, responded⟩
    rw [State.run_append]
    exact present

/-- A request during whose first call the configuration is replaced by an empty one. -/
def rehearsal : List Move :=
  .arrive 0 (.signWithProof .xades) Rehearsal.request ::
    List.replicate 5 (.advance 0) ++
      .reload (.bytes [123, 125]) :: List.replicate 12 (.advance 0)

/-- The store before the replacement. -/
def rehearsalStore : Store :=
  .ofSnapshot "conf.json" Rehearsal.snapshot

/-- The store and the request in the end. -/
def rehearsed : State :=
  .run Rehearsal.setup Rehearsal.engine (.quiet rehearsalStore) rehearsal

/-- The request whose configurations are gone before its first call ends still makes five calls. -/
theorem session_isolated_replaced :
    ∃ x, rehearsed.sessions 0 = some x ∧
      Isolated Rehearsal.setup Rehearsal.engine rehearsalStore rehearsal 0 x ∧
      x.calls.length = 5 ∧
      x.ending? = some (.rejected .serviceUnavailable) ∧
      rehearsed.store.current.snapshot.signature? "1" = none := by
  have course : (rehearsed.sessions 0).map (fun x => (x.calls.length, x.ending?)) =
      some (5, some (.rejected .serviceUnavailable)) := by
    decide +kernel
  obtain ⟨x, inFlight, outcome⟩ := Option.map_eq_some_iff.mp course
  obtain ⟨five, refused⟩ := Prod.mk.inj outcome
  exact ⟨x, inFlight,
    session_isolated Rehearsal.setup Rehearsal.engine rehearsalStore rehearsal inFlight,
    five, refused, by decide +kernel⟩

end Notary.Traffic
