import Notary.Proofs.Config.Turns

namespace Notary.Config.Watching

/-!
# Reloads have causes, and a watch that is stopped ends

Whatever comes between the steps of the watcher, each reload directly follows the taking
of a change of the file, and no such change is taken without its reload. Once it is asked
to stop, the watcher takes at most one more notice; and once it has ended, it does nothing
any more.
-/

/-- What the holder of the handle of a watch may do with it. -/
inductive HandleUse where
  | stop
  /-- Stop the watch, and wait until it has ended. -/
  | join
  /-- Let go of the handle. -/
  | drop
deriving Repr, DecidableEq

/-- Every use of the handle begins with a request to stop. -/
def HandleUse.move : HandleUse → Move
  | stop | join | drop => .requestStop

/-- Whatever is done with the handle, the watcher is asked to stop. -/
theorem HandleUse.move_eq
    (use : HandleUse) :
    use.move = .requestStop := by
  cases use <;> rfl

/-- Whether a deed is a reload, or takes a change that the watcher of a file reloads for. -/
def Deed.concerns (fileName : String) : Deed → Bool
  | take notice => isTracked fileName notice
  | reload => true

/-- Whether the turn under way is one that reloads the file. -/
def Phase.reloads (fileName : String) : Phase → Bool
  | .taken notice => isTracked fileName notice
  | .reading | .parsing _ | .settling _ => true
  | .polling | .waiting | .ended => false

/--
Whether the turns before and after a step reload, by what was done in it: a turn becomes one
that reloads by the notice that it takes, until the reload is over.
-/
def Turns (fileName : String) (before after : Bool) : Option Deed → Prop
  | none => after = before
  | some (.take notice) => before = false ∧ after = isTracked fileName notice
  | some .reload => before = true ∧ after = false

/-- A turn reloads if the notice that it takes is about the file, until the reload is over. -/
theorem Passes.turns
    {watcher after : Watcher}
    {phase next : Phase}
    {deed : Option Deed}
    (passes : Passes watcher phase deed after next) :
    Turns watcher.fileName
      (phase.reloads watcher.fileName) (next.reloads watcher.fileName) deed := by
  cases passes with
  | react tracked =>
      exact tracked.symm
  | dismiss untracked =>
      exact untracked.symm
  | quit untracked =>
      exact untracked.symm
  | take notice =>
      exact ⟨rfl, rfl⟩
  | settle loaded =>
      exact ⟨rfl, rfl⟩
  | _ =>
      rfl

/-- A notice is tracked when it is a change that concerns the file. -/
theorem exists_change_of_isTracked
    {fileName : String}
    {notice : Notice}
    (tracked : isTracked fileName notice = true) :
    ∃ change, notice = .change change ∧ change.concerns fileName = true := by
  cases notice with
  | change change =>
      exact ⟨change, rfl, tracked⟩
  | _ =>
      cases tracked

/-- The taking of changes that each cause a reload; that of the last may still be owed. -/
def deedsAbout (causes : List Change) (owed : Option Change) : List Deed :=
  causes.flatMap (fun change => [.take (.change change), .reload]) ++
    owed.toList.map fun change => .take (.change change)

/-- One more deed is a notice passed over, a cause, or the reload that is owed. -/
theorem exists_deedsAbout_concat
    {fileName : String}
    {deeds : List Deed}
    {causes : List Change}
    {owed : Option Change}
    {deed : Option Deed}
    {after : Bool}
    (listed : deeds.filter (·.concerns fileName) = deedsAbout causes owed)
    (turns : Turns fileName owed.isSome after deed) :
    ∃ causes owed,
      (deeds ++ deed.toList).filter (·.concerns fileName) = deedsAbout causes owed ∧
        after = owed.isSome := by
  rw [List.filter_append, listed]
  cases deed with
  | none =>
      exact ⟨causes, owed, List.append_nil _, turns⟩
  | some deed =>
      cases deed with
      | take notice =>
          obtain ⟨idle, taken⟩ := turns
          obtain rfl : owed = none := by
            simpa using idle
          cases tracked : isTracked fileName notice with
          | true =>
              obtain ⟨change, rfl, concerned⟩ := exists_change_of_isTracked tracked
              refine ⟨causes, some change, ?_, taken.trans tracked⟩
              simp [deedsAbout, Deed.concerns, tracked]
          | false =>
              refine ⟨causes, none, ?_, taken.trans tracked⟩
              simp [Deed.concerns, tracked]
      | reload =>
          obtain ⟨busy, idle⟩ := turns
          obtain ⟨change, rfl⟩ := Option.isSome_iff_exists.mp busy
          refine ⟨causes ++ [change], none, ?_, idle⟩
          simp [deedsAbout, Deed.concerns]

namespace State

/-- The watcher looks for the same file name all the time. -/
theorem fileName_run
    (state : State)
    (moves : List Move) :
    (state.run moves).watcher.fileName = state.watcher.fileName := by
  induction moves generalizing state with
  | nil =>
      rfl
  | cons move rest inductionHypothesis =>
      exact (inductionHypothesis (state.step move)).trans (state.step_watcher move).1

/-- What comes between the steps of the watcher does not change what its turn will do. -/
theorem turns_step
    (state : State)
    (move : Move) :
    Turns state.watcher.fileName (state.phase.reloads state.watcher.fileName)
      ((state.step move).phase.reloads state.watcher.fileName) (state.deed? move) := by
  by_cases isStep : move = .advance
  · subst isStep
    exact state.advance_passes.turns
  · obtain ⟨idle, samePhase, -⟩ := state.step_of_ne_advance isStep
    rw [idle, samePhase]
    rfl

/-- From a turn that does not reload on, each reload follows the taking of its cause. -/
theorem exists_deedsAbout
    {state : State}
    (free : state.phase.reloads state.watcher.fileName = false)
    (moves : List Move) :
    ∃ causes owed,
      (state.deeds moves).filter (·.concerns state.watcher.fileName) = deedsAbout causes owed ∧
        (state.run moves).phase.reloads state.watcher.fileName = owed.isSome := by
  -- By the last move: what it does depends on the turn that the moves before it led to.
  induction moves using List.reverseRecOn with
  | nil =>
      exact ⟨[], none, rfl, free⟩
  | append_singleton moves move inductionHypothesis =>
      obtain ⟨causes, owed, listed, reloading⟩ := inductionHypothesis
      have turns := (state.run moves).turns_step move
      rw [state.fileName_run, reloading] at turns
      rw [deeds_concat, run_append]
      exact exists_deedsAbout_concat listed turns

end State

/-! ## What is still to come -/

/-- How many steps of the watcher it takes to the end of the reload under way. -/
def Phase.toReload : Phase → Nat
  | .taken _ => 4
  | .reading => 3
  | .parsing _ => 2
  | .settling _ => 1
  | .polling | .waiting | .ended => 0

/-- How many notices the watcher still takes once it is asked to stop. -/
def Phase.takesLeft : Phase → Nat
  | .waiting => 1
  | _ => 0

/-- How many reloads the watcher still comes to the end of once it is asked to stop. -/
def Phase.reloadsLeft : Phase → Nat
  | .polling | .ended => 0
  | _ => 1

/-- How many steps the watcher still makes once it is asked to stop. -/
def Phase.stepsLeft : Phase → Nat
  | .waiting => 6
  | .taken _ => 5
  | .reading => 4
  | .parsing _ => 3
  | .settling _ => 2
  | .polling => 1
  | .ended => 0

/-- In a turn that reloads, each step comes nearer to the end of the reload. -/
theorem Passes.toReload
    {watcher after : Watcher}
    {phase next : Phase}
    {deed : Option Deed}
    (passes : Passes watcher phase deed after next)
    (reloading : phase.reloads watcher.fileName = true) :
    deed = some .reload ∨
      deed = none ∧ next.reloads watcher.fileName = true ∧ next.toReload + 1 = phase.toReload := by
  cases passes with
  | react tracked =>
      exact .inr ⟨rfl, rfl, rfl⟩
  | dismiss untracked =>
      exact absurd reloading (Bool.eq_false_iff.mp untracked)
  | quit untracked =>
      exact absurd reloading (Bool.eq_false_iff.mp untracked)
  | read file =>
      exact .inr ⟨rfl, rfl, rfl⟩
  | parse file =>
      exact .inr ⟨rfl, rfl, rfl⟩
  | settle loaded =>
      exact .inl rfl
  | _ =>
      cases reloading

/-- With the stop flag set, each step uses up what the watcher has left. -/
theorem Passes.left
    {watcher after : Watcher}
    {phase next : Phase}
    {deed : Option Deed}
    (passes : Passes watcher phase deed after next)
    (stopped : watcher.stopRequested = true) :
    deed.toList.countP Deed.isTake + next.takesLeft ≤ phase.takesLeft ∧
      deed.toList.count .reload + next.reloadsLeft ≤ phase.reloadsLeft ∧
        next.stepsLeft ≤ phase.stepsLeft - 1 := by
  cases passes with
  | wait goesOn =>
      rw [goesOn] at stopped
      cases stopped
  | _ =>
      simp [Deed.isTake, Phase.takesLeft, Phase.reloadsLeft, Phase.stepsLeft]

/-- A reload takes four steps at most after the notice is taken. -/
theorem Phase.toReload_le
    (phase : Phase) :
    phase.toReload ≤ 4 := by
  cases phase <;> simp [Phase.toReload]

/-- In any phase there is little left once the watcher is asked to stop. -/
theorem Phase.left_le
    (phase : Phase) :
    phase.takesLeft ≤ 1 ∧ phase.reloadsLeft ≤ 1 ∧ phase.stepsLeft ≤ 6 := by
  cases phase <;> simp [Phase.takesLeft, Phase.reloadsLeft, Phase.stepsLeft]

theorem Phase.stepsLeft_eq_zero
    {phase : Phase}
    (nothingLeft : phase.stepsLeft = 0) :
    phase = .ended := by
  cases phase with
  | ended =>
      rfl
  | _ =>
      cases nothingLeft

theorem Phase.toReload_pos
    {phase : Phase}
    {fileName : String}
    (reloading : phase.reloads fileName = true) :
    0 < phase.toReload := by
  cases phase with
  | polling | waiting | ended =>
      cases reloading
  | _ =>
      exact Nat.succ_pos _

namespace State

/-- A reload that is owed is the next thing that the watcher does. -/
theorem head?_deeds_of_reloads
    {state : State}
    (reloading : state.phase.reloads state.watcher.fileName = true)
    {later : List Move}
    (enough : state.phase.toReload ≤ later.count .advance) :
    (state.deeds later).head? = some .reload := by
  induction later generalizing state with
  | nil =>
      exact absurd (Phase.toReload_pos reloading) (Nat.not_lt.mpr enough)
  | cons move rest inductionHypothesis =>
      have sameName := (state.step_watcher move).1
      by_cases isStep : move = .advance
      · subst isStep
        rcases state.advance_passes.toReload reloading with ends | ⟨idle, goesOn, nearer⟩
        · rw [deeds, ends]
          rfl
        · rw [deeds, idle]
          refine inductionHypothesis (sameName.symm ▸ goesOn) ?_
          rw [List.count_cons_self, ← nearer] at enough
          exact Nat.le_of_succ_le_succ enough
      · obtain ⟨idle, samePhase, -⟩ := state.step_of_ne_advance isStep
        rw [deeds, idle]
        rw [List.count_cons_of_ne isStep, ← samePhase] at enough
        refine inductionHypothesis ?_ enough
        rw [sameName, samePhase]
        exact reloading

/-- What the watcher still does once it is asked to stop. -/
structure WindsDown (state : State) (later : List Move) : Prop where
  takes : (state.deeds later).countP Deed.isTake ≤ state.phase.takesLeft
  reloads : (state.deeds later).count .reload ≤ state.phase.reloadsLeft
  steps : (state.run later).phase.stepsLeft ≤ state.phase.stepsLeft - later.count .advance

/-- Each step uses up what is left, and other moves leave it as it is. -/
theorem windsDown_of_stopRequested
    {state : State}
    (stopped : state.watcher.stopRequested = true)
    (later : List Move) :
    state.WindsDown later := by
  induction later generalizing state with
  | nil =>
      exact ⟨Nat.zero_le _, Nat.zero_le _, Nat.le_refl _⟩
  | cons move rest inductionHypothesis =>
      have stillStopped := (state.step_watcher move).2.mpr (.inl stopped)
      obtain ⟨takes, reloads, steps⟩ := inductionHypothesis stillStopped
      by_cases isStep : move = .advance
      · subst isStep
        have same : (state.step .advance).phase = state.advance.phase :=
          rfl
        obtain ⟨takesHere, reloadsHere, stepsHere⟩ := state.advance_passes.left stopped
        rw [same] at takes reloads steps
        refine ⟨?_, ?_, ?_⟩
        · rw [deeds, List.countP_append]
          omega
        · rw [deeds, List.count_append]
          omega
        · rw [List.count_cons_self]
          exact Nat.le_trans steps (by omega)
      · obtain ⟨idle, samePhase, -⟩ := state.step_of_ne_advance isStep
        rw [samePhase] at takes reloads steps
        refine ⟨?_, ?_, ?_⟩
        · rw [deeds, idle]
          exact takes
        · rw [deeds, idle]
          exact reloads
        · rw [List.count_cons_of_ne isStep]
          exact steps

/-- A watch that has ended does nothing, whatever else happens. -/
theorem rests_of_ended
    {state : State}
    (atEnd : state.phase = .ended)
    (later : List Move) :
    state.deeds later = [] ∧ (state.run later).phase = .ended ∧
      (state.run later).watcher.store = state.watcher.store := by
  induction later generalizing state with
  | nil =>
      exact ⟨rfl, atEnd, rfl⟩
  | cons move rest inductionHypothesis =>
      by_cases isStep : move = .advance
      · subst isStep
        have still : state.step .advance = state := by
          simp only [step, advance, atEnd]
        have idle : state.deed? .advance = none := by
          simp only [deed?, atEnd]
        have stillRuns : state.run (.advance :: rest) = state.run rest :=
          congrArg (run · rest) still
        rw [deeds, idle, still, stillRuns]
        exact inductionHypothesis atEnd
      · obtain ⟨idle, samePhase, -⟩ := state.step_of_ne_advance isStep
        have sameStore := (state.kept_of_ne_advance isStep).1
        obtain ⟨nothing, atEnd, kept⟩ := inductionHypothesis (samePhase.trans atEnd)
        rw [deeds, idle, nothing]
        exact ⟨rfl, atEnd, kept.trans sameStore⟩

end State

/-! ## What a watch has come through -/

/-- The reasons for which a watch ends. -/
inductive EndReason
    (store : Store)
    (refused : Option String)
    (moves : List Move)
    (deeds : List Deed) : Prop where
  /-- The path has no file name. -/
  | unnamed (nameless : fileName? store.path = none)
  /-- The watch could not be established. -/
  | refused (error : String) (reason : refused = some error)
  | stopped (requested : .requestStop ∈ moves)
  | closed (taken : .take .closed ∈ deeds)

/-- What was a reason to end stays one. -/
theorem EndReason.mono
    {store : Store}
    {refused : Option String}
    {moves : List Move}
    {deeds : List Deed}
    (reason : EndReason store refused moves deeds)
    (moreMoves : List Move)
    (moreDeeds : List Deed) :
    EndReason store refused (moves ++ moreMoves) (deeds ++ moreDeeds) := by
  cases reason with
  | unnamed nameless =>
      exact .unnamed nameless
  | refused error reason =>
      exact .refused error reason
  | stopped requested =>
      exact .stopped (List.mem_append_left _ requested)
  | closed taken =>
      exact .closed (List.mem_append_left _ taken)

/-- What the moves and deeds since its beginning tell of a watch. -/
structure Traced
    (store : Store)
    (refused : Option String)
    (moves : List Move)
    (deeds : List Deed)
    (watcher : Watcher)
    (phase : Phase) : Prop where
  /-- Every change of the store is a reload, and every reload is one of a file. -/
  reloaded :
    ∃ files, watcher.store = store.reloads files ∧ files.length = deeds.count .reload
  settling : ∀ loaded, phase = .settling loaded → ∃ file, loaded = Snapshot.load file
  stopped : watcher.stopRequested = true ↔ .requestStop ∈ moves
  taken : ∀ notice, phase = .taken notice → notice = .idle ∨ .take notice ∈ deeds
  ended : phase = .ended ∨ watcher.running = false → EndReason store refused moves deeds

namespace Traced

variable
    {store : Store}
    {refused : Option String}
    {moves : List Move}
    {deeds : List Deed}
    {watcher after : Watcher}
    {phase next : Phase}
    {deed : Option Deed}

/-- A watch that goes on in another phase, without a deed. -/
theorem goesOn
    (traced : Traced store refused moves deeds watcher phase)
    (settling : ∀ loaded, next = .settling loaded → ∃ file, loaded = Snapshot.load file)
    (taken : ∀ notice, next = .taken notice → notice = .idle)
    (lasts : next ≠ .ended) :
    Traced store refused moves deeds watcher next where
  reloaded := traced.reloaded
  settling := settling
  stopped := traced.stopped
  taken notice about := .inl (taken notice about)
  ended atEnd := traced.ended (.inr (atEnd.resolve_left lasts))

/-- A watch that ends has a reason. -/
theorem finishes
    (traced : Traced store refused moves deeds watcher phase)
    (reason : EndReason store refused moves deeds) :
    Traced store refused moves deeds watcher.finish.watcher .ended where
  reloaded := traced.reloaded
  settling := nofun
  stopped := traced.stopped
  taken := nofun
  ended _ := reason

/-- To take a notice is no reload; if it says that nothing will come, it is a reason to end. -/
theorem takes
    (traced : Traced store refused moves deeds watcher .waiting)
    (notice : Notice) :
    Traced store refused moves (deeds ++ [.take notice]) watcher (.taken notice) where
  reloaded := by
    obtain ⟨files, reloaded, counted⟩ := traced.reloaded
    exact ⟨files, reloaded, by simpa using counted⟩
  settling := nofun
  stopped := traced.stopped
  taken other about := by
    cases about
    exact .inr (List.mem_append_right _ (List.mem_singleton_self _))
  ended atEnd := by
    have reason := traced.ended (.inr (atEnd.resolve_left nofun))
    simpa using reason.mono [] [.take notice]

/-- The end of a reload is one more reload of the store, of the file that was read. -/
theorem settles
    {loaded : Except LoadFault Snapshot}
    (traced : Traced store refused moves deeds watcher (.settling loaded)) :
    Traced store refused moves (deeds ++ [.reload])
      { watcher with store := (watcher.store.settle loaded).store } .polling where
  reloaded := by
    obtain ⟨files, reloaded, counted⟩ := traced.reloaded
    obtain ⟨file, rfl⟩ := traced.settling loaded rfl
    refine ⟨files ++ [file], ?_, by simp [counted]⟩
    rw [Store.reloads_concat, ← reloaded]
    rfl
  settling := nofun
  stopped := traced.stopped
  taken := nofun
  ended atEnd := by
    have reason := traced.ended (.inr (atEnd.resolve_left nofun))
    simpa using reason.mono [] [.reload]

/-- A step of the watcher adds its deed. -/
theorem passes
    (traced : Traced store refused moves deeds watcher phase)
    (passes : Passes watcher phase deed after next) :
    Traced store refused moves (deeds ++ deed.toList) after next := by
  cases passes with
  | take notice =>
      exact traced.takes notice
  | settle loaded =>
      exact traced.settles
  | heed stop =>
      rw [Option.toList_none, List.append_nil]
      exact traced.finishes (.stopped (traced.stopped.mp stop))
  | quit untracked atEnd =>
      rw [Option.toList_none, List.append_nil]
      rcases atEnd with finished | rfl
      · exact traced.finishes (traced.ended (.inr finished))
      · have taken := (traced.taken .closed rfl).resolve_left nofun
        exact traced.finishes (.closed taken)
  | weary =>
      rw [Option.toList_none, List.append_nil]
      exact traced.goesOn nofun (fun _ same => (Phase.taken.inj same).symm) nofun
  | parse file =>
      rw [Option.toList_none, List.append_nil]
      exact traced.goesOn (fun _ same => ⟨file, (Phase.settling.inj same).symm⟩) nofun nofun
  | rest =>
      rw [Option.toList_none, List.append_nil]
      exact traced
  | _ =>
      rw [Option.toList_none, List.append_nil]
      exact traced.goesOn nofun nofun nofun

/-- Every move adds to the trace of a watch what it did. -/
theorem step
    {state : State}
    (traced : Traced store refused moves deeds state.watcher state.phase)
    (move : Move) :
    Traced store refused (moves ++ [move]) (deeds ++ (state.deed? move).toList)
      (state.step move).watcher (state.step move).phase := by
  have stopped :
      (state.step move).watcher.stopRequested = true ↔ .requestStop ∈ moves ++ [move] := by
    rw [(state.step_watcher move).2, traced.stopped, List.mem_append, List.mem_singleton, eq_comm]
  by_cases isStep : move = .advance
  · subst isStep
    have next := traced.passes state.advance_passes
    refine ⟨next.reloaded, next.settling, stopped, next.taken, fun atEnd => ?_⟩
    simpa using (next.ended atEnd).mono [.advance] []
  · obtain ⟨idle, samePhase, -⟩ := state.step_of_ne_advance isStep
    obtain ⟨sameStore, sameRunning⟩ := state.kept_of_ne_advance isStep
    rw [idle, Option.toList_none, List.append_nil, samePhase]
    refine ⟨sameStore ▸ traced.reloaded, traced.settling, stopped, traced.taken, fun atEnd => ?_⟩
    rw [sameRunning] at atEnd
    simpa using (traced.ended atEnd).mono [move] []

/-- A watch begins with nothing done, and has ended already if there is nothing to watch. -/
theorem begin
    (store : Store)
    (refused : Option String)
    (file : File) :
    Traced store refused [] [] (State.begin store refused file).watcher
      (State.begin store refused file).phase := by
  cases named : fileName? store.path with
  | none =>
      simp only [State.begin, Watcher.start, named, Bool.false_eq_true, ↓reduceIte]
      exact ⟨⟨[], rfl, rfl⟩, nofun, by simp, nofun, fun _ => .unnamed named⟩
  | some fileName =>
      cases refused with
      | some error =>
          simp only [State.begin, Watcher.start, named, Bool.false_eq_true, ↓reduceIte]
          exact ⟨⟨[], rfl, rfl⟩, nofun, by simp, nofun, fun _ => .refused error rfl⟩
      | none =>
          simp only [State.begin, Watcher.start, named, ↓reduceIte]
          exact ⟨⟨[], rfl, rfl⟩, nofun, by simp, nofun, nofun⟩

/-- Everything that a watch does leaves its trace. -/
theorem run
    (store : Store)
    (refused : Option String)
    (file : File)
    (moves : List Move) :
    let state := (State.begin store refused file).run moves
    Traced store refused moves ((State.begin store refused file).deeds moves) state.watcher
      state.phase := by
  induction moves using List.reverseRecOn with
  | nil =>
      exact begin store refused file
  | append_singleton moves move inductionHypothesis =>
      rw [State.deeds_concat, State.run_append]
      exact inductionHypothesis.step move

end Traced

/-! ## The whole course of a watch -/

/-- A modification of the file at a path: no loss of changes, and one of its paths ends so too. -/
structure Modifies (path : String) (change : Change) : Prop where
  modified : change.modified = true
  whole : change.rescan = false
  named : ∃ fileName, fileName? path = some fileName ∧ some fileName ∈ change.names

/-- The changes that the watcher looks for are the modifications of the file of its name. -/
theorem modifies_iff
    {path fileName : String}
    (named : fileName? path = some fileName)
    (change : Change) :
    Modifies path change ↔ change.concerns fileName = true := by
  have concerns_iff : change.concerns fileName = true ↔
      change.modified = true ∧ change.rescan = false ∧ some fileName ∈ change.names := by
    simp [Change.concerns, and_comm, and_assoc]
  rw [concerns_iff]
  constructor
  · rintro ⟨modified, whole, other, same, listed⟩
    obtain rfl : fileName = other := Option.some.inj (named.symm.trans same)
    exact ⟨modified, whole, listed⟩
  · rintro ⟨modified, whole, listed⟩
    exact ⟨modified, whole, fileName, named, listed⟩

instance (path : String) (change : Change) : Decidable (Modifies path change) :=
  decidable_of_iff
    (change.modified = true ∧ change.rescan = false ∧
      ∃ fileName ∈ fileName? path, some fileName ∈ change.names)
    ⟨fun ⟨modified, whole, named⟩ => ⟨modified, whole, named⟩,
      fun ⟨modified, whole, named⟩ => ⟨modified, whole, named⟩⟩

/-- Whether a deed is a reload, or takes a modification of the file at a path. -/
def Deed.IsAbout (path : String) : Deed → Prop
  | take (.change change) => Modifies path change
  | take _ => False
  | reload => True

instance (path : String) : DecidablePred (Deed.IsAbout path)
  | .take (.change change) => inferInstanceAs (Decidable (Modifies path change))
  | .take (.fault _) | .take .idle | .take .closed => .isFalse id
  | .reload => .isTrue trivial

/-- What a watcher does about a file of a known name is what it looks for. -/
theorem Deed.isAbout_iff
    {path fileName : String}
    (named : fileName? path = some fileName)
    (deed : Deed) :
    deed.IsAbout path ↔ deed.concerns fileName = true := by
  cases deed with
  | take notice =>
      cases notice with
      | change change =>
          exact modifies_iff named change
      | _ =>
          exact iff_of_false id nofun
  | reload =>
      exact iff_of_true trivial rfl

/-- Among deeds about the file, the changes that were taken are the causes of reloads. -/
theorem take_mem_deedsAbout_iff
    {causes : List Change}
    {owed : Option Change}
    {change : Change} :
    .take (.change change) ∈ deedsAbout causes owed ↔ change ∈ causes ++ owed.toList := by
  simp [deedsAbout]

/-- Among deeds about the file, there is one reload for each cause but the one that is owed. -/
theorem count_reload_deedsAbout
    (causes : List Change)
    (owed : Option Change) :
    (deedsAbout causes owed).count .reload = causes.length := by
  have none : (owed.toList.map fun change => Deed.take (.change change)).count .reload = 0 := by
    simp [List.count_eq_zero]
  rw [deedsAbout, List.count_append, none, Nat.add_zero]
  induction causes with
  | nil =>
      rfl
  | cons change causes inductionHypothesis =>
      simpa [List.flatMap_cons] using inductionHypothesis

/-- The reloads of a file among deeds, and the modifications that caused them. -/
structure ReloadsFor
    (path : String)
    (deeds : List Deed)
    (causes : List Change)
    (owed : Option Change) : Prop where
  /--
  Of what is done about the file, each reload directly follows the taking of its own cause,
  and each cause is followed by its own reload, unless that is still owed.
  -/
  listed : deeds.filter (Deed.IsAbout path) = deedsAbout causes owed
  /-- The causes are all the modifications of the file that were taken, and nothing else. -/
  cause_iff :
    ∀ change, change ∈ causes ++ owed.toList ↔
      .take (.change change) ∈ deeds ∧ Modifies path change
  counted : deeds.count .reload = causes.length

/-- The causes of the reloads are found among the deeds about the file. -/
theorem ReloadsFor.of_listed
    {path : String}
    {deeds : List Deed}
    {causes : List Change}
    {owed : Option Change}
    (listed : deeds.filter (Deed.IsAbout path) = deedsAbout causes owed) :
    ReloadsFor path deeds causes owed where
  listed := listed
  cause_iff change := by
    rw [← take_mem_deedsAbout_iff, ← listed, List.mem_filter, decide_eq_true_iff]
    rfl
  counted := by
    have about : Deed.IsAbout path .reload := trivial
    rw [← count_reload_deedsAbout causes owed, ← listed]
    symm
    apply List.count_filter
    exact decide_eq_true about

namespace State

/-- The notice that a move puts on the channel. -/
def arrival? (state : State) : Move → Option Notice
  | .notify change =>
      if 0 < state.owed ∧ change.concerns state.watcher.fileName then some (.change change)
      else none
  | .intrude notice => some notice
  | _ => none

/-- The notices that moves put on the channel, in order. -/
def arrivals (state : State) : List Move → List Notice
  | [] => []
  | move :: rest => (state.arrival? move).toList ++ (state.step move).arrivals rest

/-- A notice is only ever taken from the front of the channel, and put at its end. -/
theorem channel_step
    (state : State)
    (move : Move) :
    (state.deed? move).toList.filterMap Deed.notice? ++ (state.step move).channel =
      state.channel ++ (state.arrival? move).toList := by
  cases move with
  | notify change =>
      simp only [deed?, step, notify, arrival?]
      split <;> simp
  | intrude notice =>
      rfl
  | advance =>
      rcases state with ⟨watcher, phase, file, owed, channel, reads, notes⟩
      refine Eq.trans ?_ (List.append_nil _).symm
      cases phase with
      | polling =>
          simp only [step, advance, poll]
          split <;> rfl
      | waiting =>
          cases channel <;> rfl
      | taken notice =>
          simp only [step, advance, examine]
          split <;> rfl
      | _ =>
          rfl
  | _ =>
      exact (List.append_nil _).symm

/-- Every notice is taken once at most, and in the order in which the notices arrived. -/
theorem notices_deeds
    (state : State)
    (moves : List Move) :
    (state.deeds moves).filterMap Deed.notice? ++ (state.run moves).channel =
      state.channel ++ state.arrivals moves := by
  induction moves generalizing state with
  | nil =>
      exact (List.append_nil _).symm
  | cons move rest inductionHypothesis =>
      calc
        _ = (state.deed? move).toList.filterMap Deed.notice? ++
              (((state.step move).deeds rest).filterMap Deed.notice? ++
                ((state.step move).run rest).channel) := by
            rw [deeds, List.filterMap_append, List.append_assoc]
            rfl
        _ = state.channel ++ state.arrivals (move :: rest) := by
            rw [inductionHypothesis, ← List.append_assoc, channel_step, List.append_assoc, arrivals]

/-- Without a file name, or without a watch on its directory, there is nothing to watch. -/
theorem begin_unwatched
    {store : Store}
    {refused : Option String}
    (unwatched : fileName? store.path = none ∨ refused.isSome = true)
    (file : File) :
    (begin store refused file).phase = .ended ∧
      (begin store refused file).watcher.store = store := by
  cases named : fileName? store.path with
  | none =>
      simp [begin, Watcher.start, named]
  | some fileName =>
      obtain ⟨error, rfl⟩ := Option.isSome_iff_exists.mp (unwatched.resolve_left (by simp [named]))
      simp [begin, Watcher.start, named]

/-- The watcher looks for the last component of the path, if it has one. -/
theorem fileName_begin
    (store : Store)
    (refused : Option String)
    (file : File) :
    (begin store refused file).watcher.fileName = (fileName? store.path).getD "" := by
  cases named : fileName? store.path with
  | none =>
      simp [begin, Watcher.start, named]
  | some fileName =>
      cases refused <;> simp [begin, Watcher.start, named]

end State

/--
What a watch has done in the course of its moves, and what it still does after them, however
its steps, the arrival of notices and the requests to stop come between each other.
-/
structure Orderly
    (store : Store)
    (refused : Option String)
    (moves : List Move)
    (arrivals : List Notice)
    (deeds : List Deed)
    (state : State) : Prop where
  /-- The notices that it took are those that arrived first, each taken once. -/
  received : deeds.filterMap Deed.notice? ++ state.channel = arrivals
  /--
  Each reload is caused by its own modification of the file, and each such modification that
  is taken causes its own reload; for the last one, that is still the next deed.
  -/
  caused :
    ∃ causes owed, ReloadsFor store.path deeds causes owed ∧
      (owed.isSome = true → ∀ later, 4 ≤ later.count .advance →
        (state.deeds later).head? = some .reload)
  /-- Undisturbed, it takes a whole turn from where it looks at its stop flag. -/
  undisturbed :
    state.phase = .polling → state.watcher.running = true →
      ∃ n, state.TakesTurn (state.run (List.replicate n .advance))
  /--
  However it is disturbed, it has come to what whole turns make of it, each with the notice
  that it took, and requests to stop between them.
  -/
  follows :
    ∃ events found,
      Follows ((Watcher.start store refused).follow events) found state.watcher state.phase
          state.notes ∧
        deeds.filterMap Deed.notice? = events.filterMap Watcher.Event.notice? ++ found.toList
  /-- Nothing but the reloads changes the store. -/
  reloaded :
    ∃ files, state.watcher.store = store.reloads files ∧ files.length = deeds.count .reload
  /-- Once asked to stop, it takes one more notice at most, reloads once at most, and ends. -/
  stops :
    ∀ use : HandleUse, use.move ∈ moves → ∀ later,
      (state.deeds later).countP Deed.isTake ≤ 1 ∧ (state.deeds later).count .reload ≤ 1 ∧
        (6 ≤ later.count .advance → (state.run later).phase = .ended)
  /-- When nothing will come any more, its next step is to end. -/
  closes : state.phase = .taken .closed → (state.step .advance).phase = .ended
  /-- With nothing to watch, it ended before it began. -/
  unwatched :
    fileName? store.path = none ∨ refused.isSome = true →
      state.phase = .ended ∧ deeds = [] ∧ state.watcher.store = store
  /-- It ended for one of its reasons. -/
  reason : state.phase = .ended → EndReason store refused moves deeds
  /-- Once it has ended, it does nothing any more, and the store stays as it is. -/
  rests :
    state.phase = .ended → ∀ later,
      state.deeds later = [] ∧ (state.run later).phase = .ended ∧
        (state.run later).watcher.store = state.watcher.store

/-- From any beginning, in any interleaving, a watch runs an orderly course. -/
theorem orderly_run
    (store : Store)
    (refused : Option String)
    (file : File)
    (moves : List Move) :
    let first := State.begin store refused file
    Orderly store refused moves (first.arrivals moves) (first.deeds moves) (first.run moves) := by
  intro first
  have traced := Traced.run store refused file moves
  have unwatched (nothing : fileName? store.path = none ∨ refused.isSome = true) :
      (first.run moves).phase = .ended ∧ first.deeds moves = [] ∧
        (first.run moves).watcher.store = store := by
    obtain ⟨atEnd, sameStore⟩ := State.begin_unwatched nothing file
    obtain ⟨idle, stillAtEnd, stillSame⟩ := State.rests_of_ended atEnd moves
    exact ⟨stillAtEnd, idle, stillSame.trans sameStore⟩
  refine {
    received := first.notices_deeds moves
    caused := ?_
    undisturbed := State.exists_turn
    follows := State.exists_follows store refused file moves
    reloaded := traced.reloaded
    stops := ?_
    closes := fun taken => ?_
    unwatched := unwatched
    reason := fun atEnd => traced.ended (.inl atEnd)
    rests := State.rests_of_ended }
  · have free : first.phase.reloads first.watcher.fileName = false := by
      simp only [first, State.begin]
      split <;> rfl
    obtain ⟨causes, owed, listed, reloading⟩ := State.exists_deedsAbout free moves
    cases named : fileName? store.path with
    | none =>
        -- The watcher keeps an empty name here, so that what it does is not told by the name.
        refine ⟨[], none, .of_listed ?_, nofun⟩
        rw [(unwatched (.inl named)).2.1]
        rfl
    | some fileName =>
        have sameName : first.watcher.fileName = fileName := by
          rw [State.fileName_begin, named, Option.getD_some]
        refine ⟨causes, owed, .of_listed ?_, fun owing later enough => ?_⟩
        · rw [← listed, sameName]
          refine List.filter_congr fun deed _ => ?_
          rw [Bool.eq_iff_iff, decide_eq_true_iff]
          exact deed.isAbout_iff named
        · rw [owing, ← State.fileName_run first moves] at reloading
          exact State.head?_deeds_of_reloads reloading
            (Nat.le_trans (Phase.toReload_le _) enough)
  · intro use asked later
    have stopped := traced.stopped.mpr (use.move_eq ▸ asked)
    obtain ⟨takes, reloads, steps⟩ := State.windsDown_of_stopRequested stopped later
    obtain ⟨mostTakes, mostReloads, mostSteps⟩ := (first.run moves).phase.left_le
    refine ⟨Nat.le_trans takes mostTakes, Nat.le_trans reloads mostReloads, fun enough => ?_⟩
    have nothingLeft : (first.run moves).phase.stepsLeft - later.count .advance = 0 :=
      Nat.sub_eq_zero_of_le (Nat.le_trans mostSteps enough)
    exact Phase.stepsLeft_eq_zero (Nat.le_zero.mp (nothingLeft ▸ steps))
  · simp [State.step, State.advance, taken, State.examine, isTracked, Watcher.receive,
      Watcher.finish]

/-- A modification of another file in the same directory. -/
def otherChange : Change :=
  ⟨true, false, [some "other.json"]⟩

/-- A modification of the file, when earlier changes were lost. -/
def rescanChange : Change :=
  ⟨true, true, [some "conf.json"]⟩

/--
The file is replaced, which is told after two changes that do not count. In the turn after
the reload the watcher is asked to stop, while it waits; then two more changes come.
-/
def stoppedRehearsal : List Move :=
  [.replace State.rehearsalRevision, .intrude (.change otherChange),
      .intrude (.change rescanChange), .notify State.rehearsalChange] ++
    List.replicate 13 .advance ++
      [HandleUse.drop.move, .intrude (.change State.rehearsalChange),
        .intrude (.change State.rehearsalChange)] ++
        List.replicate 6 .advance

/-- A change of the file is reloaded for, and one more after the request to stop. -/
theorem orderly_run_stopped :
    let first := State.begin State.rehearsalStore none (.bytes [123, 125])
    let state := first.run stoppedRehearsal
    Orderly State.rehearsalStore none stoppedRehearsal (first.arrivals stoppedRehearsal)
        (first.deeds stoppedRehearsal) state ∧
      Modifies State.rehearsalStore.path State.rehearsalChange ∧
      first.deeds stoppedRehearsal =
        [.take (.change otherChange), .take (.change rescanChange),
          .take (.change State.rehearsalChange), .reload,
          .take (.change State.rehearsalChange), .reload] ∧
      state.phase = .ended ∧ state.channel = [.change State.rehearsalChange] ∧
      state.watcher.store.current.snapshot.authorityIds = ["1"] :=
  ⟨orderly_run _ _ _ _, by decide +kernel, by decide +kernel, rfl, by decide +kernel,
    by decide +kernel⟩

end Notary.Config.Watching
