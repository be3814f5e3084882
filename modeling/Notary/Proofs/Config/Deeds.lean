import Notary.Proofs.Config.Watching

namespace Notary.Config.Watching

/-!
# What a watcher does, step by step

What the watcher does is a sequence of deeds: it takes a notice from the channel, or it
comes to the end of a reload. Between two of its steps anything may happen to the file and
to the channel, but of all that only a request to stop touches the watcher.
-/

/-- Something that the watcher does. -/
inductive Deed where
  /-- It takes a notice from the channel. -/
  | take (notice : Notice)
  /-- It comes to the end of a reload. -/
  | reload
deriving Repr, DecidableEq

/-- Whether a deed takes a notice. -/
def Deed.isTake : Deed → Bool
  | take _ => true
  | reload => false

/-- The notice that a deed takes. -/
def Deed.notice? : Deed → Option Notice
  | take notice => some notice
  | reload => none

namespace State

/-- A watch from its very beginning; it may be refused. -/
def begin (store : Store) (refused : Option String) (file : File) : State :=
  let moved := Watcher.start store refused
  ⟨moved.watcher, if moved.watcher.running then .polling else .ended, file, 0, [], [], moved.notes⟩

/-- What the watcher does in a move. -/
def deed? (state : State) : Move → Option Deed
  | .advance =>
      match state.phase, state.channel with
      | .waiting, notice :: _ => some (.take notice)
      | .settling _, _ => some .reload
      | _, _ => none
  | _ => none

/-- What the watcher does in the course of moves, in order. -/
def deeds (state : State) : List Move → List Deed
  | [] => []
  | move :: rest => (state.deed? move).toList ++ (state.step move).deeds rest

theorem run_append
    (state : State)
    (first second : List Move) :
    state.run (first ++ second) = (state.run first).run second :=
  List.foldl_append

/-- What is done in the course of moves is done in the first of them and then in the others. -/
theorem deeds_append
    (state : State)
    (first second : List Move) :
    state.deeds (first ++ second) = state.deeds first ++ (state.run first).deeds second := by
  induction first generalizing state with
  | nil =>
      rfl
  | cons move rest inductionHypothesis =>
      rw [List.cons_append, deeds, deeds, inductionHypothesis, List.append_assoc]
      rfl

theorem deeds_concat
    (state : State)
    (moves : List Move)
    (move : Move) :
    state.deeds (moves ++ [move]) =
      state.deeds moves ++ ((state.run moves).deed? move).toList := by
  rw [deeds_append, deeds, deeds, List.append_nil]

end State

/--
A step of the watcher: the phase that it is in, what it does, and what it and its phase are
afterwards.
-/
inductive Passes (watcher : Watcher) : Phase → Option Deed → Watcher → Phase → Prop where
  | heed :
      watcher.stopRequested = true →
      Passes watcher .polling none watcher.finish.watcher .ended
  | wait :
      watcher.stopRequested = false →
      Passes watcher .polling none watcher .waiting
  | weary :
      Passes watcher .waiting none watcher (.taken .idle)
  | take
      (notice : Notice) :
      Passes watcher .waiting (some (.take notice)) watcher (.taken notice)
  | react
      {notice : Notice} :
      isTracked watcher.fileName notice = true →
      Passes watcher (.taken notice) none watcher .reading
  | dismiss
      {notice : Notice} :
      isTracked watcher.fileName notice = false →
      Passes watcher (.taken notice) none watcher .polling
  | quit
      {notice : Notice} :
      isTracked watcher.fileName notice = false →
      watcher.running = false ∨ notice = .closed →
      Passes watcher (.taken notice) none watcher.finish.watcher .ended
  | read
      (file : File) :
      Passes watcher .reading none watcher (.parsing file)
  | parse
      (file : File) :
      Passes watcher (.parsing file) none watcher (.settling (Snapshot.load file))
  | settle
      (loaded : Except LoadFault Snapshot) :
      Passes watcher (.settling loaded) (some .reload)
        { watcher with store := (watcher.store.settle loaded).store } .polling
  | rest :
      Passes watcher .ended none watcher .ended

/-- A notice that is not about the file leaves the watcher as it is, or ends it. -/
theorem watcher_receive
    {watcher : Watcher}
    {notice : Notice}
    (untracked : isTracked watcher.fileName notice = false)
    (file : File) :
    (watcher.receive file notice).watcher =
      if notice = .closed then watcher.finish.watcher else watcher := by
  cases notice with
  | change change =>
      have ignored : change.concerns watcher.fileName = false := untracked
      simp [Watcher.receive, ignored]
  | _ =>
      simp [Watcher.receive]

/-- A watch that has ended cannot end again. -/
theorem finish_of_not_running
    {watcher : Watcher}
    (stopped : watcher.running = false) :
    watcher.finish.watcher = watcher := by
  rcases watcher with ⟨store, fileName, stopRequested, running⟩
  cases stopped
  rfl

/-- No step of the watcher sets its stop flag, or clears it. -/
theorem Passes.watcher
    {watcher after : Watcher}
    {phase next : Phase}
    {deed : Option Deed}
    (passes : Passes watcher phase deed after next) :
    after.fileName = watcher.fileName ∧ after.stopRequested = watcher.stopRequested := by
  cases passes <;> exact ⟨rfl, rfl⟩

namespace State

/-- The watcher only ever makes steps of these kinds. -/
theorem advance_passes
    (state : State) :
    Passes state.watcher state.phase (state.deed? .advance) state.advance.watcher
      state.advance.phase := by
  rcases state with ⟨watcher, phase, file, owed, channel, reads, notes⟩
  cases phase with
  | polling =>
      simp only [advance, poll]
      split
      · next stop =>
          exact .heed stop
      · next goOn =>
          exact .wait (Bool.eq_false_iff.mpr goOn)
  | waiting =>
      cases channel with
      | nil =>
          exact .weary
      | cons notice rest =>
          exact .take notice
  | taken notice =>
      cases tracked : isTracked watcher.fileName notice with
      | true =>
          simp only [advance, examine, tracked, ↓reduceIte]
          exact .react tracked
      | false =>
          simp only [advance, examine, tracked, Bool.false_eq_true, ↓reduceIte,
            watcher_receive tracked]
          by_cases closed : notice = .closed
          · simp only [closed, ↓reduceIte]
            exact .quit (closed ▸ tracked) (.inr rfl)
          · simp only [closed, ↓reduceIte]
            cases running : watcher.running with
            | true =>
                exact .dismiss tracked
            | false =>
                -- To finish once more leaves a watcher that does not run as it is.
                have quits : Passes watcher (.taken notice) none watcher.finish.watcher .ended :=
                  .quit tracked (.inl running)
                rwa [finish_of_not_running running] at quits
  | reading =>
      exact .read file
  | parsing found =>
      exact .parse found
  | settling loaded =>
      exact .settle loaded
  | ended =>
      exact .rest

/-- A move that is no step of the watcher does no more to it than to set its stop flag. -/
theorem step_of_ne_advance
    (state : State)
    {move : Move}
    (other : move ≠ .advance) :
    state.deed? move = none ∧ (state.step move).phase = state.phase ∧
      (state.step move).watcher =
        if move = .requestStop then state.watcher.requestStop else state.watcher := by
  cases move with
  | notify change =>
      simp only [step, notify]
      split <;> exact ⟨rfl, rfl, rfl⟩
  | advance =>
      exact absurd rfl other
  | _ =>
      exact ⟨rfl, rfl, rfl⟩

/-- Nobody but the watcher changes the store, or ends the watch. -/
theorem kept_of_ne_advance
    (state : State)
    {move : Move}
    (other : move ≠ .advance) :
    (state.step move).watcher.store = state.watcher.store ∧
      (state.step move).watcher.running = state.watcher.running := by
  obtain ⟨-, -, same⟩ := state.step_of_ne_advance other
  rw [same]
  split <;> exact ⟨rfl, rfl⟩

/-- The name of the file stays the same, and only a request to stop sets the stop flag. -/
theorem step_watcher
    (state : State)
    (move : Move) :
    (state.step move).watcher.fileName = state.watcher.fileName ∧
      ((state.step move).watcher.stopRequested = true ↔
        state.watcher.stopRequested = true ∨ move = .requestStop) := by
  by_cases isStep : move = .advance
  · subst isStep
    obtain ⟨sameName, sameFlag⟩ := state.advance_passes.watcher
    refine ⟨sameName, ?_⟩
    rw [← sameFlag, or_iff_left nofun]
    rfl
  · obtain ⟨-, -, same⟩ := state.step_of_ne_advance isStep
    rw [same]
    split
    · next stop =>
        exact ⟨rfl, iff_of_true rfl (.inr stop)⟩
    · next goesOn =>
        exact ⟨rfl, (or_iff_left goesOn).symm⟩

end State

end Notary.Config.Watching
