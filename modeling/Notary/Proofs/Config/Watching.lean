import Notary.Config.Watcher
import Notary.Proofs.Config.Reload

namespace Notary.Config.Watching

/-!
# No update is lost while the file is watched

The watcher takes its turns in small steps: it looks at its stop flag, waits for a
notice, looks at the notice, reads the file, parses what it read, and publishes or
keeps. Replacements of the file and the arrival of notices come between any two of
them. Undisturbed steps make exactly one turn of the watcher. However they are
disturbed, a replacement that the published snapshot does not show yet is one whose
notice is still to be dealt with.
-/

open Journal (Note)

/-- Whether a notice makes the watcher of a file reload. -/
def isTracked (fileName : String) : Notice → Bool
  | .change change => change.concerns fileName
  | _ => false

/-- Where the watcher stands in its turn. -/
inductive Phase where
  /-- It is about to look at its stop flag. -/
  | polling
  | waiting
  /-- It took a notice and has not looked at it yet. -/
  | taken (notice : Notice)
  /-- It is about to read the file. -/
  | reading
  | parsing (file : File)
  /-- It is about to publish what it loaded, or to keep what it had. -/
  | settling (loaded : Except LoadFault Snapshot)
  | ended

/-- The watcher, the file that it watches and the notices between them. -/
structure State where
  watcher : Watcher
  phase : Phase
  file : File
  /-- How many replacements have their notice still outstanding. -/
  owed : Nat
  channel : List Notice
  /-- What the reloads found in the file so far. -/
  reads : List File
  notes : List Note

/-- Something that happens to the watcher or to the file. -/
inductive Move where
  /-- The file is replaced completely, and a notice of it is to follow. -/
  | replace (file : File)
  /-- An outstanding notice of a replacement is put on the channel. -/
  | notify (change : Change)
  /-- Any other notice is put on the channel. -/
  | intrude (notice : Notice)
  | requestStop
  /-- The watcher takes its next step. -/
  | advance
deriving Repr, DecidableEq

namespace State

/-- A watch that has just been established, or has come to nothing. -/
def start (store : Store) (file : File) : State :=
  let moved := Watcher.start store none
  ⟨moved.watcher, if moved.watcher.running then .polling else .ended, file, 0, [], [], moved.notes⟩

/-- Look at the stop flag. -/
def poll (state : State) : State :=
  if state.watcher.stopRequested then
    { state with
      watcher := state.watcher.finish.watcher
      phase := .ended
      notes := state.notes ++ state.watcher.finish.notes }
  else { state with phase := .waiting }

/-- Take the first notice from the channel; on an empty channel, the wait ends by itself. -/
def take (state : State) : State :=
  match state.channel with
  | [] => { state with phase := .taken .idle }
  | notice :: rest => { state with phase := .taken notice, channel := rest }

/-- Look at a notice. -/
def examine (state : State) (notice : Notice) : State :=
  if isTracked state.watcher.fileName notice then
    { state with
      phase := .reading
      notes := state.notes ++ [.event (.changeSeen state.watcher.store.path)] }
  else
    let moved := state.watcher.receive state.file notice
    { state with
      watcher := moved.watcher
      phase := if moved.watcher.running then .polling else .ended
      notes := state.notes ++ moved.notes }

/-- Read the file. -/
def read (state : State) : State :=
  { state with phase := .parsing state.file, reads := state.reads ++ [state.file] }

/-- Publish what was loaded, or keep what the store has. -/
def settle (state : State) (loaded : Except LoadFault Snapshot) : State :=
  let reload := state.watcher.store.settle loaded
  { state with
    watcher := { state.watcher with store := reload.store }
    phase := .polling
    notes := state.notes ++ reload.notes }

/-- The next step of the watcher. -/
def advance (state : State) : State :=
  match state.phase with
  | .polling => state.poll
  | .waiting => state.take
  | .taken notice => state.examine notice
  | .reading => state.read
  | .parsing file => { state with phase := .settling (Snapshot.load file) }
  | .settling loaded => state.settle loaded
  | .ended => state

/-- Put an outstanding notice of a replacement on the channel. -/
def notify (state : State) (change : Change) : State :=
  if 0 < state.owed ∧ change.concerns state.watcher.fileName then
    { state with owed := state.owed - 1, channel := state.channel ++ [.change change] }
  else state

/-- The state after a move. -/
def step (state : State) : Move → State
  | .replace file => { state with file := file, owed := state.owed + 1 }
  | .notify change => state.notify change
  | .intrude notice => { state with channel := state.channel ++ [notice] }
  | .requestStop => { state with watcher := state.watcher.requestStop }
  | .advance => state.advance

/-- The state after moves in order. -/
def run (state : State) (moves : List Move) : State :=
  moves.foldl step state

/--
Whether a watch has come from one state to another by a whole turn of the watcher, with the
first notice of the channel or, on an empty channel, with none.
-/
def TakesTurn (state later : State) : Prop :=
  let turn := state.watcher.step state.file (state.channel.headD .idle)
  later.watcher = turn.watcher ∧ later.notes = state.notes ++ turn.notes ∧
    later.phase = (if turn.watcher.running then .polling else .ended) ∧
      later.channel =
        if state.watcher.stopRequested then state.channel else state.channel.tail

/-- Undisturbed steps make a whole turn of the watcher. -/
theorem exists_turn
    {state : State}
    (phase : state.phase = .polling)
    (running : state.watcher.running = true) :
    ∃ n, state.TakesTurn (state.run (List.replicate n .advance)) := by
  rcases state with ⟨watcher, _, file, owed, channel, reads, notes⟩
  subst phase
  have isRunning : watcher.running = true := running
  cases stop : watcher.stopRequested with
  | true =>
      refine ⟨1, ?_⟩
      simp [TakesTurn, run, step, advance, poll, stop, isRunning, Watcher.step, Watcher.finish]
  | false =>
      have waits : watcher.step file (channel.headD .idle) =
          watcher.receive file (channel.headD .idle) := by
        simp [Watcher.step, isRunning, stop]
      unfold TakesTurn
      rw [waits]
      cases tracked : isTracked watcher.fileName (channel.headD .idle) with
      | true =>
          refine ⟨6, ?_⟩
          cases channel with
          | nil =>
              cases tracked
          | cons notice rest =>
              cases notice with
              | change change =>
                  have concerned : change.concerns watcher.fileName = true := tracked
                  simp [run, step, advance, poll, take, examine, read, settle, stop, isTracked,
                    concerned, Watcher.receive, Watcher.reload, Store.reload_eq_settle, isRunning]
              | _ =>
                  cases tracked
      | false =>
          refine ⟨3, ?_⟩
          cases channel with
          | nil =>
              simp [run, step, advance, poll, take, examine, stop, isTracked]
          | cons notice rest =>
              have ignored : isTracked watcher.fileName notice = false := tracked
              simp [run, step, advance, poll, take, examine, stop, ignored]

end State

/-- What is not about the file leaves the store and the name of the file alone. -/
theorem receive_of_not_isTracked
    {watcher : Watcher}
    {notice : Notice}
    (untracked : isTracked watcher.fileName notice = false)
    (file : File) :
    (watcher.receive file notice).watcher.store = watcher.store ∧
      (watcher.receive file notice).watcher.fileName = watcher.fileName := by
  cases notice with
  | change change =>
      have ignored : change.concerns watcher.fileName = false := untracked
      simp [Watcher.receive, ignored]
  | _ =>
      exact ⟨rfl, rfl⟩

namespace State

/-- The store as it will be when the reload under way, if there is one, is over. -/
def outlook (state : State) : Store :=
  match state.phase with
  | .parsing file => (state.watcher.store.reload file).store
  | .settling loaded => (state.watcher.store.settle loaded).store
  | _ => state.watcher.store

/-- Whether the turn under way will still read the file. -/
def ReadsAhead (state : State) : Prop :=
  match state.phase with
  | .taken notice => isTracked state.watcher.fileName notice = true
  | .reading => True
  | _ => False

/-- Whether there is a notice for which the file is still to be read. -/
def Pending (state : State) : Prop :=
  0 < state.owed ∨
    (∃ notice ∈ state.channel, isTracked state.watcher.fileName notice = true) ∨
    state.ReadsAhead

/-- What holds of a watch from its start on. -/
structure Invariant (store : Store) (initial : File) (state : State) : Prop where
  /-- The store is what the reloads made of what they found. -/
  reloaded : state.outlook = store.reloads state.reads
  /-- What was read last is what the file holds, unless it is still to be read. -/
  upToDate : state.Pending ∨ state.reads.getLastD initial = state.file

namespace Invariant

variable
    {store : Store}
    {initial : File}
    {state : State}

/-- Looking at the stop flag keeps what was read and what is pending. -/
theorem poll
    (invariant : state.Invariant store initial)
    (phase : state.phase = .polling) :
    state.poll.Invariant store initial := by
  rcases state with ⟨watcher, _, file, owed, channel, reads, notes⟩
  subst phase
  obtain ⟨reloaded, upToDate⟩ := invariant
  unfold State.poll
  split
  · exact ⟨reloaded, upToDate⟩
  · exact ⟨reloaded, upToDate⟩

/-- A notice that is taken from the channel stays pending. -/
theorem take
    (invariant : state.Invariant store initial)
    (phase : state.phase = .waiting) :
    state.take.Invariant store initial := by
  rcases state with ⟨watcher, _, file, owed, channel, reads, notes⟩
  subst phase
  obtain ⟨reloaded, upToDate⟩ := invariant
  cases channel with
  | nil =>
      refine ⟨reloaded, upToDate.imp_left ?_⟩
      rintro (outstanding | ⟨notice, ⟨⟩, _⟩ | ⟨⟨⟩⟩)
      exact .inl outstanding
  | cons notice rest =>
      refine ⟨reloaded, upToDate.imp_left ?_⟩
      rintro (outstanding | ⟨other, member, tracked⟩ | ⟨⟨⟩⟩)
      · exact .inl outstanding
      · rcases List.mem_cons.mp member with rfl | later
        · exact .inr (.inr tracked)
        · exact .inr (.inl ⟨other, later, tracked⟩)

/-- Only a notice about the file leads to a read. -/
theorem examine
    {notice : Notice}
    (invariant : state.Invariant store initial)
    (phase : state.phase = .taken notice) :
    (state.examine notice).Invariant store initial := by
  rcases state with ⟨watcher, _, file, owed, channel, reads, notes⟩
  subst phase
  obtain ⟨reloaded, upToDate⟩ := invariant
  unfold State.examine
  split
  · exact ⟨reloaded, .inl (.inr (.inr trivial))⟩
  · next untracked =>
      obtain ⟨sameStore, sameName⟩ :=
        receive_of_not_isTracked (Bool.eq_false_iff.mpr untracked) file
      have kept : (watcher.receive file notice).watcher.store = store.reloads reads :=
        sameStore.trans reloaded
      refine ⟨?_, upToDate.imp_left ?_⟩
      · cases running : (watcher.receive file notice).watcher.running with
        | true =>
            simpa [outlook, running] using kept
        | false =>
            simpa [outlook, running] using kept
      · rintro (outstanding | ⟨other, member, tracked⟩ | tracked)
        · exact .inl outstanding
        · exact .inr (.inl ⟨other, member, by rw [sameName]; exact tracked⟩)
        · exact absurd tracked untracked

/-- A read brings the watch up to date. -/
theorem read
    (invariant : state.Invariant store initial)
    (phase : state.phase = .reading) :
    state.read.Invariant store initial := by
  rcases state with ⟨watcher, _, file, owed, channel, reads, notes⟩
  subst phase
  have reloaded : watcher.store = store.reloads reads := invariant.reloaded
  refine ⟨?_, .inr ?_⟩
  · calc
      (watcher.store.reload file).store
        = ((store.reloads reads).reload file).store := by rw [reloaded]
      _ = store.reloads (reads ++ [file]) := (store.reloads_concat reads file).symm
  · simp [State.read]

/-- The invariant is preserved by every step of the watcher. -/
theorem advance
    (invariant : state.Invariant store initial) :
    state.advance.Invariant store initial := by
  cases phase : state.phase with
  | polling =>
      simpa only [State.advance, phase] using invariant.poll phase
  | waiting =>
      simpa only [State.advance, phase] using invariant.take phase
  | taken notice =>
      simpa only [State.advance, phase] using invariant.examine phase
  | reading =>
      simpa only [State.advance, phase] using invariant.read phase
  | parsing found =>
      rcases state with ⟨watcher, _, file, owed, channel, reads, notes⟩
      subst phase
      exact ⟨invariant.reloaded, invariant.upToDate⟩
  | settling loaded =>
      rcases state with ⟨watcher, _, file, owed, channel, reads, notes⟩
      subst phase
      exact ⟨invariant.reloaded, invariant.upToDate⟩
  | ended =>
      simpa only [State.advance, phase] using invariant

/-- A notice on the channel is pending in place of the one that was outstanding. -/
theorem notify
    (invariant : state.Invariant store initial)
    (change : Change) :
    (state.notify change).Invariant store initial := by
  unfold State.notify
  split
  · next allowed =>
      obtain ⟨_, tracked⟩ := allowed
      refine ⟨invariant.reloaded, .inl (.inr (.inl ⟨.change change, ?_, tracked⟩))⟩
      exact List.mem_append_right _ (List.mem_singleton_self _)
  · exact invariant

/-- The invariant is preserved by every move. -/
theorem step
    (invariant : state.Invariant store initial)
    (move : Move) :
    (state.step move).Invariant store initial := by
  cases move with
  | replace file =>
      exact ⟨invariant.reloaded, .inl (.inl (Nat.succ_pos state.owed))⟩
  | notify change =>
      exact invariant.notify change
  | intrude notice =>
      refine ⟨invariant.reloaded, invariant.upToDate.imp_left ?_⟩
      rintro (outstanding | ⟨other, member, tracked⟩ | ahead)
      · exact .inl outstanding
      · exact .inr (.inl ⟨other, List.mem_append_left _ member, tracked⟩)
      · exact .inr (.inr ahead)
  | requestStop =>
      exact ⟨invariant.reloaded, invariant.upToDate⟩
  | advance =>
      exact invariant.advance

/-- The invariant holds after any moves from where it holds. -/
theorem run
    (invariant : state.Invariant store initial)
    (moves : List Move) :
    (state.run moves).Invariant store initial := by
  induction moves generalizing state with
  | nil =>
      exact invariant
  | cons move moves inductionHypothesis =>
      exact inductionHypothesis (invariant.step move)

/-- A watch that has just been established is up to date with what the store was opened on. -/
theorem start
    (store : Store)
    (initial : File) :
    (State.start store initial).Invariant store initial := by
  refine ⟨?_, .inr rfl⟩
  unfold State.start Watcher.start
  cases fileName? store.path <;> rfl

end Invariant

/-- Nothing is left to deal with: the watcher waits, and no notice is queued or outstanding. -/
structure Quiet (state : State) : Prop where
  waiting : state.phase = .waiting
  nothingOutstanding : state.owed = 0
  nothingQueued : state.channel = []

/-- While nothing is left to deal with, nothing is pending. -/
theorem Quiet.not_pending
    {state : State}
    (quiet : state.Quiet) :
    ¬ state.Pending := by
  rcases state with ⟨watcher, _, file, _, _, reads, notes⟩
  obtain ⟨rfl, rfl, rfl⟩ := quiet
  rintro (outstanding | ⟨notice, ⟨⟩, _⟩ | ⟨⟨⟩⟩)
  exact Nat.lt_irrefl 0 outstanding

/-- While nothing is left to deal with, the store is what the reloads made of it. -/
theorem Quiet.store_eq_reloads
    {store : Store}
    {initial : File}
    {state : State}
    (quiet : state.Quiet)
    (invariant : state.Invariant store initial) :
    state.watcher.store = store.reloads state.reads := by
  have reloaded := invariant.reloaded
  simpa only [outlook, quiet.waiting] using reloaded

/--
No update is lost while the file is watched. After any moves, once nothing is left
to deal with, the store shows what the file holds if that is valid, and otherwise
the last valid content that a reload found.
-/
theorem published_of_quiet
    {store : Store}
    {initial : File}
    (holds : Snapshot.load initial = .ok store.current.snapshot)
    (moves : List Move)
    (quiet : ((State.start store initial).run moves).Quiet) :
    (∀ snapshot,
      Snapshot.load ((State.start store initial).run moves).file = .ok snapshot →
        ((State.start store initial).run moves).watcher.store.current.snapshot = snapshot) ∧
      (∀ fault,
        Snapshot.load ((State.start store initial).run moves).file = .error fault →
          ((State.start store initial).run moves).watcher.store.current.snapshot =
            lastValid store.current.snapshot ((State.start store initial).run moves).reads) := by
  have invariant : ((State.start store initial).run moves).Invariant store initial :=
    (Invariant.start store initial).run moves
  have published := congrArg (·.current.snapshot) (quiet.store_eq_reloads invariant)
  rw [Store.snapshot_reloads] at published
  have upToDate := invariant.upToDate.resolve_left quiet.not_pending
  constructor
  · intro snapshot loads
    rw [← upToDate] at loads
    exact published.trans (lastValid_of_load_getLastD holds loads)
  · intro fault refused
    exact published

/-- The store of an empty configuration. -/
def rehearsalStore : Store :=
  .ofSnapshot "conf.json" .empty

/-- A configuration with one certificate authority. -/
def rehearsalRevision : File :=
  .bytes "\x7b\"ca\":[\x7b\"id\":\"1\",\"certificate\":\"c\",\"crl\":\"l\"\x7d]\x7d".toUTF8.toList

/-- What the file system reports of a replacement. -/
def rehearsalChange : Change :=
  ⟨true, false, [some "conf.json"]⟩

/-- A file that is no text is replaced after it was read, before the reload is over. -/
def rehearsal : List Move :=
  [.replace (.bytes [255]), .notify rehearsalChange] ++ List.replicate 4 .advance ++
    [.replace rehearsalRevision] ++ List.replicate 2 .advance ++
      [.notify rehearsalChange] ++ List.replicate 7 .advance

/-- The replacement that comes while the watcher is busy is published all the same. -/
theorem published_of_quiet_overtaken :
    Snapshot.load (.bytes [123, 125]) = .ok rehearsalStore.current.snapshot ∧
      ((start rehearsalStore (.bytes [123, 125])).run rehearsal).Quiet ∧
      ∃ snapshot, Snapshot.load rehearsalRevision = .ok snapshot ∧
        snapshot.authorityIds = ["1"] ∧
        ((start rehearsalStore (.bytes [123, 125])).run rehearsal).watcher.store.current.snapshot =
          snapshot := by
  have holds : Snapshot.load (.bytes [123, 125]) = .ok rehearsalStore.current.snapshot :=
    rfl
  have quiet : ((start rehearsalStore (.bytes [123, 125])).run rehearsal).Quiet :=
    ⟨rfl, rfl, rfl⟩
  have trusted : (Snapshot.load rehearsalRevision).toOption.map (·.authorityIds) = some ["1"] := by
    decide +kernel
  cases loads : Snapshot.load rehearsalRevision with
  | error fault =>
      rw [loads] at trusted
      cases trusted
  | ok snapshot =>
      rw [loads] at trusted
      exact ⟨holds, quiet, snapshot, rfl, Option.some.inj trusted,
        (published_of_quiet holds rehearsal quiet).1 snapshot loads⟩

end State

end Notary.Config.Watching
