import Notary.Proofs.Config.Watching

namespace Notary.Config.Watching

/-!
# Replacements of the file while the watch is being set up

A process reads and parses its configuration first, and establishes the watch on the file
afterwards. The file may be replaced between any two of these steps. A replacement
before the file is read is read, and one while the file is watched leads to a reload.
Of a replacement in between nobody is told: unless a later one is seen, the store goes on
publishing what it was opened on.
-/

/-- How far a process has come on its way to a watched store. -/
inductive Stage where
  /-- It is about to read the file. -/
  | reading
  | parsing (found : File)
  /-- The store is open, and its watch has still to be established. -/
  | opened (store : Store) (stopRequested : Bool)
  | watching (state : State)
  /-- The store could not be opened, so there is nothing to watch. -/
  | refused (fault : LoadFault)

/-- A start, with the replacements of the file so far by the stage that they came in. -/
structure Startup where
  path : String
  /-- What is in the file at the beginning. -/
  initial : File
  stage : Stage
  /-- The replacements before the file was read. -/
  earlier : List File
  /-- The replacements after the file was read and before it was watched. -/
  between : List File
  /-- The replacements since the file is watched. -/
  later : List File

namespace Startup

/-- A process that is about to read a configuration. -/
def begin (path : String) (initial : File) : Startup :=
  ⟨path, initial, .reading, [], [], []⟩

/-- All replacements in order. -/
def replaced (start : Startup) : List File :=
  start.earlier ++ start.between ++ start.later

/-- What is in the file. -/
def file (start : Startup) : File :=
  start.replaced.getLastD start.initial

/-- What is in the file when it is read for the first time. -/
def opening (start : Startup) : File :=
  start.earlier.getLastD start.initial

/-- What is in the file when the watch is established. -/
def unwatched (start : Startup) : File :=
  (start.earlier ++ start.between).getLastD start.initial

/-- Replace the file. -/
def replace (start : Startup) (file : File) : Startup :=
  match start.stage with
  | .reading => { start with earlier := start.earlier ++ [file] }
  | .watching state =>
      { start with
        stage := .watching (state.step (.replace file))
        later := start.later ++ [file] }
  | _ => { start with between := start.between ++ [file] }

/-- The next step of the process, or of the watcher once there is one. -/
def advance (start : Startup) : Startup :=
  match start.stage with
  | .reading => { start with stage := .parsing start.file }
  | .parsing found =>
      match (Store.ofFile start.path found).1 with
      | .ok store => { start with stage := .opened store false }
      | .error fault => { start with stage := .refused fault }
  | .opened store stopRequested =>
      let state := State.start store start.file
      { start with
        stage := .watching (if stopRequested then state.step .requestStop else state) }
  | .watching state => { start with stage := .watching (state.step .advance) }
  | .refused _ => start

/-- What becomes of a move that neither the file nor the process makes. -/
def deliver (start : Startup) (move : Move) : Startup :=
  match start.stage with
  | .opened store stopRequested =>
      { start with stage := .opened store (stopRequested || move = .requestStop) }
  | .watching state => { start with stage := .watching (state.step move) }
  | _ => start

/-- The start after a move. Before the file is watched there is no channel for notices. -/
def step (start : Startup) : Move → Startup
  | .replace file => start.replace file
  | .advance => start.advance
  | move => start.deliver move

/-- The start after moves in order. -/
def run (start : Startup) (moves : List Move) : Startup :=
  moves.foldl step start

/-- Undisturbed steps open the store of the file and start its watch. -/
theorem stage_run_undisturbed
    (path : String)
    (initial : File) :
    ((begin path initial).run [.advance, .advance, .advance]).stage =
      match (Store.ofFile path initial).1 with
      | .ok store => .watching (State.start store initial)
      | .error fault => .refused fault := by
  have read : file ⟨path, initial, .reading, [], [], []⟩ = initial :=
    rfl
  cases opened : (Store.ofFile path initial).1 with
  | ok store =>
      have unwatched : file ⟨path, initial, .opened store false, [], [], []⟩ = initial :=
        rfl
      simp [run, step, advance, begin, read, opened, unwatched]
  | error fault =>
      simp [run, step, advance, begin, read, opened]

end Startup

/-- The watcher never writes to the file. -/
theorem State.file_advance
    (state : State) :
    state.advance.file = state.file := by
  unfold State.advance
  cases state.phase with
  | polling =>
      simp only [State.poll]
      split <;> rfl
  | waiting =>
      simp only [State.take]
      split <;> rfl
  | taken notice =>
      simp only [State.examine]
      split <;> rfl
  | _ =>
      rfl

/-- Only a replacement changes the file. -/
theorem State.file_step
    (state : State)
    {move : Move}
    (keeps : ∀ file, move ≠ .replace file) :
    (state.step move).file = state.file := by
  cases move with
  | replace file =>
      exact absurd rfl (keeps file)
  | notify change =>
      simp only [State.step, State.notify]
      split <;> rfl
  | advance =>
      exact state.file_advance
  | _ =>
      rfl

/-! ## What holds at every stage -/

namespace Startup

variable
    {start : Startup}

/--
A watch that goes on from a store which was opened on what was read first. After a
replacement the watch has something pending, whatever was read before it.
-/
structure Watched (start : Startup) (state : State) (store : Store) : Prop where
  opens : Snapshot.load start.opening = .ok store.current.snapshot
  sameFile : state.file = start.file
  invariant : ∀ read, start.later ≠ [] ∨ read = start.unwatched → state.Invariant store read

/-- What holds of a start, by its stage. -/
def Sound (start : Startup) : Prop :=
  match start.stage with
  | .reading => start.between = [] ∧ start.later = []
  | .parsing found => found = start.opening ∧ start.later = []
  | .opened store _ =>
      Snapshot.load start.opening = .ok store.current.snapshot ∧ start.later = []
  | .watching state => ∃ store, start.Watched state store
  | .refused _ => True

/-- Without a replacement since the watch is there, the file holds what it held then. -/
theorem file_of_later_eq_nil
    (unseen : start.later = []) :
    start.file = start.unwatched := by
  rw [file, replaced, unseen, List.append_nil]
  rfl

theorem unwatched_of_between_eq_nil
    (undisturbed : start.between = []) :
    start.unwatched = start.opening := by
  rw [unwatched, undisturbed, List.append_nil]
  rfl

/-- A watch that is kept through a move keeps what holds of the start. -/
theorem Watched.step
    {state : State}
    {store : Store}
    (watched : start.Watched state store)
    {move : Move}
    (keeps : ∀ file, move ≠ .replace file) :
    Watched { start with stage := .watching (state.step move) } (state.step move) store where
  opens := watched.opens
  sameFile := (state.file_step keeps).trans watched.sameFile
  invariant read known := (watched.invariant read known).step move

/-- A replacement adds to those of the stage that it comes in. -/
theorem Sound.replace
    (sound : start.Sound)
    (file : File) :
    (start.replace file).Sound := by
  unfold Startup.replace
  cases stage : start.stage with
  | watching state =>
      simp only [Sound, stage] at sound
      rcases sound with ⟨store, watched⟩
      refine ⟨store, watched.opens, ?_, ?_⟩
      · simp [State.step, Startup.file, replaced]
      · -- The notice of this replacement is outstanding, whatever was read before.
        intro read _
        have known := watched.invariant start.unwatched (.inr rfl)
        exact ⟨known.reloaded, .inl (.inl (Nat.succ_pos state.owed))⟩
  | _ =>
      simp only [Sound, stage] at sound
      exact sound

/-- Every step from the first read to the watch keeps what is known. -/
theorem Sound.advance
    (sound : start.Sound) :
    start.advance.Sound := by
  unfold Startup.advance
  cases stage : start.stage with
  | reading =>
      simp only [Sound, stage] at sound
      rcases sound with ⟨undisturbed, unseen⟩
      have found : start.file = start.opening := by
        rw [file_of_later_eq_nil unseen, unwatched_of_between_eq_nil undisturbed]
      exact ⟨found, unseen⟩
  | parsing found =>
      simp only [Sound, stage] at sound
      rcases sound with ⟨rfl, unseen⟩
      dsimp only [Store.ofFile]
      cases loads : Snapshot.load start.opening with
      | ok snapshot =>
          exact ⟨loads, unseen⟩
      | error fault =>
          trivial
  | opened store stopRequested =>
      simp only [Sound, stage] at sound
      rcases sound with ⟨opens, unseen⟩
      have established : (State.start store start.file).Invariant store start.unwatched := by
        rw [file_of_later_eq_nil unseen]
        exact State.Invariant.start store start.unwatched
      refine ⟨store, opens, ?_, ?_⟩
      · cases stopRequested <;> rfl
      · rintro read (seen | rfl)
        · exact absurd unseen seen
        · cases stopRequested with
          | true =>
              exact established.step .requestStop
          | false =>
              exact established
  | watching state =>
      simp only [Sound, stage] at sound
      rcases sound with ⟨store, watched⟩
      exact ⟨store, watched.step nofun⟩
  | refused fault =>
      exact sound

/-- Before there is a watch, notices are lost and a request to stop is kept. -/
theorem Sound.deliver
    (sound : start.Sound)
    {move : Move}
    (keeps : ∀ file, move ≠ .replace file) :
    (start.deliver move).Sound := by
  unfold Startup.deliver
  cases stage : start.stage with
  | opened store stopRequested =>
      simp only [Sound, stage] at sound
      exact sound
  | watching state =>
      simp only [Sound, stage] at sound
      rcases sound with ⟨store, watched⟩
      exact ⟨store, watched.step keeps⟩
  | _ =>
      exact sound

theorem Sound.step
    (sound : start.Sound)
    (move : Move) :
    (start.step move).Sound := by
  cases move with
  | replace file =>
      exact sound.replace file
  | advance =>
      exact sound.advance
  | _ =>
      exact sound.deliver nofun

/-- What is known at the beginning stays true through all moves. -/
theorem Sound.run
    (sound : start.Sound)
    (moves : List Move) :
    (start.run moves).Sound := by
  induction moves generalizing start with
  | nil =>
      exact sound
  | cons move moves inductionHypothesis =>
      exact inductionHypothesis (sound.step move)

/-- Only a replacement adds to what the file was replaced with. -/
theorem mem_replaced_step
    {file : File}
    {move : Move}
    (member : file ∈ (start.step move).replaced) :
    file ∈ start.replaced ∨ move = .replace file := by
  rcases start with ⟨path, initial, stage, earlier, between, later⟩
  cases move with
  | replace other =>
      cases stage <;>
        simp only [step, replace, replaced, List.mem_append, List.mem_singleton] at member ⊢ <;>
        grind
  | advance =>
      refine .inl ?_
      cases stage with
      | parsing found =>
          simp only [step, advance] at member
          split at member <;> exact member
      | _ =>
          exact member
  | _ =>
      refine .inl ?_
      cases stage <;> exact member

/-- What the file was replaced with came by one of the moves. -/
theorem mem_replaced_run
    {file : File}
    {moves : List Move}
    (member : file ∈ (start.run moves).replaced) :
    file ∈ start.replaced ∨ .replace file ∈ moves := by
  induction moves generalizing start with
  | nil =>
      exact .inl member
  | cons move moves inductionHypothesis =>
      rcases inductionHypothesis member with before | among
      · rcases mem_replaced_step before with earlier | rfl
        · exact .inl earlier
        · exact .inr List.mem_cons_self
      · exact .inr (List.mem_cons_of_mem move among)

/-! ## When nothing is left to deal with -/

variable
    {state : State}
    {store : Store}

/-- If every replacement is valid, so is what the file holds. -/
theorem Watched.exists_load_file
    (watched : start.Watched state store)
    (valid : ∀ file ∈ start.replaced, ∃ snapshot, Snapshot.load file = .ok snapshot) :
    ∃ snapshot, Snapshot.load start.file = .ok snapshot := by
  by_cases untouched : start.replaced = []
  · have unread : start.earlier = [] := by
      simp only [replaced, List.append_eq_nil_iff] at untouched
      exact untouched.1.1
    have same : start.file = start.opening := by
      rw [file, opening, untouched, unread]
    exact ⟨_, same ▸ watched.opens⟩
  · have last : start.file = start.replaced.getLast untouched := by
      rw [file, List.getLastD_eq_getLast?, List.getLast?_eq_some_getLast untouched]
      rfl
    exact valid start.file (last ▸ List.getLast_mem untouched)

/-- A reload, or a notice of one, makes up for whatever the store was opened on. -/
theorem Watched.invariant_opening
    (watched : start.Watched state store)
    (quiet : state.Quiet)
    (seen : start.between = [] ∨ start.later ≠ [] ∨ state.reads ≠ []) :
    state.Invariant store start.opening := by
  have known := watched.invariant start.unwatched (.inr rfl)
  rcases seen with undisturbed | replaced | reloaded
  · rw [unwatched_of_between_eq_nil undisturbed] at known
    exact known
  · exact watched.invariant start.opening (.inl replaced)
  · refine ⟨known.reloaded, .inr ?_⟩
    have last := known.upToDate.resolve_left quiet.not_pending
    rcases List.eq_nil_or_concat state.reads with none | ⟨earlier, read, reads⟩
    · exact absurd none reloaded
    · simpa [reads] using last

/-- With nothing left to deal with, the last valid content that was read is published. -/
theorem Watched.published_eq
    (watched : start.Watched state store)
    (quiet : state.Quiet) :
    state.watcher.store.current.snapshot =
      lastValid store.current.snapshot state.reads := by
  have known := watched.invariant start.unwatched (.inr rfl)
  rw [quiet.store_eq_reloads known, Store.snapshot_reloads]

/-- The file is published if no replacement came unseen, or a later one was seen. -/
theorem Watched.load_file_of_seen
    (watched : start.Watched state store)
    (quiet : state.Quiet)
    (valid : ∃ snapshot, Snapshot.load start.file = .ok snapshot)
    (seen : start.between = [] ∨ start.later ≠ [] ∨ state.reads ≠ []) :
    Snapshot.load start.file = .ok state.watcher.store.current.snapshot := by
  rcases valid with ⟨snapshot, loads⟩
  have upToDate :=
    (watched.invariant_opening quiet seen).upToDate.resolve_left quiet.not_pending
  have last : Snapshot.load (state.reads.getLastD start.opening) = .ok snapshot := by
    rw [upToDate, watched.sameFile, loads]
  have published : state.watcher.store.current.snapshot = snapshot :=
    (watched.published_eq quiet).trans (lastValid_of_load_getLastD watched.opens last)
  rw [loads, published]

/-- Without any read since, what the store was opened on is still published. -/
theorem Watched.load_opening_of_reads_eq_nil
    (watched : start.Watched state store)
    (quiet : state.Quiet)
    (unread : state.reads = []) :
    Snapshot.load start.opening = .ok state.watcher.store.current.snapshot := by
  have published : state.watcher.store.current.snapshot = store.current.snapshot := by
    rw [watched.published_eq quiet, unread]
    rfl
  rw [watched.opens, published]

/-- What a watched store publishes, of what its file held since the process began. -/
structure Publishes (start : Startup) (state : State) (snapshot : Snapshot) : Prop where
  /-- It is the final content, unless replacements in between were the last ones. -/
  final :
    start.between = [] ∨ start.later ≠ [] → Snapshot.load start.file = .ok snapshot
  /-- Without a reload, it is what the store was opened on. -/
  opening : state.reads = [] → Snapshot.load start.opening = .ok snapshot
  /-- So the final content is missed exactly if it is new and no reload has read the file. -/
  final_iff :
    Snapshot.load start.file = .ok snapshot ↔
      state.reads ≠ [] ∨ Snapshot.load start.opening = Snapshot.load start.file

/--
Whenever the file is replaced while a process sets up its watch, and with whatever valid
content: once nothing is left to deal with, the final content is published unless it came
after the file was read and before it was watched, and was not read since.
-/
theorem publishes_of_quiet
    {path : String}
    {initial : File}
    {moves : List Move}
    {state : State}
    (valid : ∀ file, .replace file ∈ moves → ∃ snapshot, Snapshot.load file = .ok snapshot)
    (watching : ((begin path initial).run moves).stage = .watching state)
    (quiet : state.Quiet) :
    ((begin path initial).run moves).Publishes state state.watcher.store.current.snapshot := by
  have atFirst : (begin path initial).Sound :=
    ⟨rfl, rfl⟩
  have sound := atFirst.run moves
  simp only [Sound, watching] at sound
  rcases sound with ⟨store, watched⟩
  have loads : ∃ snapshot, Snapshot.load ((begin path initial).run moves).file = .ok snapshot := by
    refine watched.exists_load_file fun file member => ?_
    rcases mem_replaced_run member with before | among
    · cases before
    · exact valid file among
  refine ⟨?_, watched.load_opening_of_reads_eq_nil quiet, ?_, ?_⟩
  · rintro (undisturbed | replaced)
    · exact watched.load_file_of_seen quiet loads (.inl undisturbed)
    · exact watched.load_file_of_seen quiet loads (.inr (.inl replaced))
  · intro final
    by_cases unread : state.reads = []
    · exact .inr ((watched.load_opening_of_reads_eq_nil quiet unread).trans final.symm)
    · exact .inl unread
  · rintro (reloaded | same)
    · exact watched.load_file_of_seen quiet loads (.inr (.inr reloaded))
    · by_cases unread : state.reads = []
      · rw [← same]
        exact watched.load_opening_of_reads_eq_nil quiet unread
      · exact watched.load_file_of_seen quiet loads (.inr (.inr unread))

/-- The file is replaced after its content was read and before it is watched. -/
def overtaken : List Move :=
  [.advance, .replace State.rehearsalRevision, .advance, .advance, .advance]

/-- Once the file is watched, it is replaced again. -/
def recovered : List Move :=
  overtaken ++ [.replace State.rehearsalRevision, .notify State.rehearsalChange] ++
    List.replicate 6 .advance

/-- A start on the empty configuration. -/
def rehearsal (moves : List Move) : Startup :=
  (begin "conf.json" (.bytes [123, 125])).run moves

/-- The revision of the rehearsal is valid. -/
theorem exists_load_rehearsalRevision :
    ∃ snapshot, Snapshot.load State.rehearsalRevision = .ok snapshot ∧
      snapshot.authorityIds = ["1"] := by
  have trusted :
      (Snapshot.load State.rehearsalRevision).toOption.map (·.authorityIds) = some ["1"] := by
    decide +kernel
  cases loads : Snapshot.load State.rehearsalRevision with
  | error fault =>
      rw [loads] at trusted
      cases trusted
  | ok snapshot =>
      rw [loads] at trusted
      exact ⟨snapshot, rfl, Option.some.inj trusted⟩

theorem exists_load_of_mem_recovered
    {file : File}
    (member : .replace file ∈ recovered) :
    ∃ snapshot, Snapshot.load file = .ok snapshot := by
  have same : file = State.rehearsalRevision := by
    simpa [recovered, overtaken] using member
  rcases exists_load_rehearsalRevision with ⟨snapshot, loads, _⟩
  exact ⟨snapshot, same ▸ loads⟩

/-- The replacement that is seen makes up for the one that was not. -/
theorem publishes_of_quiet_recovered :
    ∃ state,
      (∀ file, .replace file ∈ recovered → ∃ snapshot, Snapshot.load file = .ok snapshot) ∧
        (rehearsal recovered).stage = .watching state ∧
        state.Quiet ∧
        (rehearsal recovered).Publishes state state.watcher.store.current.snapshot ∧
        state.watcher.store.current.snapshot.authorityIds = ["1"] := by
  have valid : ∀ file, .replace file ∈ recovered →
      ∃ snapshot, Snapshot.load file = .ok snapshot :=
    fun _ => exists_load_of_mem_recovered
  refine ⟨_, valid, rfl, ⟨rfl, rfl, rfl⟩, ?_⟩
  have publishes : (rehearsal recovered).Publishes _ _ :=
    publishes_of_quiet valid rfl ⟨rfl, rfl, rfl⟩
  refine ⟨publishes, ?_⟩
  rcases exists_load_rehearsalRevision with ⟨snapshot, loads, trusted⟩
  have final : Snapshot.load State.rehearsalRevision = .ok _ :=
    publishes.final (.inr (List.cons_ne_nil _ _))
  rw [← Except.ok.inj (loads.symm.trans final)]
  exact trusted

/-- The valid content that came in between stays unpublished, with nothing left to deal with. -/
theorem overtaken_unpublished :
    ∃ state snapshot,
      (∀ file, .replace file ∈ overtaken → ∃ snapshot, Snapshot.load file = .ok snapshot) ∧
        (rehearsal overtaken).stage = .watching state ∧
        state.Quiet ∧
        Snapshot.load (rehearsal overtaken).file = .ok snapshot ∧
        state.watcher.store.current.snapshot ≠ snapshot := by
  have valid : ∀ file, .replace file ∈ overtaken →
      ∃ snapshot, Snapshot.load file = .ok snapshot := by
    intro file member
    exact exists_load_of_mem_recovered
      (List.mem_append_left _ (List.mem_append_left _ member))
  rcases exists_load_rehearsalRevision with ⟨snapshot, loads, trusted⟩
  refine ⟨_, snapshot, valid, rfl, ⟨rfl, rfl, rfl⟩, loads, ?_⟩
  rintro rfl
  cases trusted

end Startup

end Notary.Config.Watching
