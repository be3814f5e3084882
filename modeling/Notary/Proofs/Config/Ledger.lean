import Notary.Config.Store
import Notary.Proofs.Config.Acceptance
import Notary.Proofs.Config.Lookup

namespace Notary.Config

/-!
# The store as a ledger

A ledger is what users see of a store: the published document, the documents of
the snapshots that are held, each with a mark that tells whether it is still the
published one, and how many reloads succeeded and failed. It knows neither
indexes nor numbers of publications. Whatever happens to the file and to the
store, in any order, the store answers as its ledger does.
-/

open Journal (Note)

/-- Something that happens to the file or is asked of the store. -/
inductive Action where
  /-- The file is changed into anything, or removed. -/
  | change (file : File)
  | reload
  /-- Hold the published snapshot; the snapshots held are numbered from zero. -/
  | hold
  | lookup (kind : Kind) (id : String)
  | lookupHeld (position : Nat) (kind : Kind) (id : String)
  | isCurrent (position : Nat)
deriving Repr, DecidableEq

/-- What comes back from an action. -/
inductive Response where
  | done
  | reloaded (published : Bool)
  | found (entry : Option Entry)
  | current (yes : Bool)
  /-- No snapshot is held at that position. -/
  | notHeld
deriving Repr, DecidableEq

/-- The results of actions in order, from a function that carries out one of them. -/
def conduct {σ : Type} (step : σ → Action → σ × Response) (state : σ) :
    List Action → σ × List Response
  | [] => (state, [])
  | action :: rest =>
      let after := step state action
      let later := conduct step after.1 rest
      (later.1, after.2 :: later.2)

/-- The store in use, with the file behind it and the snapshots that are held. -/
structure Usage where
  store : Store
  file : File
  held : List Published
  notes : List Note

namespace Usage

/-- The effect of an action on the store and the response to it. -/
def step (usage : Usage) : Action → Usage × Response
  | .change file => ({ usage with file := file }, .done)
  | .reload =>
      let reload := usage.store.reload usage.file
      ({ usage with store := reload.store, notes := usage.notes ++ reload.notes },
        .reloaded reload.published)
  | .hold => ({ usage with held := usage.held ++ [usage.store.current] }, .done)
  | .lookup kind id => (usage, .found <| usage.store.current.snapshot.entry? kind id)
  | .lookupHeld position kind id =>
      (usage, usage.held[position]?.elim .notHeld fun held =>
        .found <| held.snapshot.entry? kind id)
  | .isCurrent position =>
      (usage, usage.held[position]?.elim .notHeld fun held =>
        .current (usage.store.isCurrent held))

end Usage

/-- A held document. -/
structure HeldDocument where
  document : Document
  /-- Whether nothing was published since the document was taken. -/
  isCurrent : Bool
deriving Repr, DecidableEq

/-- What users see of a store. -/
structure Ledger where
  file : File
  published : Document
  held : List HeldDocument
  successes : Nat
  failures : Nat
deriving Repr, DecidableEq

namespace Ledger

/-- The effect of an action on a ledger and the response to it. -/
def step (ledger : Ledger) : Action → Ledger × Response
  | .change file => ({ ledger with file := file }, .done)
  | .reload =>
      match ledger.file.document? with
      | some document =>
          ({ ledger with
              published := document
              held := ledger.held.map fun held => { held with isCurrent := false }
              successes := ledger.successes + 1 },
            .reloaded true)
      | none => ({ ledger with failures := ledger.failures + 1 }, .reloaded false)
  | .hold => ({ ledger with held := ledger.held ++ [⟨ledger.published, true⟩] }, .done)
  | .lookup kind id => (ledger, .found (ledger.published.first? kind id))
  | .lookupHeld position kind id =>
      (ledger, ledger.held[position]?.elim .notHeld fun held =>
        .found (held.document.first? kind id))
  | .isCurrent position =>
      (ledger, ledger.held[position]?.elim .notHeld fun held => .current held.isCurrent)

end Ledger

namespace Usage

/-- The ledger of a store in use. -/
def ledger (usage : Usage) : Ledger where
  file := usage.file
  published := usage.store.current.snapshot.document
  held := usage.held.map fun held =>
    ⟨held.snapshot.document, usage.store.isCurrent held⟩
  successes := Journal.total (.reload true) usage.notes
  failures := Journal.total (.reload false) usage.notes

/-- What holds of a store in use from its opening on. -/
structure Sound (usage : Usage) : Prop where
  /-- Every snapshot was prepared from its document. -/
  prepared : ∀ published ∈ usage.store.current :: usage.held,
    published.snapshot = .ofDocument published.snapshot.document published.snapshot.valid
  /-- No snapshot that is held has a number yet to come. -/
  numbered : ∀ held ∈ usage.held, held.number ≤ usage.store.current.number

end Usage

/-- A reload of an accepted file publishes its document. -/
theorem Store.reload_of_document?_some
    {file : File}
    {document : Document}
    (accepted : file.document? = some document)
    (store : Store) :
    ∃ valid, store.reload file =
      ⟨store.publish (.ofDocument document valid), true,
        [.event (.configurationReloaded store.path), .count (.reload true)]⟩ := by
  obtain ⟨valid, loaded⟩ := Snapshot.load_of_document?_some accepted
  refine ⟨valid, ?_⟩
  unfold Store.reload
  rw [loaded]

/-- A reload of a file that is not accepted leaves the store as it is. -/
theorem Store.reload_of_document?_none
    {file : File}
    (refused : file.document? = none)
    (store : Store) :
    ∃ fault : LoadFault, store.reload file =
      ⟨store, false,
        fault.notes ++
          [.event (.reloadFailed store.path fault.message), .count (.reload false)]⟩ := by
  obtain ⟨fault, loaded⟩ := Snapshot.load_of_document?_none refused
  refine ⟨fault, ?_⟩
  unfold Store.reload
  rw [loaded]

/-- No counter is incremented on account of the entries that are logged. -/
theorem LoadFault.counts_notes
    (fault : LoadFault) :
    Journal.counts fault.notes = [] := by
  cases fault with
  | invalid problems =>
      simp [LoadFault.notes, Journal.counts, List.filterMap_map, Function.comp_def,
        Journal.Note.count?]
  | _ =>
      rfl

/-- A reload is counted once, as the success or the failure that it is. -/
theorem Store.counts_reload
    (store : Store)
    (file : File) :
    Journal.counts (store.reload file).notes = [.reload (store.reload file).published] := by
  unfold Store.reload
  cases Snapshot.load file with
  | ok snapshot =>
      rfl
  | error fault =>
      have silent : fault.notes.filterMap Note.count? = [] :=
        LoadFault.counts_notes fault
      rw [Journal.counts, List.filterMap_append, silent]
      rfl

theorem Store.total_reload
    (store : Store)
    (file : File)
    (success : Bool) :
    Journal.total (.reload success) (store.reload file).notes =
      if (store.reload file).published = success then 1 else 0 := by
  rw [Journal.total, Store.counts_reload]
  cases success <;> cases (store.reload file).published <;> rfl

namespace Usage

variable
    {usage : Usage}

/-- Every action keeps the snapshots prepared and the numbers in order. -/
theorem Sound.step
    (sound : usage.Sound)
    (action : Action) :
    (usage.step action).1.Sound := by
  cases action with
  | change file =>
      exact ⟨sound.prepared, sound.numbered⟩
  | reload =>
      cases accepted : usage.file.document? with
      | some document =>
          obtain ⟨valid, reloaded⟩ :=
            Store.reload_of_document?_some accepted usage.store
          simp only [Usage.step, reloaded]
          constructor
          · intro published member
            rcases List.mem_cons.mp member with rfl | held
            · rfl
            · exact sound.prepared published (List.mem_cons_of_mem _ held)
          · intro held member
            exact Nat.le_succ_of_le (sound.numbered held member)
      | none =>
          obtain ⟨fault, reloaded⟩ :=
            Store.reload_of_document?_none accepted usage.store
          simp only [Usage.step, reloaded]
          exact ⟨sound.prepared, sound.numbered⟩
  | hold =>
      constructor
      · intro published member
        refine sound.prepared published ?_
        simp only [Usage.step, List.mem_cons, List.mem_append, List.not_mem_nil, or_false]
          at member
        rcases member with now | held | now
        · exact List.mem_cons.mpr (.inl now)
        · exact List.mem_cons.mpr (.inr held)
        · exact List.mem_cons.mpr (.inl now)
      · intro held member
        rcases List.mem_append.mp member with before | now
        · exact sound.numbered held before
        · rw [List.mem_singleton.mp now]
          exact Nat.le_refl _
  | lookup kind id =>
      exact sound
  | lookupHeld position kind id =>
      exact sound
  | isCurrent position =>
      exact sound

/-- What a snapshot finds is what its document has first. -/
theorem Sound.find_eq_first
    {published : Published}
    (sound : usage.Sound)
    (member : published ∈ usage.store.current :: usage.held)
    (kind : Kind)
    (id : String) :
    published.snapshot.entry? kind id = published.snapshot.document.first? kind id := by
  rw [sound.prepared published member, Snapshot.find_ofDocument]
  rfl

/-- Publishing makes every snapshot that is held an old one. -/
theorem Sound.isCurrent_publish
    {held : Published}
    (sound : usage.Sound)
    (member : held ∈ usage.held)
    (snapshot : Snapshot) :
    (usage.store.publish snapshot).isCurrent held = false := by
  have older := sound.numbered held member
  have different : held.number ≠ usage.store.current.number + 1 := by
    omega
  simpa [Store.isCurrent, Store.publish] using different

/-- The ledger of a store takes a reload as the store does. -/
theorem Sound.ledger_reload
    (sound : usage.Sound) :
    (usage.step .reload).1.ledger = (usage.ledger.step .reload).1 ∧
      (usage.step .reload).2 = (usage.ledger.step .reload).2 := by
  have sameFile : usage.ledger.file = usage.file := rfl
  have succeeded := Store.total_reload usage.store usage.file true
  have failed := Store.total_reload usage.store usage.file false
  cases accepted : usage.file.document? with
  | some document =>
      obtain ⟨valid, reloaded⟩ := Store.reload_of_document?_some accepted usage.store
      have old : usage.held.map (fun held =>
            (⟨held.snapshot.document,
              (usage.store.publish (.ofDocument document valid)).isCurrent held⟩ :
              HeldDocument)) =
          usage.held.map fun held => ⟨held.snapshot.document, false⟩ := by
        apply List.map_congr_left
        intro held member
        rw [sound.isCurrent_publish member]
      rw [reloaded] at succeeded failed
      constructor
      · simp only [Usage.step, Ledger.step, accepted, reloaded, ledger, Journal.total_append, old,
          succeeded, failed, List.map_map]
        rfl
      · simp only [Usage.step, Ledger.step, sameFile, accepted, reloaded]
  | none =>
      obtain ⟨fault, reloaded⟩ := Store.reload_of_document?_none accepted usage.store
      rw [reloaded] at succeeded failed
      constructor
      · simp only [Usage.step, Ledger.step, accepted, reloaded, ledger, Journal.total_append, succeeded,
          failed]
        rfl
      · simp only [Usage.step, Ledger.step, sameFile, accepted, reloaded]

/-- What was held at a position is in the ledger at that position. -/
theorem ledger_held_getElem?
    (usage : Usage)
    (position : Nat) :
    usage.ledger.held[position]? =
      usage.held[position]?.map fun held =>
        ⟨held.snapshot.document, usage.store.isCurrent held⟩ :=
  List.getElem?_map

/-- Whatever the action, the ledger of a store takes it as the store does. -/
theorem Sound.ledger_step
    (sound : usage.Sound)
    (action : Action) :
    (usage.step action).1.ledger = (usage.ledger.step action).1 ∧
      (usage.step action).2 = (usage.ledger.step action).2 := by
  cases action with
  | change file =>
      exact ⟨rfl, rfl⟩
  | reload =>
      exact sound.ledger_reload
  | hold =>
      refine ⟨?_, rfl⟩
      simp [Usage.step, Ledger.step, ledger, Store.isCurrent]
  | lookup kind id =>
      refine ⟨rfl, ?_⟩
      have first := sound.find_eq_first List.mem_cons_self kind id
      exact congrArg Response.found first
  | lookupHeld position kind id =>
      refine ⟨rfl, ?_⟩
      simp only [Usage.step, Ledger.step, ledger_held_getElem?]
      cases inHand : usage.held[position]? with
      | none =>
          rfl
      | some held =>
          have member : held ∈ usage.store.current :: usage.held :=
            List.mem_cons_of_mem _ (List.mem_of_getElem? inHand)
          exact congrArg Response.found (sound.find_eq_first member kind id)
  | isCurrent position =>
      refine ⟨rfl, ?_⟩
      simp only [Usage.step, Ledger.step, ledger_held_getElem?]
      cases usage.held[position]? <;> rfl

/-- After any actions, the ledger of a store is where the same actions take it. -/
theorem Sound.ledger_conduct
    (sound : usage.Sound)
    (actions : List Action) :
    (conduct Usage.step usage actions).1.ledger =
        (conduct Ledger.step usage.ledger actions).1 ∧
      (conduct Usage.step usage actions).2 =
        (conduct Ledger.step usage.ledger actions).2 := by
  induction actions generalizing usage with
  | nil =>
      exact ⟨rfl, rfl⟩
  | cons action rest inductionHypothesis =>
      obtain ⟨sameLedger, sameResponse⟩ := sound.ledger_step action
      obtain ⟨finalLedger, laterResponses⟩ := inductionHypothesis (sound.step action)
      rw [sameLedger] at finalLedger laterResponses
      refine ⟨finalLedger, ?_⟩
      simp only [conduct]
      rw [sameResponse, laterResponses]

/-- Every action keeps what is held, and only a reload that publishes makes it an old one. -/
theorem Sound.held_step
    {position : Nat}
    {held : Published}
    (sound : usage.Sound)
    (inHand : usage.held[position]? = some held)
    (action : Action) :
    (usage.step action).1.held[position]? = some held ∧
      ((usage.step action).1.store.isCurrent held = true ↔
        usage.store.isCurrent held = true ∧ (usage.step action).2 ≠ .reloaded true) := by
  cases action with
  | reload =>
      refine ⟨inHand, ?_⟩
      cases accepted : usage.file.document? with
      | some document =>
          obtain ⟨valid, reloaded⟩ := Store.reload_of_document?_some accepted usage.store
          have old := sound.isCurrent_publish (List.mem_of_getElem? inHand)
            (.ofDocument document valid)
          simp [Usage.step, reloaded, old]
      | none =>
          obtain ⟨fault, reloaded⟩ := Store.reload_of_document?_none accepted usage.store
          simp [Usage.step, reloaded]
  | hold =>
      have present : position < usage.held.length :=
        (List.getElem?_eq_some_iff.mp inHand).1
      refine ⟨?_, by simp [Usage.step]⟩
      simp only [Usage.step]
      rw [List.getElem?_append_left present, inHand]
  | lookupHeld other kind id =>
      refine ⟨inHand, ?_⟩
      cases found : usage.held[other]? <;> simp [Usage.step, found]
  | isCurrent other =>
      refine ⟨inHand, ?_⟩
      cases found : usage.held[other]? <;> simp [Usage.step, found]
  | _ =>
      exact ⟨inHand, by simp [Usage.step]⟩

/-- A snapshot that is held stays as it is, and is an old one once a reload has published. -/
theorem Sound.held_conduct
    {position : Nat}
    {held : Published}
    (sound : usage.Sound)
    (inHand : usage.held[position]? = some held)
    (actions : List Action) :
    (conduct Usage.step usage actions).1.held[position]? = some held ∧
      ((conduct Usage.step usage actions).1.store.isCurrent held = true ↔
        usage.store.isCurrent held = true ∧
          .reloaded true ∉ (conduct Usage.step usage actions).2) := by
  induction actions generalizing usage with
  | nil =>
      simp [conduct, inHand]
  | cons action rest inductionHypothesis =>
      obtain ⟨stillInHand, currentAfter⟩ := sound.held_step inHand action
      obtain ⟨inHandFinally, currentFinally⟩ :=
        inductionHypothesis (sound.step action) stillInHand
      refine ⟨inHandFinally, ?_⟩
      simp only [conduct, List.mem_cons, not_or]
      rw [currentFinally, currentAfter, and_assoc, ne_comm]

/-- A lookup in what is held at a position. -/
theorem step_lookupHeld
    {position : Nat}
    {held : Published}
    (inHand : usage.held[position]? = some held)
    (kind : Kind)
    (id : String) :
    (usage.step (.lookupHeld position kind id)).2 =
      (.found <| held.snapshot.entry? kind id) := by
  simp [Usage.step, inHand]

/-- The test of what is held at a position. -/
theorem step_isCurrent
    {position : Nat}
    {held : Published}
    (inHand : usage.held[position]? = some held) :
    (usage.step (.isCurrent position)).2 = .current (usage.store.isCurrent held) := by
  simp [Usage.step, inHand]

/-- Every run keeps the snapshots prepared and the numbers in order. -/
theorem Sound.conducted
    (sound : usage.Sound)
    (actions : List Action) :
    (conduct Usage.step usage actions).1.Sound := by
  induction actions generalizing usage with
  | nil =>
      exact sound
  | cons action rest inductionHypothesis =>
      exact inductionHypothesis (sound.step action)

/-- What becomes, over later actions, of the published snapshot if it is held now. -/
structure KeepsHeld (usage : Usage) (later : List Action) : Prop where
  /-- It keeps answering all lookups as the store does now. -/
  lookups : ∀ kind id,
    ((conduct Usage.step usage (.hold :: later)).1.step
        (.lookupHeld usage.held.length kind id)).2 =
      (usage.step (.lookup kind id)).2
  /-- It is still current unless one of the later reloads published. -/
  current :
    ((conduct Usage.step usage (.hold :: later)).1.step (.isCurrent usage.held.length)).2 =
      .current (decide (.reloaded true ∉ (conduct Usage.step usage (.hold :: later)).2))

/-- The published snapshot can be held at any time. -/
theorem Sound.keepsHeld
    (sound : usage.Sound)
    (later : List Action) :
    usage.KeepsHeld later := by
  have taken : (usage.step .hold).1.held[usage.held.length]? = some usage.store.current := by
    simp [Usage.step]
  obtain ⟨inHand, current⟩ := (sound.step .hold).held_conduct taken later
  have isCurrent : (usage.step .hold).1.store.isCurrent usage.store.current = true := by
    simp [Usage.step, Store.isCurrent]
  constructor
  · intro kind id
    exact step_lookupHeld inHand kind id
  · calc
      ((conduct Usage.step (usage.step .hold).1 later).1.step (.isCurrent usage.held.length)).2
        = Response.current ((conduct Usage.step (usage.step .hold).1 later).1.store.isCurrent
            usage.store.current) := step_isCurrent inHand
      _ = Response.current (decide (.reloaded true ∉
            .done :: (conduct Usage.step (usage.step .hold).1 later).2)) := by
        congr 1
        rw [Bool.eq_iff_iff, current, decide_eq_true_iff]
        simp [isCurrent]

/-- A store that has just been opened on a file. -/
def opened (store : Store) (file : File) (notes : List Note) : Usage :=
  ⟨store, file, [], notes⟩

end Usage

/-- The ledger of a store that has just been opened on a file with a given document. -/
def Ledger.opened (document : Document) (file : File) : Ledger :=
  ⟨file, document, [], 0, 0⟩

/-- A store opens exactly on an accepted file, and its ledger begins with that document. -/
theorem Usage.opened_of_ofFile
    {path : String}
    {file : File}
    {store : Store}
    {notes : List Note}
    (opens : Store.ofFile path file = (.ok store, notes)) :
    ∃ document, file.document? = some document ∧
      (Usage.opened store file notes).Sound ∧
      (Usage.opened store file notes).ledger = Ledger.opened document file := by
  cases accepted : file.document? with
  | some document =>
      obtain ⟨valid, loaded⟩ := Snapshot.load_of_document?_some accepted
      simp only [Store.ofFile, loaded, Prod.mk.injEq, Except.ok.injEq] at opens
      obtain ⟨rfl, rfl⟩ := opens
      refine ⟨document, rfl, ⟨?_, ?_⟩, rfl⟩
      · intro published member
        rw [List.mem_singleton.mp member]
        rfl
      · intro held member
        cases member
  | none =>
      obtain ⟨fault, loaded⟩ := Snapshot.load_of_document?_none accepted
      simp [Store.ofFile, loaded] at opens

/--
A store refines its ledger. From its opening on a valid file, any actions get the
responses that the ledger gives and leave what the ledger says. A snapshot that is
held then keeps what it is over all later actions.
-/
theorem store_refines_ledger
    {path : String}
    {file : File}
    {store : Store}
    {notes : List Note}
    (opens : Store.ofFile path file = (.ok store, notes))
    (actions : List Action) :
    ∃ document, file.document? = some document ∧
      (conduct Usage.step (.opened store file notes) actions).2 =
        (conduct Ledger.step (.opened document file) actions).2 ∧
      (conduct Usage.step (.opened store file notes) actions).1.ledger =
        (conduct Ledger.step (.opened document file) actions).1 ∧
      ∀ later, (conduct Usage.step (.opened store file notes) actions).1.KeepsHeld later := by
  obtain ⟨document, accepted, sound, atFirst⟩ := Usage.opened_of_ofFile opens
  obtain ⟨sameLedger, sameResponses⟩ := sound.ledger_conduct actions
  rw [atFirst] at sameLedger sameResponses
  refine ⟨document, accepted, sameResponses, sameLedger, ?_⟩
  intro later
  exact (sound.conducted actions).keepsHeld later

/-- An empty configuration. -/
def rehearsalFile : File :=
  .bytes [123, 125]

/-- A snapshot is held, a reload fails, and another publishes the same content again. -/
def rehearsalActions : List Action :=
  [.hold, .change .absent, .reload, .isCurrent 0, .change rehearsalFile, .reload, .isCurrent 0,
    .lookupHeld 0 .proof "1"]

/-- A snapshot outlives a reload that fails, and is an old one after a reload of equal content. -/
theorem store_refines_ledger_unchanged_content :
    ∃ store notes, Store.ofFile "conf.json" rehearsalFile = (.ok store, notes) ∧
      (∃ document, rehearsalFile.document? = some document ∧
        (conduct Usage.step (.opened store rehearsalFile notes) rehearsalActions).2 =
          (conduct Ledger.step (.opened document rehearsalFile) rehearsalActions).2 ∧
        (conduct Usage.step (.opened store rehearsalFile notes) rehearsalActions).1.ledger =
          (conduct Ledger.step (.opened document rehearsalFile) rehearsalActions).1 ∧
        ∀ later,
          (conduct Usage.step (.opened store rehearsalFile notes)
            rehearsalActions).1.KeepsHeld later) ∧
      (conduct Usage.step (.opened store rehearsalFile notes) rehearsalActions).2 =
        [.done, .done, .reloaded false, .current true, .done, .reloaded true, .current false,
          .found none] :=
  have opens : Store.ofFile "conf.json" rehearsalFile =
      (.ok (.ofSnapshot "conf.json" .empty),
        [.event (.configurationLoaded "conf.json")]) := rfl
  ⟨_, _, opens, store_refines_ledger opens rehearsalActions, by decide +kernel⟩

end Notary.Config
