import Mathlib.Data.List.Basic
import Notary.Proofs.Config.Acceptance

namespace Notary.Config

/-!
# Problems are located exactly

A document is inspected in one pass with a single counter, which starts again where another
collection begins. What is found is nevertheless what each collection has by itself: the
problems of each entry at its position there. So a problem leads to its entry, an entry has
all of its problems reported at its own place and nobody else's, and another entry in that
place changes nothing elsewhere.
-/

/-- The problems of entries, each at the position of its entry. -/
def placed (entries : List Entry) (start : Nat) : List Problem :=
  (entries.zipIdx start).flatMap fun (e, position) => e.problems.map (e.locate position)

/-- The problems of a collection. -/
def Document.located (d : Document) (kind : Kind) : List Problem :=
  placed (d.collection kind) 0

/-- Whether a problem is one of the entry at a position of a collection. -/
def Problem.isAt (kind : Kind) (position : Nat) (p : Problem) : Bool :=
  p.kind = kind && p.index = position

/-- The document with another entry at a position of the collection that the entry belongs to. -/
def Document.replace (d : Document) (position : Nat) : Entry → Document
  | .signature e => { d with signature := d.signature.set position e }
  | .proof e => { d with proof := d.proof.set position e }
  | .signatureVerification e =>
      { d with signatureVerification := d.signatureVerification.set position e }
  | .certificateVerification e =>
      { d with certificateVerification := d.certificateVerification.set position e }
  | .ca e => { d with ca := d.ca.set position e }

section Pass

variable
    {kind : Kind}
    {entries : List Entry}

/-- A pass over entries of one kind has entered that kind, or has seen no entry. -/
theorem entered_foldl_inspect
    (belong : ∀ e ∈ entries, e.kind = kind)
    (i : Inspection) :
    (entries.foldl Inspection.inspect i).entered = i.entered ∨
      (entries.foldl Inspection.inspect i).entered = some kind := by
  induction entries generalizing i with
  | nil =>
      exact .inl rfl
  | cons e entries inductionHypothesis =>
      obtain ⟨rfl, belongRest⟩ := List.forall_mem_cons.mp belong
      rcases inductionHypothesis belongRest (i.inspect e) with same | other
      · exact .inr same
      · exact .inr other

/-- Within a collection the counter runs on from entry to entry. -/
theorem found_foldl_inspect_of_kind
    (belong : ∀ e ∈ entries, e.kind = kind)
    (i : Inspection) :
    (entries.foldl Inspection.inspect i).found =
      i.found ++ placed entries (i.next kind) := by
  induction entries generalizing i with
  | nil =>
      simp [placed]
  | cons e entries inductionHypothesis =>
      obtain ⟨rfl, belongRest⟩ := List.forall_mem_cons.mp belong
      have next : (i.inspect e).next e.kind = i.next e.kind + 1 := if_pos rfl
      rw [List.foldl_cons, inductionHypothesis belongRest, next, placed, placed, List.zipIdx_cons,
        List.flatMap_cons, ← List.append_assoc]
      rfl

/-- The counter starts again in a collection that was not entered yet. -/
theorem found_foldl_inspect_flatMap
    (d : Document)
    {kinds : List Kind}
    (distinct : kinds.Nodup)
    (i : Inspection)
    (ahead : ∀ kind ∈ kinds, i.entered ≠ some kind) :
    ((kinds.flatMap d.collection).foldl Inspection.inspect i).found =
      i.found ++ kinds.flatMap d.located := by
  induction kinds generalizing i with
  | nil =>
      simp
  | cons kind kinds inductionHypothesis =>
      obtain ⟨differs, distinctRest⟩ := List.nodup_cons.mp distinct
      obtain ⟨aheadHere, aheadRest⟩ := List.forall_mem_cons.mp ahead
      have belong : ∀ e ∈ d.collection kind, e.kind = kind :=
        fun _ listed => Document.kind_of_mem_collection listed
      let after := (d.collection kind).foldl Inspection.inspect i
      have stillAhead : ∀ other ∈ kinds, after.entered ≠ some other := by
        intro other later entered
        rcases entered_foldl_inspect belong i with same | here
        · exact aheadRest other later (same.symm.trans entered)
        · obtain rfl := Option.some.inj (here.symm.trans entered)
          exact differs later
      have start : i.next kind = 0 := if_neg aheadHere
      have found : after.found = i.found ++ d.located kind := by
        rw [found_foldl_inspect_of_kind belong, start]
        rfl
      rw [List.flatMap_cons, List.foldl_append, inductionHypothesis distinctRest after stillAhead,
        found, List.flatMap_cons, List.append_assoc]

end Pass

/-- The problems of a document are those of its collections, one after the other. -/
theorem Document.problems_eq_flatMap_located
    (d : Document) :
    d.problems = Kind.all.flatMap d.located := by
  have found :=
    found_foldl_inspect_flatMap d (by decide : Kind.all.Nodup) .start (fun _ _ => nofun)
  exact found

/-- Every problem of a list of entries is placed inside of it. -/
theorem index_of_mem_placed
    {entries : List Entry}
    {start : Nat}
    {p : Problem}
    (found : p ∈ placed entries start) :
    start ≤ p.index ∧ p.index < start + entries.length := by
  obtain ⟨⟨e, position⟩, listed, inside⟩ := List.mem_flatMap.mp found
  obtain ⟨problem, -, rfl⟩ := List.mem_map.mp inside
  exact ⟨List.le_snd_of_mem_zipIdx listed, List.snd_lt_add_of_mem_zipIdx listed⟩

/-- The problems of an entry stand after those of the entries before it. -/
theorem placed_append_cons
    (before after : List Entry)
    (e : Entry) :
    placed (before ++ e :: after) 0 =
      placed before 0 ++
        (e.problems.map (e.locate before.length) ++ placed after (before.length + 1)) := by
  rw [placed, List.zipIdx_append, List.zipIdx_cons, List.flatMap_append, List.flatMap_cons,
    Nat.zero_add]
  rfl

namespace Document

variable
    {d : Document}
    {kind : Kind}
    {position : Nat}

/-- To replace an entry changes the collection of its kind, at its position. -/
theorem collection_replace
    (d : Document)
    (position : Nat)
    (e : Entry)
    (kind : Kind) :
    (d.replace position e).collection kind =
      if kind = e.kind then (d.collection kind).set position e else d.collection kind := by
  cases e <;> cases kind <;> simp [replace, collection, Entry.kind, List.map_set]

/-- A problem is located in the collection that it was found in. -/
theorem kind_of_mem_located
    {p : Problem}
    (found : p ∈ d.located kind) :
    p.kind = kind := by
  obtain ⟨⟨e, position⟩, listed, inside⟩ := List.mem_flatMap.mp found
  obtain ⟨problem, -, rfl⟩ := List.mem_map.mp inside
  exact kind_of_mem_collection (List.fst_mem_of_mem_zipIdx listed)

/-- A problem at another index is at another place. -/
theorem isAt_eq_false_of_index
    {p : Problem}
    (differs : p.index ≠ position) :
    p.isAt kind position = false := by
  simp [Problem.isAt, differs]

/-- A problem in another collection is at another place. -/
theorem isAt_eq_false_of_kind
    {p : Problem}
    (differs : p.kind ≠ kind) :
    p.isAt kind position = false := by
  simp [Problem.isAt, differs]

/-- The problems around those of one entry stay the same whichever entry is in its place. -/
theorem exists_around
    {e : Entry}
    (here : (d.collection kind)[position]? = some e) :
    ∃ before after,
      (∀ p ∈ before ++ after, p.isAt kind position = false) ∧
        d.problems = before ++ (e.problems.map (e.locate position) ++ after) ∧
        ∀ other : Entry, other.kind = kind →
          (d.replace position other).problems =
            before ++ (other.problems.map (other.locate position) ++ after) := by
  obtain ⟨earlier, later, split⟩ : ∃ earlier later, Kind.all = earlier ++ kind :: later :=
    List.append_of_mem (by cases kind <;> decide)
  have distinct : (earlier ++ kind :: later).Nodup := by
    rw [← split]
    decide
  have others : kind ∉ earlier ++ later :=
    (List.nodup_cons.mp (List.perm_middle.nodup_iff.mp distinct)).1
  obtain ⟨front, back, shape, rfl⟩ :
      ∃ front back, d.collection kind = front ++ e :: back ∧ front.length = position := by
    obtain ⟨inRange, stands⟩ := List.getElem?_eq_some_iff.mp here
    refine ⟨(d.collection kind).take position, (d.collection kind).drop (position + 1), ?_,
      List.length_take_of_le (Nat.le_of_lt inRange)⟩
    rw [← stands, List.getElem_cons_drop, List.take_append_drop]
  -- What stands at this place is the only thing in which `d` and `d'` may differ.
  have around
      {d' : Document}
      {e' : Entry}
      (same : ∀ kind' ∈ earlier ++ later, d'.collection kind' = d.collection kind')
      (shape' : d'.collection kind = front ++ e' :: back) :
      d'.problems =
        (earlier.flatMap d.located ++ placed front 0) ++
          (e'.problems.map (e'.locate front.length) ++
            (placed back (front.length + 1) ++ later.flatMap d.located)) := by
    have sameLocated : ∀ kind' ∈ earlier ++ later, d'.located kind' = d.located kind' := by
      intro kind' other
      rw [located, located, same kind' other]
    obtain ⟨sameEarlier, sameLater⟩ := List.forall_mem_append.mp sameLocated
    rw [problems_eq_flatMap_located, split, List.flatMap_append, List.flatMap_cons,
      List.flatMap_congr sameEarlier, List.flatMap_congr sameLater, located, shape',
      placed_append_cons]
    simp only [List.append_assoc]
  refine ⟨_, _, ?_, around (fun _ _ => rfl) shape, ?_⟩
  · intro p found
    have elsewhere :
        p ∈ placed front 0 ∨ p ∈ placed back (front.length + 1) ∨
          ∃ kind' ∈ earlier ++ later, p ∈ d.located kind' := by
      simp only [List.mem_append, List.mem_flatMap] at found ⊢
      grind
    rcases elsewhere with inFront | inBack | ⟨kind', other, inOther⟩
    · have bounds := index_of_mem_placed inFront
      exact isAt_eq_false_of_index (by omega)
    · have bounds := index_of_mem_placed inBack
      exact isAt_eq_false_of_index (by omega)
    · obtain rfl := kind_of_mem_located inOther
      exact isAt_eq_false_of_kind fun same => others (same ▸ other)
  · rintro other rfl
    refine around ?_ ?_
    · intro kind' among
      have differs : kind' ≠ other.kind := fun same => others (same ▸ among)
      rw [collection_replace, if_neg differs]
    · rw [collection_replace, if_pos rfl, shape]
      simp

/-- What is reported is a problem that some entry has by itself, with the place of that entry. -/
theorem mem_problems_iff
    {p : Problem} :
    p ∈ d.problems ↔
      ∃ e, (d.collection p.kind)[p.index]? = some e ∧
        e.id = p.id ∧ ⟨p.field, p.reason⟩ ∈ e.problems := by
  rw [problems_eq_flatMap_located]
  constructor
  · intro found
    obtain ⟨kind, -, inside⟩ := List.mem_flatMap.mp found
    obtain ⟨⟨e, position⟩, listed, here⟩ := List.mem_flatMap.mp inside
    obtain ⟨problem, own, rfl⟩ := List.mem_map.mp here
    have stands := List.mem_zipIdx_iff_getElem?.mp listed
    obtain rfl : e.kind = kind := kind_of_mem_collection (List.fst_mem_of_mem_zipIdx listed)
    exact ⟨e, stands, rfl, own⟩
  · rintro ⟨e, stands, id, own⟩
    have kind : e.kind = p.kind := kind_of_mem_collection (List.mem_of_getElem? stands)
    have among : p.kind ∈ Kind.all := by
      cases p.kind <;> decide
    refine List.mem_flatMap.mpr ⟨p.kind, among, List.mem_flatMap.mpr ⟨(e, p.index), ?_, ?_⟩⟩
    · exact List.mem_zipIdx_iff_getElem?.mpr stands
    · refine List.mem_map.mpr ⟨_, own, ?_⟩
      simp only [Entry.locate, kind, id]


/-- Of the problems around an entry and its own, its place tells its own from the others. -/
theorem filter_isAt_locate
    {before after : List Problem}
    (e : Entry)
    (elsewhere : ∀ p ∈ before ++ after, p.isAt e.kind position = false) :
    let found := before ++ (e.problems.map (e.locate position) ++ after)
    found.filter (·.isAt e.kind position) = e.problems.map (e.locate position) ∧
      found.filter (!·.isAt e.kind position) = before ++ after := by
  obtain ⟨outBefore, outAfter⟩ := List.forall_mem_append.mp elsewhere
  have own : ∀ p ∈ e.problems.map (e.locate position), p.isAt e.kind position = true := by
    intro p inside
    obtain ⟨problem, -, rfl⟩ := List.mem_map.mp inside
    simp [Problem.isAt, Entry.locate]
  have noneBefore : before.filter (·.isAt e.kind position) = [] :=
    List.filter_eq_nil_iff.mpr fun p found => by simp [outBefore p found]
  have noneAfter : after.filter (·.isAt e.kind position) = [] :=
    List.filter_eq_nil_iff.mpr fun p found => by simp [outAfter p found]
  have allBefore : before.filter (!·.isAt e.kind position) = before :=
    List.filter_eq_self.mpr fun p found => by simp [outBefore p found]
  have allAfter : after.filter (!·.isAt e.kind position) = after :=
    List.filter_eq_self.mpr fun p found => by simp [outAfter p found]
  constructor
  · rw [List.filter_append, List.filter_append, noneBefore, noneAfter, List.nil_append,
      List.append_nil, List.filter_eq_self.mpr own]
  · have noneOwn : (e.problems.map (e.locate position)).filter (!·.isAt e.kind position) = [] :=
      List.filter_eq_nil_iff.mpr fun p inside => by simp [own p inside]
    rw [List.filter_append, List.filter_append, allBefore, allAfter, noneOwn, List.nil_append]

/-- A document is accepted when it is valid. -/
theorem ofDocument?_ok_iff :
    (∃ s, Snapshot.ofDocument? d = .ok s) ↔ d.valid = true := by
  unfold Snapshot.ofDocument?
  split <;> simp [*]

/-- The problems of a document, as they are found and located. -/
structure LocatesProblems (d : Document) : Prop where
  /-- A document is accepted exactly when no entry has a problem. -/
  accepted :
    (∃ s, Snapshot.ofDocument? d = .ok s) ↔ ∀ kind, ∀ e ∈ d.collection kind, e.problems = []
  /-- A document that is not accepted is refused with all problems of its entries in order. -/
  refused :
    (∀ s, Snapshot.ofDocument? d ≠ .ok s) →
      Snapshot.ofDocument? d = .error (.invalid (Kind.all.flatMap d.located))
  /-- A problem leads to the entry that has it, and each that an entry has is found. -/
  addressed :
    ∀ p, p ∈ d.problems ↔ ∃ e, (d.collection p.kind)[p.index]? = some e ∧
      e.id = p.id ∧ ⟨p.field, p.reason⟩ ∈ e.problems
  /-- An entry has exactly its own problems at its place. -/
  atPlace :
    ∀ kind position e, (d.collection kind)[position]? = some e →
      d.problems.filter (·.isAt kind position) = e.problems.map (e.locate position)
  /-- Once an entry is fixed, exactly its own problems are gone. -/
  fixed :
    ∀ kind position e e', (d.collection kind)[position]? = some e →
      e'.kind = kind → e'.problems = [] →
        (d.replace position e').problems = d.problems.filter (!·.isAt kind position)

/-- Every problem that is reported can be traced to its entry, and goes away with it. -/
theorem locatesProblems
    (d : Document) :
    d.LocatesProblems where
  accepted := by
    rw [ofDocument?_ok_iff, valid_iff]
    simp only [mem_entries_iff, forall_exists_index]
    exact forall_comm
  refused := by
    intro refused
    have invalid : ¬ d.valid = true := fun valid =>
      let ⟨s, accepted⟩ := ofDocument?_ok_iff.mpr valid
      refused s accepted
    rw [← problems_eq_flatMap_located]
    exact dif_neg invalid
  addressed := fun _ => mem_problems_iff
  atPlace := by
    intro kind position e here
    obtain ⟨before, after, elsewhere, problems, -⟩ := exists_around here
    obtain rfl := kind_of_mem_collection (List.mem_of_getElem? here)
    rw [problems]
    exact (filter_isAt_locate e elsewhere).1
  fixed := by
    intro kind position e e' here sameKind sound
    obtain ⟨before, after, elsewhere, problems, replaced⟩ := exists_around here
    obtain rfl := kind_of_mem_collection (List.mem_of_getElem? here)
    rw [replaced e' sameKind, sound, problems]
    exact (filter_isAt_locate e elsewhere).2.symm

end Document

end Notary.Config
