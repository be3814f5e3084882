import Notary.Proofs.Config.Lookup

namespace Notary.Config

/-!
# Indexes hold first positions

What an index has stored for an id is the position of the first entry with that id, and it
has stored nothing for any other id. So a stored position always lies inside the collection
that the index was made for, and the entry there is what a search of the collection finds.
-/

namespace Index

/-- Noting an id stores one pair at most. -/
theorem mem_insertNew
    (index : Index)
    (id : String)
    (position : Nat)
    (stored : String × Nat) :
    stored ∈ index.insertNew id position ↔
      stored ∈ index ∨ index.get? id = none ∧ stored = (id, position) := by
  unfold insertNew
  cases known : index.get? id with
  | some earlier =>
      simp
  | none =>
      simp

/-- Of ids noted one after another, each that was not known is stored with its first position. -/
theorem mem_extend
    (index : Index)
    (start : Nat)
    (ids : List String)
    (id : String)
    (position : Nat) :
    (id, position) ∈ index.extend start ids ↔
      (id, position) ∈ index ∨
        index.get? id = none ∧ (ids.findIdx? (· = id)).map (· + start) = some position := by
  induction ids generalizing index start with
  | nil =>
      simp [extend]
  | cons first rest inductionHypothesis =>
      rw [extend, inductionHypothesis, mem_insertNew, get?_insertNew, List.findIdx?_cons]
      by_cases same : first = id
      · subst same
        simp [eq_comm]
      · have differs : id ≠ first := fun sameId => same sameId.symm
        simp [same, differs, Function.comp_def, Nat.add_comm, Nat.add_left_comm]

/-- An index has exactly the first position of each id. -/
theorem mem_ofIds
    (ids : List String)
    (id : String)
    (position : Nat) :
    (id, position) ∈ ofIds ids ↔ ids.findIdx? (· = id) = some position := by
  rw [ofIds, mem_extend]
  simp [get?]

end Index

variable
    {α : Type}
    {entries : List α}
    {idOf : α → String}

/-- The position of the first entry with an id. -/
def IsFirst (entries : List α) (idOf : α → String) (id : String) (position : Nat) : Prop :=
  ∃ inside : position < entries.length,
    idOf entries[position] = id ∧
      ∀ earlier, (before : earlier < position) → idOf entries[earlier] ≠ id

/-- The first position is the one that a search from the front finds. -/
theorem isFirst_iff
    {id : String}
    {position : Nat} :
    IsFirst entries idOf id position ↔ entries.findIdx? (idOf · = id) = some position := by
  simp [IsFirst, List.findIdx?_eq_some_iff_getElem]

/-- An index that serves the look-ups in a collection, whose entries carry ids. -/
structure Index.Serves (index : Index) (entries : List α) (idOf : α → String) : Prop where
  /-- Exactly the first positions of ids are stored. -/
  stored_iff : ∀ id position, (id, position) ∈ index ↔ IsFirst entries idOf id position
  /-- There is an entry at every position that is looked up, so reading it cannot fail. -/
  reads :
    ∀ id position, index.get? id = some position →
      ∃ inside : position < entries.length,
        (index.get? id).bind (entries[·]?) = some entries[position]
  /-- What is read is the first entry of the id, and nothing is read only if there is none. -/
  finds : ∀ id, (index.get? id).bind (entries[·]?) = entries.find? (idOf · = id)

/-- The index that is made of the ids of a collection serves that collection. -/
theorem Index.serves_ofIds
    (entries : List α)
    (idOf : α → String) :
    (Index.ofIds (entries.map idOf)).Serves entries idOf where
  stored_iff := by
    intro id position
    rw [mem_ofIds, List.findIdx?_map, isFirst_iff]
    rfl
  reads := by
    intro id position known
    have first : IsFirst entries idOf id position := by
      rw [get?_ofIds, List.findIdx?_map] at known
      exact isFirst_iff.mpr known
    obtain ⟨inside, _⟩ := first
    refine ⟨inside, ?_⟩
    rw [known, Option.bind_some, List.getElem?_eq_getElem inside]
  finds := getElem?_of_get?_ofIds entries idOf

/-- A snapshot whose look-ups find the first entries of a document, each in its collection. -/
structure Snapshot.FindsFirst (s : Snapshot) (d : Document) : Prop where
  signature : ∀ id, s.signature? id = d.signature.find? (·.id = id)
  proof : ∀ id, s.proof? id = d.proof.find? (·.id = id)
  signatureVerification :
    ∀ id, s.signatureVerification? id = d.signatureVerification.find? (·.id = id)
  certificateVerification :
    ∀ id, s.certificateVerification? id = d.certificateVerification.find? (·.id = id)
  /-- No index has a position outside the collection that it is paired with. -/
  signatures : s.signatures.Serves s.document.signature (·.id)
  proofs : s.proofs.Serves s.document.proof (·.id)
  signatureVerifications :
    s.signatureVerifications.Serves s.document.signatureVerification (·.id)
  certificateVerifications :
    s.certificateVerifications.Serves s.document.certificateVerification (·.id)

/-- Each of the four indices is made of the ids of its own collection. -/
theorem Snapshot.findsFirst_ofDocument
    (d : Document)
    (valid : d.valid = true) :
    (Snapshot.ofDocument d valid).FindsFirst d where
  signature := (Index.serves_ofIds d.signature (·.id)).finds
  proof := (Index.serves_ofIds d.proof (·.id)).finds
  signatureVerification := (Index.serves_ofIds d.signatureVerification (·.id)).finds
  certificateVerification := (Index.serves_ofIds d.certificateVerification (·.id)).finds
  signatures := Index.serves_ofIds d.signature (·.id)
  proofs := Index.serves_ofIds d.proof (·.id)
  signatureVerifications := Index.serves_ofIds d.signatureVerification (·.id)
  certificateVerifications := Index.serves_ofIds d.certificateVerification (·.id)

/-- A document whose entries are found by id as a search of their collection finds them. -/
structure Document.FoundByFirst (d : Document) : Prop where
  /-- The index of a collection serves it, whether or not the document is valid. -/
  indexed :
    ∀ kind, (Index.ofIds ((d.collection kind).map (·.id))).Serves (d.collection kind) (·.id)
  /-- The look-ups of the snapshot, which only a valid document has, find first entries. -/
  lookedUp : ∀ valid : d.valid = true, (Snapshot.ofDocument d valid).FindsFirst d

/--
In every document, with any ids in any of its collections, an id is looked up as the first
entry of its own collection that has it, and no look-up reads outside that collection.
-/
theorem Document.foundByFirst
    (d : Document) :
    d.FoundByFirst where
  indexed kind := Index.serves_ofIds (d.collection kind) (·.id)
  lookedUp valid := Snapshot.findsFirst_ofDocument d valid

/-- An id that is repeated in one collection and taken in another one too. -/
def Snapshot.repeated : Snapshot :=
  .ofDocument
    { Document.empty with
      signatureVerification := [⟨"1", some "first", ⟨"r", ""⟩⟩, ⟨"1", some "second", ⟨"r", ""⟩⟩]
      certificateVerification := [⟨"2", none, ⟨"r", ""⟩⟩, ⟨"1", some "other", ⟨"r", ""⟩⟩] }
    (by decide +kernel)

example :
    (Snapshot.repeated.signatureVerification? "1").bind (·.description) = some "first" ∧
      (Snapshot.repeated.certificateVerification? "1").bind (·.description) = some "other" ∧
      Snapshot.repeated.signature? "1" = none := by
  decide +kernel

end Notary.Config
