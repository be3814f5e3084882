import Notary.Config.Snapshot

namespace Notary.Config

/-!
# Lookups find the first entry of an id

The index of a collection keeps the first position of each id. A lookup in a
snapshot that was prepared from a document is therefore a search of the
document, in its order.
-/

namespace Index

/-- A position is noted only for an id that has none. -/
theorem get?_insertNew
    (index : Index)
    (id : String)
    (position : Nat)
    (sought : String) :
    (index.insertNew id position).get? sought =
      (index.get? sought).or (if id = sought then some position else none) := by
  unfold insertNew
  cases known : index.get? id with
  | some earlier =>
      by_cases same : id = sought
      · subst sought
        simp [known]
      · simp [same]
  | none =>
      simp only [get?, Option.isSome_none, Bool.false_eq_true, if_false, List.find?_append,
        List.find?_singleton]
      by_cases same : id = sought
      · cases index.find? (·.1 = sought) <;> simp [same]
      · cases index.find? (·.1 = sought) <;> simp [same]

/-- Of the ids noted one after another, each keeps its first position. -/
theorem get?_extend
    (index : Index)
    (position : Nat)
    (ids : List String)
    (sought : String) :
    (index.extend position ids).get? sought =
      (index.get? sought).or ((ids.findIdx? (· = sought)).map (· + position)) := by
  induction ids generalizing index position with
  | nil =>
      simp [extend]
  | cons id rest inductionHypothesis =>
      rw [extend, inductionHypothesis, get?_insertNew, Option.or_assoc, List.findIdx?_cons]
      by_cases same : id = sought
      · simp [same]
      · simp [same, Function.comp_def, Nat.add_comm, Nat.add_left_comm]

/-- The index of ids has the first position of each. -/
theorem get?_ofIds
    (ids : List String)
    (sought : String) :
    (ofIds ids).get? sought = ids.findIdx? (· = sought) := by
  rw [ofIds, get?_extend]
  simp [get?]

end Index

/-- The entry at the position that the index has for an id is the first one of that id. -/
theorem getElem?_of_get?_ofIds
    {α : Type}
    (entries : List α)
    (idOf : α → String)
    (sought : String) :
    ((Index.ofIds (entries.map idOf)).get? sought).bind (entries[·]?) =
      entries.find? (idOf · = sought) := by
  rw [Index.get?_ofIds, List.findIdx?_map, List.find?_eq_bind_findIdx?_getElem?]
  rfl

/-- The first entry of an id in a collection that requests refer to. -/
def Document.first? (document : Document) (kind : Kind) (id : String) : Option Entry :=
  match kind with
  | .ca => none
  | _ => (document.collection kind).find? (·.id = id)

/-- A lookup in the snapshot of a document searches the document. -/
theorem Snapshot.find_ofDocument
    (document : Document)
    (valid : document.valid = true)
    (kind : Kind)
    (id : String) :
    Snapshot.entry? (ofDocument document valid) kind id = document.first? kind id := by
  cases kind with
  | ca =>
      rfl
  | _ =>
      simp only [signature?, entry?, proof?, signatureVerification?, certificateVerification?,
        ofDocument, getElem?_of_get?_ofIds, Document.first?, Document.collection, List.find?_map]
      rfl

/-- A collection that requests refer to, and how snapshots look ids up in it. -/
structure Collection (α : Type) where
  kind : Kind
  lookup : Snapshot → String → Option α
  wrap : α → Entry
  finds : ∀ s id, Snapshot.entry? s kind id = (lookup s id).map wrap
  injective : Function.Injective wrap

namespace Collection

/-- The signing configurations. -/
def signatures : Collection SigningEntry :=
  ⟨.signature, Snapshot.signature?, .signature, fun _ _ => rfl, fun _ _ => Entry.signature.inj⟩

/-- The proof configurations. -/
def proofs : Collection ProofEntry :=
  ⟨.proof, Snapshot.proof?, .proof, fun _ _ => rfl, fun _ _ => Entry.proof.inj⟩

/-- The configurations for the validation of signatures. -/
def signatureVerifications : Collection VerificationEntry :=
  ⟨.signatureVerification, Snapshot.signatureVerification?, .signatureVerification,
    fun _ _ => rfl, fun _ _ => Entry.signatureVerification.inj⟩

/-- The configurations for the validation of certificates. -/
def certificateVerifications : Collection VerificationEntry :=
  ⟨.certificateVerification, Snapshot.certificateVerification?, .certificateVerification,
    fun _ _ => rfl, fun _ _ => Entry.certificateVerification.inj⟩

/-- A lookup in the snapshot of a document finds the first entry of an id. -/
theorem first?_eq
    {α : Type}
    (collection : Collection α)
    {d : Document}
    (valid : d.valid = true)
    (id : String) :
    d.first? collection.kind id =
      (collection.lookup (.ofDocument d valid) id).map collection.wrap :=
  (Snapshot.find_ofDocument d valid collection.kind id).symm.trans (collection.finds _ id)

end Collection

end Notary.Config
