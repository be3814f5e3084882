import Notary.Config.Load

namespace Notary.Config

/-!
# Which files are accepted

A file is accepted exactly when it can be read as text, the text is that of a
document, and no entry of the document has a problem. The snapshot is then the
one prepared from that document, and nothing else of the file matters.
-/

/-- A pass over entries finds nothing exactly when none of them has a problem. -/
theorem found_foldl_inspect_eq_nil_iff
    (i : Inspection)
    (entries : List Entry) :
    (entries.foldl Inspection.inspect i).found = [] ↔
      i.found = [] ∧ ∀ entry ∈ entries, entry.problems = [] := by
  induction entries generalizing i with
  | nil =>
      simp
  | cons entry rest inductionHypothesis =>
      simp [inductionHypothesis, Inspection.inspect, and_assoc]

/-- A document is valid exactly when none of its entries has a problem. -/
theorem Document.valid_iff
    (document : Document) :
    document.valid = true ↔ ∀ entry ∈ document.entries, entry.problems = [] := by
  rw [Document.valid, List.isEmpty_iff, Document.problems, found_foldl_inspect_eq_nil_iff]
  exact and_iff_right rfl

/-- Each collection has entries of its own kind only. -/
theorem Document.kind_of_mem_collection
    {d : Document}
    {kind : Kind}
    {e : Entry}
    (listed : e ∈ d.collection kind) :
    e.kind = kind := by
  cases kind <;> obtain ⟨entry, -, rfl⟩ := List.mem_map.mp listed <;> rfl

theorem Document.mem_entries_iff
    {d : Document}
    {e : Entry} :
    e ∈ d.entries ↔ ∃ kind, e ∈ d.collection kind := by
  constructor
  · intro listed
    obtain ⟨kind, -, inside⟩ := List.mem_flatMap.mp listed
    exact ⟨kind, inside⟩
  · rintro ⟨kind, inside⟩
    have among : kind ∈ Kind.all := by
      cases kind <;> decide
    exact List.mem_flatMap.mpr ⟨kind, among, inside⟩

/-- The document of an accepted file. -/
def File.document? (file : File) : Option Document :=
  match file.read with
  | .error _ => none
  | .ok text =>
      match Document.ofText (text.map .char) with
      | .error _ => none
      | .ok document =>
          if document.entries.all (·.problems.isEmpty) then some document else none

/-- The check that is made entry by entry is the one that makes a document valid. -/
theorem Document.all_isEmpty_eq_valid
    (document : Document) :
    document.entries.all (·.problems.isEmpty) = document.valid := by
  rw [Bool.eq_iff_iff, List.all_eq_true, Document.valid_iff]
  simp only [List.isEmpty_iff]

/-- A file that is accepted loads as the snapshot of its document. -/
theorem Snapshot.load_of_document?_some
    {file : File}
    {document : Document}
    (accepted : file.document? = some document) :
    ∃ valid, Snapshot.load file = .ok (.ofDocument document valid) := by
  unfold File.document? at accepted
  cases reading : file.read with
  | error fault =>
      simp [reading] at accepted
  | ok text =>
      cases parsing : Document.ofText (text.map .char) with
      | error flaw =>
          simp [reading, parsing] at accepted
      | ok found =>
          simp only [reading, parsing, Document.all_isEmpty_eq_valid] at accepted
          split at accepted
          · next valid =>
              cases accepted
              refine ⟨valid, ?_⟩
              simp [Snapshot.load, reading, Snapshot.ofText, Snapshot.ofSymbols, parsing,
                Snapshot.ofDocument?, valid]
          · cases accepted

/-- A file that is not accepted does not load. -/
theorem Snapshot.load_of_document?_none
    {file : File}
    (refused : file.document? = none) :
    ∃ fault, Snapshot.load file = .error fault := by
  unfold File.document? at refused
  cases reading : file.read with
  | error fault =>
      exact ⟨.unreadable fault, by simp [Snapshot.load, reading]⟩
  | ok text =>
      cases parsing : Document.ofText (text.map .char) with
      | error flaw =>
          refine ⟨.malformed flaw.cause (.ofOffset (text.map .char) flaw.offset), ?_⟩
          simp [Snapshot.load, reading, Snapshot.ofText, Snapshot.ofSymbols, parsing]
      | ok found =>
          simp only [reading, parsing, Document.all_isEmpty_eq_valid] at refused
          split at refused
          · cases refused
          · next invalid =>
              refine ⟨.invalid found.problems, ?_⟩
              simp [Snapshot.load, reading, Snapshot.ofText, Snapshot.ofSymbols, parsing,
                Snapshot.ofDocument?, invalid]

end Notary.Config
