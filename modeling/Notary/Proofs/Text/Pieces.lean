import Mathlib.Data.List.Basic

namespace Notary.Text

/-!
# Pieces between marks

A text in which a character marks where one piece ends and the next begins has one piece more
than marks, and the pieces with marks between them are the text again.
-/

/-- The pieces of a text in order; the marks of the text stand between them. -/
structure Pieces
    (mark : Char)
    (pieces : List (List Char))
    (text : List Char) : Prop where
  filled : pieces ≠ []
  unmarked : ∀ piece ∈ pieces, mark ∉ piece
  joined : [mark].intercalate pieces = text

variable
    {mark : Char}
    {pieces : List (List Char)}
    {text : List Char}

theorem mark_not_mem_of_mem_splitOn
    {piece : List Char}
    (inside : piece ∈ text.splitOn mark) :
    mark ∉ piece := by
  induction text generalizing piece with
  | nil =>
      rw [List.splitOn_nil, List.mem_singleton] at inside
      subst inside
      exact List.not_mem_nil
  | cons c rest inductionHypothesis =>
      obtain ⟨first, others, split⟩ :=
        List.exists_cons_of_ne_nil (List.splitOn_ne_nil mark rest)
      rw [split] at inductionHypothesis
      rw [List.splitOn_cons_eq_if_modifyHead, split] at inside
      split at inside
      · rcases List.mem_cons.mp inside with rfl | later
        · exact List.not_mem_nil
        · exact inductionHypothesis later
      · next other =>
          rw [List.modifyHead_cons] at inside
          rcases List.mem_cons.mp inside with rfl | later
          · have ahead := inductionHypothesis List.mem_cons_self
            rw [List.mem_cons, not_or]
            exact ⟨fun same => other (by simp [same]), ahead⟩
          · exact inductionHypothesis (List.mem_cons_of_mem _ later)

/-- Every text has exactly one list of pieces, the one that splitting it yields. -/
theorem pieces_iff :
    Pieces mark pieces text ↔ pieces = text.splitOn mark := by
  constructor
  · rintro ⟨filled, unmarked, rfl⟩
    exact (List.splitOn_intercalate mark unmarked filled).symm
  · rintro rfl
    exact ⟨List.splitOn_ne_nil mark text, fun _ => mark_not_mem_of_mem_splitOn,
      List.intercalate_splitOn mark⟩

namespace Pieces

/-- There is one piece more than there are marks. -/
theorem length_eq
    (isSplit : Pieces mark pieces text) :
    pieces.length = text.count mark + 1 := by
  obtain ⟨filled, unmarked, rfl⟩ := isSplit
  induction pieces with
  | nil =>
      exact absurd rfl filled
  | cons piece rest inductionHypothesis =>
      obtain ⟨here, later⟩ := List.forall_mem_cons.mp unmarked
      cases rest with
      | nil =>
          simp [List.count_eq_zero.mpr here]
      | cons next rest =>
          have others := inductionHypothesis (List.cons_ne_nil _ _) later
          rw [List.intercalate_cons_cons, List.length_cons, others]
          simp [List.count_eq_zero.mpr here]

/-- The characters of a piece are characters of the text. -/
theorem subset
    (isSplit : Pieces mark pieces text)
    {piece : List Char}
    (isPiece : piece ∈ pieces) :
    piece ⊆ text := by
  obtain ⟨-, -, rfl⟩ := isSplit
  induction pieces with
  | nil =>
      cases isPiece
  | cons first rest inductionHypothesis =>
      cases rest with
      | nil =>
          rw [List.mem_singleton.mp isPiece, List.intercalate_singleton]
          exact List.Subset.refl first
      | cons next rest =>
          rw [List.intercalate_cons_cons]
          rcases List.mem_cons.mp isPiece with rfl | later
          · simp
          · exact List.Subset.trans (inductionHypothesis later) (List.subset_append_right _ _)

/-- A character of the text is the mark or stands in a piece. -/
theorem eq_mark_or_mem_piece
    (isSplit : Pieces mark pieces text)
    {c : Char}
    (inside : c ∈ text) :
    c = mark ∨ ∃ piece ∈ pieces, c ∈ piece := by
  obtain ⟨-, -, rfl⟩ := isSplit
  induction pieces with
  | nil =>
      cases inside
  | cons first rest inductionHypothesis =>
      cases rest with
      | nil =>
          rw [List.intercalate_singleton] at inside
          exact .inr ⟨first, List.mem_cons_self, inside⟩
      | cons next rest =>
          rw [List.intercalate_cons_cons, List.mem_append, List.mem_append,
            List.mem_singleton] at inside
          rcases inside with (here | isMark) | later
          · exact .inr ⟨first, List.mem_cons_self, here⟩
          · exact .inl isMark
          · refine (inductionHypothesis later).imp_right ?_
            rintro ⟨piece, isPiece, inside⟩
            exact ⟨piece, List.mem_cons_of_mem _ isPiece, inside⟩

end Pieces

end Notary.Text
