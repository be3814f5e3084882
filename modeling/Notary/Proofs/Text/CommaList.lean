import Mathlib.Data.List.Forall2
import Notary.Proofs.Text.Pieces
import Notary.Proofs.Text.Words
import Notary.Text.CommaList

namespace Notary.Text

/-!
# The items of comma lists

Trimming takes away all white space around a text and nothing else. The items of a comma list
are the trimmed pieces between its commas, and a text that is made of these items with commas
between them is a list of the same items.
-/

/-- A text that neither begins nor ends with white space. -/
structure Bare
    (cs : List Char) : Prop where
  starts : ∀ c ∈ cs.head?, isBlank c = false
  ends : ∀ c ∈ cs.getLast?, isBlank c = false

/-- A text without the white space around it. -/
structure IsTrim
    (item piece : List Char) : Prop where
  bare : Bare item
  around :
    ∃ before after,
      piece = before ++ (item ++ after) ∧ allBlank before = true ∧ allBlank after = true

/-- What follows a dropped run of blanks does not start with a blank. -/
theorem isBlank_of_head?_dropWhile
    {cs : List Char}
    {c : Char}
    (first : c ∈ (cs.dropWhile isBlank).head?) :
    isBlank c = false := by
  have stops := List.head?_dropWhile_not isBlank cs
  rw [Option.mem_def.mp first] at stops
  exact stops

theorem dropWhile_isBlank_append
    {before rest : List Char}
    (blank : allBlank before = true)
    (starts : ∀ c ∈ rest.head?, isBlank c = false) :
    (before ++ rest).dropWhile isBlank = rest := by
  rw [List.dropWhile_append_of_pos (List.all_eq_true.mp blank)]
  cases rest with
  | nil =>
      rfl
  | cons c rest =>
      exact List.dropWhile_cons_of_neg (by simp [starts c rfl])

/-- Trimming leaves the piece without the blanks around it. -/
theorem isTrim_trim
    (piece : List Char) :
    IsTrim (trim piece) piece := by
  let rest := piece.dropWhile isBlank
  let after := (rest.reverse.takeWhile isBlank).reverse
  have isRest : rest = trim piece ++ after := by
    rw [trim, ← List.reverse_append, List.takeWhile_append_dropWhile, List.reverse_reverse]
  constructor
  · constructor
    · intro c first
      have firstOfRest : c ∈ rest.head? := by
        rw [isRest, List.head?_append, Option.mem_def.mp first]
        rfl
      exact isBlank_of_head?_dropWhile firstOfRest
    · intro c last
      rw [trim, List.getLast?_reverse] at last
      exact isBlank_of_head?_dropWhile last
  · refine ⟨piece.takeWhile isBlank, after, ?_, List.all_takeWhile, ?_⟩
    · rw [← isRest]
      exact List.takeWhile_append_dropWhile.symm
    · rw [allBlank, List.all_reverse]
      exact List.all_takeWhile

/-- Of every text there is exactly one that is the text without the white space around it. -/
theorem isTrim_iff
    (item piece : List Char) :
    IsTrim item piece ↔ item = trim piece := by
  constructor
  · rintro ⟨⟨starts, ends⟩, before, after, rfl, blankBefore, blankAfter⟩
    cases item with
    | nil =>
        have blank : ∀ c ∈ before ++ ([] ++ after), isBlank c = true :=
          List.forall_mem_append.mpr
            ⟨List.all_eq_true.mp blankBefore, List.all_eq_true.mp blankAfter⟩
        rw [trim, List.dropWhile_eq_nil_iff.mpr blank]
        rfl
    | cons c item =>
        have blankBehind : allBlank after.reverse = true := by
          rw [allBlank, List.all_reverse]
          exact blankAfter
        have behind : ∀ last ∈ (c :: item).reverse.head?, isBlank last = false := by
          rw [List.head?_reverse]
          exact ends
        rw [trim, dropWhile_isBlank_append blankBefore (by simpa using starts),
          List.reverse_append, dropWhile_isBlank_append blankBehind behind, List.reverse_reverse]
  · rintro rfl
    exact isTrim_trim piece

theorem trim_of_bare
    {item : List Char}
    (bare : Bare item) :
    trim item = item :=
  ((isTrim_iff item item).mp ⟨bare, [], [], by simp, rfl, rfl⟩).symm

theorem trim_subset
    (piece : List Char) :
    trim piece ⊆ piece := by
  obtain ⟨-, before, after, parts, -, -⟩ := isTrim_trim piece
  intro c inside
  rw [parts]
  exact List.mem_append_right _ (List.mem_append_left _ inside)

/-- The items of a list, by the text of the list. -/
structure ListedByCommas
    (raw : String)
    (items : List String) : Prop where
  nil_iff : items = [] ↔ blank raw = true
  /-- There is one item more than there are commas. -/
  length_eq : blank raw = false → items.length = raw.toList.count ',' + 1
  /-- The items are the pieces between the commas, in order, without white space around them. -/
  trimmed :
    blank raw = false →
      ∃ pieces, Pieces ',' pieces raw.toList ∧
        List.Forall₂ (fun item piece => IsTrim item.toList piece) items pieces
  unmarked : ∀ item ∈ items, ',' ∉ item.toList
  bare : ∀ item ∈ items, Bare item.toList
  /-- The items with commas between them are a list of the same items. -/
  joined : commaList (",".intercalate items) = items

variable
    {raw : String}

theorem commaList_of_blank
    (isBlank : blank raw = true) :
    commaList raw = [] := by
  rw [blank] at isBlank
  rw [commaList, commaItems, if_pos isBlank]
  rfl

/-- A value that is not blank lists the trims of its pieces between commas, in their order. -/
theorem map_toList_commaList
    (filled : blank raw = false) :
    (commaList raw).map String.toList = (raw.toList.splitOn ',').map trim := by
  have nonblank : ¬ allBlank raw.toList = true := by
    rw [← blank, filled]
    exact Bool.false_ne_true
  simp [commaList, commaItems, if_neg nonblank]

/-- Every item is a trimmed piece. -/
theorem exists_piece_of_mem_commaList
    {item : String}
    (inside : item ∈ commaList raw) :
    ∃ piece ∈ raw.toList.splitOn ',', item.toList = trim piece := by
  cases filled : blank raw with
  | true =>
      rw [commaList_of_blank filled] at inside
      cases inside
  | false =>
      have isItem := List.mem_map_of_mem (f := String.toList) inside
      rw [map_toList_commaList filled] at isItem
      obtain ⟨piece, isPiece, same⟩ := List.mem_map.mp isItem
      exact ⟨piece, isPiece, same.symm⟩

/-- No listed item holds a comma. -/
theorem comma_not_mem_trim
    {piece : List Char}
    (isPiece : piece ∈ raw.toList.splitOn ',') :
    ',' ∉ trim piece :=
  fun inside => mark_not_mem_of_mem_splitOn isPiece (trim_subset piece inside)

/-- Trimmed pieces are the pieces of the text that they make with commas between them. -/
theorem pieces_trimmed
    (raw : String) :
    Pieces ',' ((raw.toList.splitOn ',').map trim)
      ([','].intercalate ((raw.toList.splitOn ',').map trim)) where
  filled := by
    simp [List.splitOn_ne_nil]
  unmarked := List.forall_mem_map.mpr fun _ isPiece => comma_not_mem_trim isPiece
  joined := rfl

/-- Trimmed pieces with commas between them are not blank if the text was not. -/
theorem allBlank_trimmed
    (filled : blank raw = false) :
    allBlank ([','].intercalate ((raw.toList.splitOn ',').map trim)) = false := by
  rw [Bool.eq_false_iff]
  intro isBlank
  have noComma : ',' ∉ [','].intercalate ((raw.toList.splitOn ',').map trim) := by
    intro inside
    exact absurd (List.all_eq_true.mp isBlank ',' inside) (by decide)
  -- A blank text has no comma, so there is but one piece, and that is not blank.
  have single : (raw.toList.splitOn ',').length = 1 := by
    rw [← List.length_map (f := trim), (pieces_trimmed raw).length_eq,
      List.count_eq_zero.mpr noComma]
  have noRawComma : ',' ∉ raw.toList := by
    rw [(pieces_iff.mpr rfl : Pieces ',' _ raw.toList).length_eq] at single
    exact List.count_eq_zero.mp (Nat.succ.inj single)
  rw [List.splitOn_eq_singleton noRawComma, List.map_singleton, List.intercalate_singleton]
    at isBlank
  have nothing : allBlank raw.toList = true :=
    (trim_eq_nil_iff raw.toList).mp (trim_eq_nil_of_allBlank isBlank)
  rw [blank, nothing] at filled
  cases filled

/-- Only blank values list nothing; a lone comma lists two empty items. -/
theorem commaList_eq_nil_iff
    (raw : String) :
    commaList raw = [] ↔ blank raw = true := by
  refine ⟨fun none => ?_, commaList_of_blank⟩
  cases filled : blank raw with
  | true =>
      rfl
  | false =>
      have noPiece := map_toList_commaList filled
      rw [none] at noPiece
      exact absurd noPiece.symm (pieces_trimmed raw).filled

/-- The items of a list, joined with commas again, list the same items. -/
theorem commaList_intercalate
    (raw : String) :
    commaList (",".intercalate (commaList raw)) = commaList raw := by
  cases filled : blank raw with
  | true =>
      rw [commaList_of_blank filled]
      rfl
  | false =>
      have text :
          (",".intercalate (commaList raw)).toList =
            [','].intercalate ((raw.toList.splitOn ',').map trim) := by
        rw [String.toList_intercalate, map_toList_commaList filled]
        rfl
      have stillFilled : blank (",".intercalate (commaList raw)) = false := by
        rw [blank, text]
        exact allBlank_trimmed filled
      have bare : ∀ item ∈ (raw.toList.splitOn ',').map trim, trim item = item :=
        List.forall_mem_map.mpr fun piece _ => trim_of_bare (isTrim_trim piece).bare
      refine List.map_injective_iff.mpr (fun _ _ => String.toList_inj.mp) ?_
      rw [map_toList_commaList stillFilled, text, ← pieces_iff.mp (pieces_trimmed raw),
        List.map_congr_left bare, List.map_id', map_toList_commaList filled]

/-- Every comma list has the items that its text shows. -/
theorem listedByCommas
    (raw : String) :
    ListedByCommas raw (commaList raw) where
  nil_iff := commaList_eq_nil_iff raw
  length_eq filled := by
    rw [← List.length_map (f := String.toList), map_toList_commaList filled, List.length_map]
    exact (pieces_iff.mpr rfl : Pieces ',' _ raw.toList).length_eq
  trimmed filled := by
    have same :
        List.Forall₂ (· = ·) ((commaList raw).map String.toList)
          ((raw.toList.splitOn ',').map trim) := by
      rw [map_toList_commaList filled]
      exact List.forall₂_refl _
    rw [List.forall₂_map_left_iff, List.forall₂_map_right_iff] at same
    simp only [← isTrim_iff] at same
    exact ⟨raw.toList.splitOn ',', pieces_iff.mpr rfl, same⟩
  unmarked item inside := by
    obtain ⟨piece, isPiece, same⟩ := exists_piece_of_mem_commaList inside
    rw [same]
    exact comma_not_mem_trim isPiece
  bare item inside := by
    obtain ⟨piece, -, same⟩ := exists_piece_of_mem_commaList inside
    rw [same]
    exact (isTrim_trim piece).bare
  joined := commaList_intercalate raw

end Notary.Text
