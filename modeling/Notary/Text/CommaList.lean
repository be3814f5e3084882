import Notary.Text.Blank

namespace Notary.Text

/-!
# Comma lists

Rules and metadata names are configured as one text with commas between the
items. A blank text holds no item; any other holds one more item than commas,
each trimmed at both ends.
-/

/-- The items of a comma list, as lists of characters. -/
def commaItems (cs : List Char) : List (List Char) :=
  if allBlank cs then [] else (cs.splitOn ',').map trim

/-- The items of a comma list. -/
def commaList (raw : String) : List String :=
  (commaItems raw.toList).map String.ofList

/-- A trimmed text with nothing but blank characters has no character at all. -/
theorem trim_eq_nil_of_allBlank
    {cs : List Char}
    (blank : allBlank (trim cs) = true) :
    trim cs = [] := by
  unfold trim at blank ⊢
  rw [allBlank, List.all_reverse, List.all_eq_true] at blank
  rw [List.reverse_eq_nil_iff]
  generalize (cs.dropWhile isBlank).reverse = remaining at blank ⊢
  have firstKept := List.head?_dropWhile_not isBlank remaining
  cases kept : remaining.dropWhile isBlank with
  | nil =>
      rfl
  | cons c rest =>
      rw [kept] at blank firstKept
      have isBlankFirst : isBlank c = true := blank c List.mem_cons_self
      rw [show isBlank c = false from firstKept] at isBlankFirst
      cases isBlankFirst

/-- An item of a comma list that is blank is empty. -/
theorem isEmpty_of_mem_commaList_of_blank
    {raw item : String}
    (member : item ∈ commaList raw)
    (blank : blank item = true) :
    item.isEmpty = true := by
  obtain ⟨cs, inside, rfl⟩ := List.mem_map.mp member
  unfold commaItems at inside
  split at inside
  · cases inside
  · obtain ⟨part, -, rfl⟩ := List.mem_map.mp inside
    have nothing : trim part = [] :=
      trim_eq_nil_of_allBlank (by simpa [Text.blank] using blank)
    rw [nothing]
    rfl

end Notary.Text
