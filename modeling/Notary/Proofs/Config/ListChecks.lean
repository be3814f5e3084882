import Notary.Proofs.Config.Validity
import Notary.Proofs.Text.CommaList

namespace Notary.Config

/-!
# What the checks of comma lists report

A list of rules or of metadata has one problem at most: it has no item although it needs one,
or one of the pieces between its commas is blank. Without a problem, all who read the list by
its items find them filled, and at least one of them where one is needed.
-/

/-- The items of a list are filled exactly if the pieces of its text are. -/
theorem any_isEmpty_commaList
    {raw : String}
    (filled : Text.blank raw = false) :
    (Text.commaList raw).any String.isEmpty = (raw.toList.splitOn ',').any Text.allBlank := by
  have byItem : (Text.commaList raw).any String.isEmpty =
      ((Text.commaList raw).map String.toList).any List.isEmpty := by
    rw [List.any_map]
    congr 1
    funext item
    exact Bool.eq_iff_iff.mpr (by simp)
  rw [byItem, Text.map_toList_commaList filled, List.any_map]
  congr 1
  funext piece
  rw [Function.comp_apply, Bool.eq_iff_iff, List.isEmpty_iff, Text.trim_eq_nil_iff]

/-- The check of a list, by the text of the list. -/
theorem checkList_eq
    (field raw : String)
    (required : Bool) :
    checkList field raw required =
      if Text.blank raw = true then
        if required = true then [⟨field, .noItem⟩] else []
      else if (raw.toList.splitOn ',').any Text.allBlank = true then [⟨field, .blankItem⟩]
      else [] := by
  cases filled : Text.blank raw with
  | true =>
      simp [checkList, Text.commaList_of_blank filled]
  | false =>
      have listed : (Text.commaList raw).isEmpty = false := by
        rw [List.isEmpty_eq_false_iff, ne_eq, Text.commaList_eq_nil_iff, filled]
        exact Bool.false_ne_true
      simp [checkList, listed, any_isEmpty_commaList filled]

/-- What is reported about a list, by its text and by the items that are read from it. -/
structure ListReported
    (field raw : String)
    (required : Bool)
    (problems : List FieldProblem)
    (items : List String) : Prop where
  field_eq : ∀ p ∈ problems, p.field = field
  length_le : problems.length ≤ 1
  noItem_iff :
    (∃ p ∈ problems, p.reason.text = "must list at least one item") ↔
      required = true ∧ Text.blank raw = true
  blankItem_iff :
    (∃ p ∈ problems, p.reason.text = "contains a blank item") ↔
      Text.blank raw = false ∧
        ∃ pieces, Text.Pieces ',' pieces raw.toList ∧
          ∃ piece ∈ pieces, Text.allBlank piece = true
  nil_iff :
    problems = [] ↔
      (required = true → items ≠ []) ∧ ∀ item ∈ items, Text.blank item = false

/-- The check of a list reports what the items of its text call for. -/
theorem listReported_checkList
    (field raw : String)
    (required : Bool) :
    ListReported field raw required (checkList field raw required) (Text.commaList raw) := by
  have noItem : Reason.text .noItem = "must list at least one item" := rfl
  have blankItem : Reason.text .blankItem = "contains a blank item" := rfl
  refine ⟨?_, ?_, ?_, ?_, checkList_eq_nil_iff field raw required⟩
  all_goals rw [checkList_eq]
  · intro p reported
    split_ifs at reported <;> simp_all
  · split_ifs <;> simp
  · cases Text.blank raw <;> cases required <;>
      cases (raw.toList.splitOn ',').any Text.allBlank <;> simp [noItem, blankItem]
  · simp only [Text.pieces_iff, exists_eq_left, ← List.any_eq_true]
    cases Text.blank raw <;> cases required <;>
      cases (raw.toList.splitOn ',').any Text.allBlank <;> simp [noItem, blankItem]

/-- What is reported of a required text is reported under its field. -/
theorem field_of_mem_requireText
    {field value : String}
    {p : FieldProblem}
    (reported : p ∈ requireText field value) :
    p.field = field := by
  unfold requireText at reported
  split at reported
  · rw [List.mem_singleton.mp reported]
  · cases reported

/-- Problems that all belong to one field are found under that one, or not at all. -/
theorem filter_field
    {problems : List FieldProblem}
    {field : String}
    (ofField : ∀ p ∈ problems, p.field = field)
    (wanted : String) :
    problems.filter (·.field = wanted) = if field = wanted then problems else [] := by
  split
  · next same =>
      exact List.filter_eq_self.mpr fun p reported => by simp [ofField p reported, same]
  · next differ =>
      exact List.filter_eq_nil_iff.mpr fun p reported => by simp [ofField p reported, differ]

/-- The self-check of an entry reports for each of its lists what the check of the list does. -/
theorem filter_field_problems
    (e : VerificationEntry)
    {checked : Entry}
    (isEntry : checked ∈ [Entry.signatureVerification e, .certificateVerification e])
    (wanted : String) :
    checked.problems.filter (·.field = wanted) =
      (if "id" = wanted then requireText "id" e.id else []) ++
        ((if "rules" = wanted then checkList "rules" e.parameters.rules true else []) ++
          if "metadata" = wanted then checkList "metadata" e.parameters.metadata false else []) := by
  have parts :
      checked.problems =
        requireText "id" e.id ++
          (checkList "rules" e.parameters.rules true ++
            checkList "metadata" e.parameters.metadata false) := by
    simp only [List.mem_cons, List.not_mem_nil, or_false] at isEntry
    rcases isEntry with rfl | rfl <;> rfl
  rw [parts, List.filter_append, List.filter_append,
    filter_field (fun _ => field_of_mem_requireText),
    filter_field (listReported_checkList "rules" _ true).field_eq,
    filter_field (listReported_checkList "metadata" _ false).field_eq]

/-- What a text is as a comma list, and what the self-check of an entry with it reports. -/
structure ListsChecked
    (raw : String) : Prop where
  listed : Text.ListedByCommas raw (Text.commaList raw)
  rules :
    ∀ e : VerificationEntry, e.parameters.rules = raw →
      ∀ checked ∈ [Entry.signatureVerification e, .certificateVerification e],
        ListReported "rules" raw true (checked.problems.filter (·.field = "rules"))
          e.parameters.ruleList
  metadata :
    ∀ e : VerificationEntry, e.parameters.metadata = raw →
      ∀ checked ∈ [Entry.signatureVerification e, .certificateVerification e],
        ListReported "metadata" raw false (checked.problems.filter (·.field = "metadata"))
          e.parameters.metadataList

/--
Every text is split into the items that it shows, and the self-check of an entry that has it
for a list finds the items fit for all who read them or reports what is wrong with it.
-/
theorem listsChecked
    (raw : String) :
    ListsChecked raw where
  listed := Text.listedByCommas raw
  rules := by
    rintro e rfl checked isEntry
    rw [filter_field_problems e isEntry]
    simpa [ValidationParameters.ruleList] using
      listReported_checkList "rules" e.parameters.rules true
  metadata := by
    rintro e rfl checked isEntry
    rw [filter_field_problems e isEntry]
    simpa [ValidationParameters.metadataList] using
      listReported_checkList "metadata" e.parameters.metadata false

/-- White space alone is no item, a comma alone separates two blank ones. -/
example :
    Text.commaList " \u3000" = [] ∧ Text.commaList "," = ["", ""] ∧
      Text.commaList "a, b ,c" = ["a", "b", "c"] := by
  decide +kernel

end Notary.Config
