import Notary.Proofs.Workflow.Lossless

namespace Notary

/-!
# Names of metadata and how their values go out

A response shows the name of a metadatum, but its kind decides whether the value goes out in
Base64. Each name of a document belongs to a kind of its own, and a kind outside the known
ones may carry that name as well. Its value then goes out as it is, so a reader that goes by
the name takes it for something else. This is the only way in which the name can mislead.
-/

/-- A text has at least as many bytes as characters. -/
theorem Text.length_le_length_encodeUtf8
    (cs : List Char) :
    cs.length ≤ (encodeUtf8 cs).length := by
  induction cs with
  | nil =>
      exact Nat.le_refl 0
  | cons c cs inductionHypothesis =>
      have width : 0 < (String.utf8EncodeChar c).length := by
        rw [String.length_utf8EncodeChar]
        exact c.utf8Size_pos
      rw [encodeUtf8, List.flatMap_cons, List.length_append, List.length_cons]
      change _ ≤ _ + (encodeUtf8 cs).length
      omega

/-- Base64 makes every text longer, except for the empty one. -/
theorem Text.Base64.encodeText_eq_self_iff
    (s : String) :
    encodeText s = s ↔ s = "" := by
  constructor
  · intro same
    have lengths : (encodeText s).toList.length = s.toList.length := by
      rw [same]
    rw [encodeText, String.toList_ofList, length_encode, Text.toList_toByteArray] at lengths
    have shorter := Text.length_le_length_encodeUtf8 s.toList
    have none : s.toList.length = 0 := by
      omega
    exact String.toList_eq_nil_iff.mp (List.length_eq_zero_iff.mp none)
  · rintro rfl
    rw [encodeText, Text.toList_toByteArray]
    rfl

/-- The text that a value goes out as, if it goes by a name. -/
def messageByName (name value : String) : String :=
  if name ∈ documentNames then Text.Base64.encodeText value else value

/-- A kind outside the known ones that carries the name of a document. -/
def MetadataKind.Misnamed (kind : MetadataKind) : Prop :=
  ∃ name ∈ documentNames, kind = .other name

/-- A kind is misnamed exactly if it bears the name of a document without holding one. -/
theorem MetadataKind.misnamed_iff
    (kind : MetadataKind) :
    kind.Misnamed ↔ kind.name ∈ documentNames ∧ kind.holdsDocument = false := by
  constructor
  · rintro ⟨name, isDocument, rfl⟩
    exact ⟨isDocument, rfl⟩
  · rintro ⟨isDocument, notHeld⟩
    cases kind with
    | other name =>
        exact ⟨name, isDocument, rfl⟩
    | signingTime | certificateName =>
        exact absurd isDocument (by decide)
    | diagnosticReport | unsignedOriginal | validationReport =>
        cases notHeld

/-- Every kind that holds a document bears one of their names. -/
theorem MetadataKind.name_mem_of_holdsDocument
    {kind : MetadataKind}
    (holds : kind.holdsDocument = true) :
    kind.name ∈ documentNames := by
  cases kind with
  | diagnosticReport | unsignedOriginal | validationReport =>
      decide
  | signingTime | certificateName | other =>
      cases holds

/-- The one case in which the value does not go out as the name says. -/
theorem Metadatum.message_eq_messageByName_iff
    (m : Metadatum) :
    m.message = messageByName m.kind.name m.value ↔ ¬ m.kind.Misnamed ∨ m.value = "" := by
  rw [message, messageByName, MetadataKind.misnamed_iff]
  cases holds : m.kind.holdsDocument with
  | true =>
      simp [MetadataKind.name_mem_of_holdsDocument holds]
  | false =>
      by_cases isDocument : m.kind.name ∈ documentNames
      · simp only [isDocument, Bool.false_eq_true, if_false, if_true, and_self, not_true_eq_false,
          false_or]
        rw [eq_comm, Text.Base64.encodeText_eq_self_iff]
      · simp [isDocument]

/-- What a response shows of the metadata of a validation. -/
structure ValidationReport.ShowsMetadata (v : ValidationReport) : Prop where
  /-- Every response that is about the validation has one entry for each metadatum, in order. -/
  listed :
    ∀ signedDocument signedProof,
      ∀ r ∈ [WorkflowReport.validation v, .validationWithProof v signedProof,
          .signatureWithProof v signedDocument signedProof],
        r.encode.itemsAt? "metaData" = some (v.metadata.map Metadatum.encode)
  named : ∀ m ∈ v.metadata, m.encode.textAt? "typeMetadata" = some m.kind.name
  /-- The kind decides how the value goes out. -/
  valued :
    ∀ m ∈ v.metadata,
      m.encode.textAt? "message" =
        some (if m.kind.holdsDocument then Text.Base64.encodeText m.value else m.value)
  /-- The name tells how the value goes out, unless another kind carries the name of a document. -/
  byName_iff :
    ∀ m ∈ v.metadata,
      m.encode.textAt? "message" = some (messageByName m.kind.name m.value) ↔
        ¬ m.kind.Misnamed ∨ m.value = ""
  /-- Metadata that are not of such a kind have the same entry if name and value are the same. -/
  alike :
    ∀ m ∈ v.metadata, ∀ other ∈ v.metadata, ¬ m.kind.Misnamed → ¬ other.kind.Misnamed →
      m.kind.name = other.kind.name → m.value = other.value → m.encode = other.encode

/--
In every response about a validation, with metadata of any kinds, the name of a metadatum tells
how its value goes out, except for a kind outside the known ones with the name of a document.
-/
theorem ValidationReport.showsMetadata
    (v : ValidationReport) :
    v.ShowsMetadata where
  listed := by
    intro signedDocument signedProof r listed
    simp only [List.mem_cons, List.not_mem_nil, or_false] at listed
    obtain rfl | rfl | rfl := listed <;> rfl
  named _ _ := rfl
  valued _ _ := rfl
  byName_iff m _ := by
    have shown : m.encode.textAt? "message" = some m.message := rfl
    rw [shown, Option.some_inj, m.message_eq_messageByName_iff]
  alike m _ other _ ownName otherOwnName sameName sameValue := by
    have message := m.message_eq_messageByName_iff.mpr (.inl ownName)
    have otherMessage := other.message_eq_messageByName_iff.mpr (.inl otherOwnName)
    rw [Metadatum.encode, Metadatum.encode, message, otherMessage, sameName, sameValue]

/-- A value of another kind under the name of a validation report. -/
def Rehearsal.misnamed : Metadatum :=
  ⟨.other "RAPPORT_DSS", "<r/>"⟩

/-- Under the name of a document a value goes out as it is, unlike the document of that name. -/
theorem Metadatum.misnamed_not_byName :
    Rehearsal.misnamed.encode.textAt? "typeMetadata" = some "RAPPORT_DSS" ∧
      Rehearsal.misnamed.encode.textAt? "message" = some "<r/>" ∧
      Rehearsal.misnamed.encode.textAt? "message" ≠ some (Text.Base64.encodeText "<r/>") ∧
      (Metadatum.encode ⟨.validationReport, "<r/>"⟩).textAt? "typeMetadata" =
        some "RAPPORT_DSS" ∧
      (Metadatum.encode ⟨.validationReport, "<r/>"⟩).textAt? "message" ≠
        Rehearsal.misnamed.encode.textAt? "message" := by
  decide +kernel

end Notary
