import Notary.Proofs.Http.Classification

namespace Notary

/-!
# What a form comes to

The parts of a form are put into the request one after another, and each writes the one slot
that its name stands for, if there is one. So a slot holds what the last part of its name
says, whatever parts of other names stand between or behind, and no part reaches the media
types that the caller accepts.
-/

/-- The name of a field leads to the field. -/
theorem Field.ofFormName?_formName
    (field : Field) :
    Field.ofFormName? field.formName = some field := by
  cases field <;> rfl

/-- No other name leads to a field. -/
theorem Field.ofFormName?_eq_some_iff
    {name : String}
    {field : Field} :
    Field.ofFormName? name = some field ↔ name = field.formName := by
  constructor
  · intro found
    rw [Field.ofFormName?] at found
    have isName := List.find?_some found
    exact (of_decide_eq_true isName).symm
  · rintro rfl
    exact field.ofFormName?_formName

namespace Request

/-- A value that is set is the value of its own field, and of no other. -/
theorem get_set
    (r : Request)
    (field other : Field)
    (value : String) :
    (r.set field value).get other = if field = other then some value else r.get other := by
  cases field <;> cases other <;> rfl

/-- A name writes the field it is the name of, and no other one. -/
theorem get_setNamed
    (r : Request)
    (name value : String)
    (field : Field) :
    (r.setNamed name value).1.get field =
      if name = field.formName then some value else r.get field := by
  unfold setNamed
  cases known : Field.ofFormName? name with
  | none =>
      have isOther : name ≠ field.formName := by
        intro same
        rw [Field.ofFormName?_eq_some_iff.mpr same] at known
        cases known
      rw [if_neg isOther]
  | some written =>
      have isSame : written = field ↔ name = field.formName := by
        rw [← Field.ofFormName?_eq_some_iff, known, Option.some_inj]
      simp only [get_set, isSame]

/-- Text fields leave the document alone. -/
theorem document_setNamed
    (r : Request)
    (name value : String) :
    (r.setNamed name value).1.document = r.document := by
  unfold setNamed
  split
  · rename_i field _
    cases field <;> rfl
  · rfl

/-- No text field is what the request accepts. -/
theorem accept_setNamed
    (r : Request)
    (name value : String) :
    (r.setNamed name value).1.accept = r.accept := by
  unfold setNamed
  split
  · rename_i field _
    cases field <;> rfl
  · rfl

/-- A request is made up of what is accepted, the document and the text fields. -/
theorem eq_of_get
    {r other : Request}
    (accept : r.accept = other.accept)
    (document : r.document = other.document)
    (fields : ∀ field, r.get field = other.get field) :
    r = other := by
  have signingId := fields .signingId
  have signatureVerificationId := fields .signatureVerificationId
  have certificateVerificationId := fields .certificateVerificationId
  have proofId := fields .proofId
  have requestId := fields .requestId
  have proofTag := fields .proofTag
  have applicantId := fields .applicantId
  have secret := fields .secret
  cases r
  cases other
  simp_all only [get]

end Request

namespace Http

/-- No field has the name of the document. -/
theorem formName_ne_documentPart
    (field : Field) :
    field.formName ≠ documentPart := by
  cases field <;> decide

/-- No part of a form changes what the request accepts. -/
theorem accept_putPart
    (r : Request)
    (part : Part) :
    (putPart r part).1.accept = r.accept := by
  unfold putPart
  split
  · rfl
  · split
    · rfl
    · exact r.accept_setNamed _ _

/-- The document is the part of its name, and other parts leave it alone. -/
theorem document_putPart
    (r : Request)
    (part : Part) :
    (putPart r part).1.document =
      if part.name = some documentPart then some part.data else r.document := by
  unfold putPart
  cases part.name with
  | none =>
      simp
  | some name =>
      by_cases isDocument : name = documentPart
      · simp [isDocument]
      · simp [isDocument, r.document_setNamed]

/-- A field is the part of its name, and other parts leave it alone. -/
theorem get_putPart
    (field : Field)
    (r : Request)
    (part : Part) :
    (putPart r part).1.get field =
      if part.name = some field.formName then some part.text else r.get field := by
  unfold putPart
  cases part.name with
  | none =>
      simp
  | some name =>
      by_cases isDocument : name = documentPart
      · -- Writing the document leaves every text field alone.
        have isOther : name ≠ field.formName := by
          rw [isDocument]
          exact (formName_ne_documentPart field).symm
        have untouched : ({ r with document := some part.data } : Request).get field =
            r.get field := by
          cases field <;> rfl
        simp [isDocument, untouched, (formName_ne_documentPart field).symm]
      · simp [isDocument, r.get_setNamed]

/-- The last part that carries a name. -/
def lastNamed? (name : String) (parts : List Part) : Option Part :=
  (parts.filter (·.name = some name)).getLast?

/-- The last part of a name comes later, or is this one. -/
theorem lastNamed?_cons
    (name : String)
    (part : Part)
    (rest : List Part) :
    lastNamed? name (part :: rest) =
      (lastNamed? name rest).or (if part.name = some name then some part else none) := by
  unfold lastNamed?
  by_cases named : part.name = some name
  · rw [List.filter_cons_of_pos (by simpa using named), List.getLast?_cons, if_pos named]
    cases (rest.filter (·.name = some name)).getLast? <;> rfl
  · rw [List.filter_cons_of_neg (by simpa using named), if_neg named, Option.or_none]

/-- A slot that the parts of one name write holds what the last of them says. -/
theorem slot_putParts
    {β : Type}
    (slot : Request → Option β)
    {name : String}
    {content : Part → β}
    (written : ∀ r part,
      slot (putPart r part).1 = if part.name = some name then some (content part) else slot r)
    (r : Request)
    (parts : List Part) :
    slot (putParts r parts).1 = ((lastNamed? name parts).map content).or (slot r) := by
  induction parts generalizing r with
  | nil =>
      rfl
  | cons part rest inductionHypothesis =>
      rw [putParts, inductionHypothesis, written, lastNamed?_cons]
      by_cases named : part.name = some name
      · cases lastNamed? name rest <;> simp [named]
      · simp [named]

/-- So it is with all parts. -/
theorem accept_putParts
    (r : Request)
    (parts : List Part) :
    (putParts r parts).1.accept = r.accept := by
  induction parts generalizing r with
  | nil =>
      rfl
  | cons part rest inductionHypothesis =>
      rw [putParts, inductionHypothesis, accept_putPart]

section Requests

variable
    (m : Message)
    (parts : List Part)

theorem accept_requestOf :
    (requestOf m parts).accept = m.headerText? "accept" :=
  accept_putParts _ parts

/-- The document of a request is the last part of its name. -/
theorem document_requestOf :
    (requestOf m parts).document = (lastNamed? documentPart parts).map Part.data := by
  rw [requestOf, slot_putParts Request.document document_putPart]
  exact Option.or_none

/-- Each field of a request is the last part of its name. -/
theorem get_requestOf
    (field : Field) :
    (requestOf m parts).get field = (lastNamed? field.formName parts).map Part.text := by
  rw [requestOf, slot_putParts (·.get field) (get_putPart field)]
  cases field <;> exact Option.or_none

/-- Two lists of parts make the same request exactly if their last parts say the same. -/
theorem requestOf_eq_iff
    (others : List Part) :
    requestOf m others = requestOf m parts ↔
      (∀ field : Field,
        (lastNamed? field.formName others).map Part.text =
          (lastNamed? field.formName parts).map Part.text) ∧
        (lastNamed? documentPart others).map Part.data =
          (lastNamed? documentPart parts).map Part.data := by
  constructor
  · intro same
    refine ⟨fun field => ?_, ?_⟩
    · rw [← get_requestOf m, same, get_requestOf]
    · rw [← document_requestOf m, same, document_requestOf]
  · rintro ⟨fields, documents⟩
    apply Request.eq_of_get
    · rw [accept_requestOf, accept_requestOf]
    · rw [document_requestOf, document_requestOf, documents]
    · intro field
      rw [get_requestOf, get_requestOf, fields]

end Requests

/-- The names that have a meaning in a form. -/
def knownNames : List String :=
  documentPart :: Field.all.map Field.formName

theorem formName_mem_knownNames
    (field : Field) :
    field.formName ∈ knownNames := by
  cases field <;> decide

/-- Whether the name of a part has a meaning; a part may lack a name. -/
def Part.isKnown (part : Part) : Bool :=
  part.name.any (· ∈ knownNames)

/-- The last part of a known name is still there when all other parts are left out. -/
theorem lastNamed?_filter_isKnown
    {name : String}
    (known : name ∈ knownNames)
    (parts : List Part) :
    lastNamed? name (parts.filter Part.isKnown) = lastNamed? name parts := by
  have isKnown (part : Part) :
      (decide (part.name = some name) && part.isKnown) = decide (part.name = some name) := by
    by_cases named : part.name = some name
    · simp [Part.isKnown, named, known]
    · simp [named]
  simp only [lastNamed?, List.filter_filter, isKnown]

/-- How a form with these parts, sent in a message, is made into a request. -/
structure DecodesForm (m : Message) (parts : List Part) : Prop where
  /-- A form that is read to its end always yields a request. -/
  read :
    ∀ bodyLimit, FormReads bodyLimit m parts →
      (readForm bodyLimit m).request = some (requestOf m parts)
  /-- What is accepted is the value of the header field, with any parts. -/
  accept : (requestOf m parts).accept = m.headerText? "accept"
  /-- A text field is that of the last part of its name; without such a part it is absent. -/
  field :
    ∀ field : Field,
      (requestOf m parts).get field = (lastNamed? field.formName parts).map Part.text
  /-- The document is that of the last part of its name. -/
  document : (requestOf m parts).document = (lastNamed? documentPart parts).map Part.data
  /-- Parts without a name or of an unknown one may as well be left out. -/
  ignores : requestOf m (parts.filter Part.isKnown) = requestOf m parts
  /-- The last part of each known name is all that counts, wherever it stands. -/
  congr :
    ∀ others,
      (∀ name ∈ knownNames, lastNamed? name others = lastNamed? name parts) →
        requestOf m others = requestOf m parts

/--
Whatever parts a form has, in any order and with any names, the last part of each name decides
the slot that the name stands for, and nothing else in the form has an influence.
-/
theorem decodesForm
    (m : Message)
    (parts : List Part) :
    DecodesForm m parts := by
  have congr (others : List Part)
      (same : ∀ name ∈ knownNames, lastNamed? name others = lastNamed? name parts) :
      requestOf m others = requestOf m parts := by
    rw [requestOf_eq_iff]
    refine ⟨fun field => ?_, ?_⟩
    · rw [same _ (formName_mem_knownNames field)]
    · rw [same documentPart List.mem_cons_self]
  constructor
  case read =>
    exact fun _ reads => readForm_of_reads reads
  case accept =>
    exact accept_requestOf m parts
  case field =>
    exact get_requestOf m parts
  case document =>
    exact document_requestOf m parts
  case ignores =>
    exact congr _ fun _ known => lastNamed?_filter_isKnown known parts
  case congr =>
    exact congr

/-- The last value of a field is read, and a part without a name changes nothing. -/
example :
    let m : Message :=
      { method := "POST"
        target := "/signatures/xmldsig"
        headers := [⟨"Content-Type", Text.encodeUtf8 "multipart/form-data; boundary=b".toList⟩]
        body :=
          Text.encodeUtf8
            ("--b\r\nContent-Disposition: form-data; name=\"secret\"\r\n\r\nA\r\n" ++
              "--b\r\nContent-Disposition: form-data; name=\"secret\"\r\n\r\nB\r\n" ++
              "--b\r\nContent-Disposition: form-data\r\n\r\nC\r\n--b--").toList }
    (readForm 1000 m).request = some { Request.empty with secret := some "B" } := by
  decide +kernel

end Http

end Notary
