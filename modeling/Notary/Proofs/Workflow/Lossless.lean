import Mathlib.Tactic.SplitIfs
import Notary.Proofs.Json.Members
import Notary.Proofs.Text.Base64
import Notary.Proofs.Text.Utf8
import Notary.Workflow.Report

namespace Notary

/-!
# Reports lose nothing

A client that has nothing but the text of a report recovers the report: which members are
there tells what kind of report it is, and the name of a metadatum tells whether its value
is a document in Base64. So two different reports never have the same text.
-/

open Json (Value lookup?)

/-- The string that a Base64 text stands for. -/
def Text.Base64.decodeText? (s : String) : Option String := do
  let bytes ← decode? s.toList
  let chars ← decodeUtf8? bytes
  return String.ofList chars

/-- Text encoded as base64 is decoded to the same text. -/
theorem Text.Base64.decodeText?_encodeText
    (s : String) :
    decodeText? (encodeText s) = some s := by
  rw [decodeText?, encodeText, String.toList_ofList, decode?_encode]
  change (Text.decodeUtf8? s.toByteArray.toList).bind _ = _
  rw [Text.toList_toByteArray, Text.decodeUtf8?_encodeUtf8]
  exact congrArg some String.ofList_toList

/-- The member of an object. -/
def Json.Value.member? (name : String) : Value → Option Value
  | .object members => lookup? name members
  | _ => none

/-- The text that a member holds. -/
def Json.Value.textAt? (name : String) (v : Value) : Option String :=
  match v.member? name with
  | some (.string text) => some text
  | _ => none

/-- The items that a member holds. -/
def Json.Value.itemsAt? (name : String) (v : Value) : Option (List Value) :=
  match v.member? name with
  | some (.array items) => some items
  | _ => none

/-- The text that a member holds in Base64. -/
def Json.Value.payloadAt? (name : String) (v : Value) : Option String :=
  (v.textAt? name).bind Text.Base64.decodeText?

/-- An error from a member of a report. -/
def ReportError.ofValue? (v : Value) : Option ReportError := do
  return ⟨← v.textAt? "codeErreur", ← v.textAt? "message"⟩

/-- The names of metadata that hold documents. -/
def documentNames : List String :=
  ["RAPPORT_DIAGNOSTIQUE", "DOCUMENT_ORIGINAL_NON_SIGNE", "RAPPORT_DSS"]

/-- A metadatum from a member of a report: its name tells whether its value is in Base64. -/
def Metadatum.ofValue? (v : Value) : Option Metadatum := do
  let name ← v.textAt? "typeMetadata"
  let value ← if name ∈ documentNames then v.payloadAt? "message" else v.textAt? "message"
  return ⟨.ofName name, value⟩

/-- The errors of a report. -/
def errorsOf? (v : Value) : Option (List ReportError) := do
  (← v.itemsAt? "erreurs").mapM ReportError.ofValue?

/-- The report of a validation from the members of a report that hold it. -/
def ValidationReport.ofValue? (v : Value) (valid : Bool) : Option ValidationReport := do
  return ⟨valid, ← errorsOf? v, ← (← v.itemsAt? "metaData").mapM Metadatum.ofValue?⟩

/-- A report from its value: three members tell of which kind it is by being there or not. -/
def WorkflowReport.ofValue? (v : Value) : Option WorkflowReport :=
  match v.member? "valide", v.member? "docSigne", v.member? "preuve" with
  | none, some _, none => do
      return .signature ⟨← v.payloadAt? "docSigne", ← errorsOf? v⟩
  | some (.bool valid), some _, some _ => do
      return .signatureWithProof (← ValidationReport.ofValue? v valid)
        (← v.payloadAt? "docSigne") (← v.payloadAt? "preuve")
  | some (.bool valid), none, none => do
      return .validation (← ValidationReport.ofValue? v valid)
  | some (.bool valid), none, some _ => do
      return .validationWithProof (← ValidationReport.ofValue? v valid) (← v.payloadAt? "preuve")
  | _, _, _ => none

/-- A report from its text. -/
def WorkflowReport.ofText? (text : String) : Option WorkflowReport :=
  (Json.readValue (text.toList.map .char)).toOption.bind ofValue?

/-- A kind that is the kind of some name, so that no known name is used for another kind. -/
def MetadataKind.Named (kind : MetadataKind) : Prop :=
  ∃ name, kind = .ofName name

theorem MetadataKind.name_ofName
    (name : String) :
    (MetadataKind.ofName name).name = name := by
  unfold ofName
  split_ifs with signingTime certificateName diagnosticReport unsignedOriginal validationReport
  · exact signingTime.symm
  · exact certificateName.symm
  · exact diagnosticReport.symm
  · exact unsignedOriginal.symm
  · exact validationReport.symm
  · rfl

/-- The kinds that hold documents are those with the names of documents. -/
theorem MetadataKind.holdsDocument_ofName
    (name : String) :
    (MetadataKind.ofName name).holdsDocument = decide (name ∈ documentNames) := by
  unfold ofName
  split_ifs with signingTime certificateName diagnosticReport unsignedOriginal validationReport
  · subst signingTime
    decide
  · subst certificateName
    decide
  · subst diagnosticReport
    decide
  · subst unsignedOriginal
    decide
  · subst validationReport
    decide
  · simp [documentNames, holdsDocument, diagnosticReport, unsignedOriginal, validationReport]

/-- A metadatum of a named kind is read back from its member of the report. -/
theorem Metadatum.ofValue?_encode
    {m : Metadatum}
    (named : m.kind.Named) :
    Metadatum.ofValue? m.encode = some m := by
  obtain ⟨kind, value⟩ := m
  obtain ⟨name, rfl⟩ := named
  have typeRead :
      (encode ⟨.ofName name, value⟩).textAt? "typeMetadata" = some name :=
    congrArg some (MetadataKind.name_ofName name)
  have messageRead :
      (encode ⟨.ofName name, value⟩).textAt? "message" =
        some (message ⟨.ofName name, value⟩) :=
    rfl
  rw [ofValue?, typeRead, Json.Value.payloadAt?, messageRead, message,
    MetadataKind.holdsDocument_ofName]
  by_cases isDocument : name ∈ documentNames
  · simp [isDocument, Text.Base64.decodeText?_encodeText]
  · simp [isDocument]

theorem mapM_map_eq
    {α β : Type}
    {write : α → β}
    {read : β → Option α}
    {values : List α}
    (readBack : ∀ value ∈ values, read (write value) = some value) :
    (values.map write).mapM read = some values := by
  induction values with
  | nil =>
      rfl
  | cons value values inductionHypothesis =>
      obtain ⟨readHere, readRest⟩ := List.forall_mem_cons.mp readBack
      rw [List.map_cons, List.mapM_cons, readHere, inductionHypothesis readRest]
      rfl

section Members

variable
    {v : Value}

/-- The document under a member is read back from its base64. -/
theorem payloadAt?_eq
    {name content : String}
    (holds : v.member? name = some (payload content)) :
    v.payloadAt? name = some content := by
  rw [Json.Value.payloadAt?, Json.Value.textAt?, holds]
  exact Text.Base64.decodeText?_encodeText content

theorem errorsOf?_eq
    {errors : List ReportError}
    (holds : v.member? "erreurs" = some (errorList errors).2) :
    errorsOf? v = some errors := by
  rw [errorsOf?, Json.Value.itemsAt?, holds]
  exact mapM_map_eq fun _ _ => rfl

/-- A validation is read back from the members of its errors and its metadata. -/
theorem ValidationReport.ofValue?_eq
    {report : ValidationReport}
    (named : ∀ m ∈ report.metadata, m.kind.Named)
    (errors : v.member? "erreurs" = some (errorList report.errors).2)
    (metadata : v.member? "metaData" = some (metadataList report.metadata).2) :
    ofValue? v report.valid = some report := by
  have items : v.itemsAt? "metaData" = some (report.metadata.map Metadatum.encode) := by
    rw [Json.Value.itemsAt?, metadata]
    rfl
  have metadataRead :
      (report.metadata.map Metadatum.encode).mapM Metadatum.ofValue? = some report.metadata :=
    mapM_map_eq fun m listed => Metadatum.ofValue?_encode (named m listed)
  simp only [ofValue?, errorsOf?_eq errors, items, bind, Option.bind_some, metadataRead]
  rfl

end Members

namespace WorkflowReport

/-- The metadata of a report. -/
def metadata : WorkflowReport → List Metadatum
  | signature _ => []
  | signatureWithProof v _ _ | validation v | validationWithProof v _ => v.metadata

/-- A report whose metadata are of the kinds of their names. -/
def Named (r : WorkflowReport) : Prop :=
  ∀ m ∈ r.metadata, m.kind.Named

/-- Every kind of report is recovered from its members. -/
theorem ofValue?_encode
    {r : WorkflowReport}
    (named : r.Named) :
    ofValue? r.encode = some r := by
  cases r with
  | signature report =>
      let v := encode (.signature report)
      have documentRead : v.payloadAt? "docSigne" = some report.signedDocument :=
        payloadAt?_eq rfl
      have errorsRead : errorsOf? v = some report.errors :=
        errorsOf?_eq rfl
      change
        ((v.payloadAt? "docSigne").bind fun document =>
          (errorsOf? v).bind fun errors => some (signature ⟨document, errors⟩)) = _
      rw [documentRead, errorsRead]
      rfl
  | signatureWithProof report document proof =>
      let v := encode (.signatureWithProof report document proof)
      have reportRead : ValidationReport.ofValue? v report.valid = some report :=
        ValidationReport.ofValue?_eq named rfl rfl
      have documentRead : v.payloadAt? "docSigne" = some document :=
        payloadAt?_eq rfl
      have proofRead : v.payloadAt? "preuve" = some proof :=
        payloadAt?_eq rfl
      change
        ((ValidationReport.ofValue? v report.valid).bind fun report =>
          (v.payloadAt? "docSigne").bind fun document =>
            (v.payloadAt? "preuve").bind fun proof =>
              some (signatureWithProof report document proof)) = _
      rw [reportRead, documentRead, proofRead]
      rfl
  | validation report =>
      let v := encode (.validation report)
      have reportRead : ValidationReport.ofValue? v report.valid = some report :=
        ValidationReport.ofValue?_eq named rfl rfl
      change
        ((ValidationReport.ofValue? v report.valid).bind fun report =>
          some (validation report)) = _
      rw [reportRead]
      rfl
  | validationWithProof report proof =>
      let v := encode (.validationWithProof report proof)
      have reportRead : ValidationReport.ofValue? v report.valid = some report :=
        ValidationReport.ofValue?_eq named rfl rfl
      have proofRead : v.payloadAt? "preuve" = some proof :=
        payloadAt?_eq rfl
      change
        ((ValidationReport.ofValue? v report.valid).bind fun report =>
          (v.payloadAt? "preuve").bind fun proof =>
            some (validationWithProof report proof)) = _
      rw [reportRead, proofRead]
      rfl

/-- A report has no numbers in it, and lists of flat objects at most. -/
theorem plain_encode
    (r : WorkflowReport) :
    r.encode.Plain Json.depthLimit := by
  have error (e : ReportError) : e.encode.Plain (Json.depthLimit - 2) :=
    ⟨by decide, trivial, trivial, trivial⟩
  have metadatum (m : Metadatum) : m.encode.Plain (Json.depthLimit - 2) :=
    ⟨by decide, trivial, trivial, trivial⟩
  have errors (list : List ReportError) : (errorList list).2.Plain (Json.depthLimit - 1) :=
    Json.plain_array_map (by decide) error list
  have metadata (list : List Metadatum) : (metadataList list).2.Plain (Json.depthLimit - 1) :=
    Json.plain_array_map (by decide) metadatum list
  cases r with
  | signature report =>
      exact ⟨by decide, trivial, errors _, trivial⟩
  | signatureWithProof report document proof =>
      exact ⟨by decide, trivial, trivial, trivial, errors _, metadata _, trivial⟩
  | validation report =>
      exact ⟨by decide, trivial, errors _, metadata _, trivial⟩
  | validationWithProof report proof =>
      exact ⟨by decide, trivial, trivial, errors _, metadata _, trivial⟩

/-- The text of a report is read as the report it is of. -/
theorem ofText?_written
    {r : WorkflowReport}
    (named : r.Named) :
    ofText? r.text = some r := by
  have written : r.text.toList = Json.write r.encode :=
    String.toList_ofList
  rw [ofText?, written, Json.readValue_write r.plain_encode]
  exact ofValue?_encode named

/--
A client recovers a report from its text alone: of which of the four kinds it is, whether it is
valid, every error and metadatum in order, and the documents and proofs that went out in Base64.
So no other report has the same text.
-/
theorem text_lossless
    (r : WorkflowReport)
    (named : r.Named) :
    ofText? r.text = some r ∧
      ∀ other : WorkflowReport, other.Named → other.text = r.text → other = r := by
  refine ⟨ofText?_written named, ?_⟩
  intro other otherNamed sameText
  have otherRead : ofText? r.text = some other := by
    rw [← sameText]
    exact ofText?_written otherNamed
  rw [ofText?_written named] at otherRead
  exact (Option.some.inj otherRead).symm

theorem text_lossless_with_documents :
    let r := signatureWithProof
      ⟨false, [⟨"ERR_SIG_01", "Signature \"invalide\""⟩],
        [⟨.ofName "RAPPORT_DSS", "<r/>"⟩, ⟨.ofName "POLICY", "<r/>"⟩]⟩ "<doc/>" "<proof/>"
    r.Named ∧
      ofText? r.text = some r ∧
      ∀ other : WorkflowReport, other.Named → other.text = r.text → other = r := by
  intro r
  have named : r.Named := by
    intro m listed
    simp only [r, metadata, List.mem_cons, List.not_mem_nil, or_false] at listed
    obtain rfl | rfl := listed
    · exact ⟨"RAPPORT_DSS", rfl⟩
    · exact ⟨"POLICY", rfl⟩
  exact ⟨named, text_lossless r named⟩

-- A kind that takes the name of another one is told from it by nothing in the text.
example :
    (validation ⟨true, [], [⟨.other "DN_CERTIFICAT", "CN=a"⟩]⟩).text =
      (validation ⟨true, [], [⟨.certificateName, "CN=a"⟩]⟩).text :=
  rfl

end WorkflowReport

end Notary
