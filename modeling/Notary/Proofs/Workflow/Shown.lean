import Mathlib.Data.List.Forall2
import Notary.Proofs.Workflow.Lossless

namespace Notary

/-!
# What the text of a report shows

The text of every report is that of an object, whose members are the ones of its kind and no
others. Each of them shows its part of the report: documents and proofs in Base64, errors
and metadata one by one. This holds also of reports that a client cannot recover, since they
have metadata of a kind that takes the name of another one.
-/

open Json (Value)

/-- The names of the members of an object. -/
def Json.Value.names : Value → List String
  | .object members => members.map (·.1)
  | _ => []

/-- Whether a value shows a metadatum: its name, and its value as it is or in Base64. -/
def Metadatum.ShownBy (v : Value) (m : Metadatum) : Prop :=
  let plain (name : String) : Prop :=
    v.textAt? "typeMetadata" = some name ∧ v.textAt? "message" = some m.value
  let document (name : String) : Prop :=
    v.textAt? "typeMetadata" = some name ∧ v.payloadAt? "message" = some m.value
  match m.kind with
  | .signingTime => plain "DATE_SIGNATURE"
  | .certificateName => plain "DN_CERTIFICAT"
  | .diagnosticReport => document "RAPPORT_DIAGNOSTIQUE"
  | .unsignedOriginal => document "DOCUMENT_ORIGINAL_NON_SIGNE"
  | .validationReport => document "RAPPORT_DSS"
  | .other name => plain name

/-- Whether a value shows the report of a validation. -/
structure ValidationReport.ShownBy (v : Value) (r : ValidationReport) : Prop where
  valid : v.member? "valide" = some (.bool r.valid)
  errors : errorsOf? v = some r.errors
  metadata :
    ∃ items, v.itemsAt? "metaData" = some items ∧
      List.Forall₂ (fun item m => Metadatum.ShownBy item m) items r.metadata

/-- Whether a value shows the report of a workflow, and nothing else. -/
def WorkflowReport.ShownBy (v : Value) : WorkflowReport → Prop
  | signature report =>
      v.names = ["docSigne", "erreurs"] ∧
        v.payloadAt? "docSigne" = some report.signedDocument ∧
          errorsOf? v = some report.errors
  | signatureWithProof report signedDocument signedProof =>
      v.names = ["valide", "docSigne", "preuve", "erreurs", "metaData"] ∧
        report.ShownBy v ∧ v.payloadAt? "docSigne" = some signedDocument ∧
          v.payloadAt? "preuve" = some signedProof
  | validation report =>
      v.names = ["valide", "erreurs", "metaData"] ∧ report.ShownBy v
  | validationWithProof report signedProof =>
      v.names = ["valide", "preuve", "erreurs", "metaData"] ∧ report.ShownBy v ∧
        v.payloadAt? "preuve" = some signedProof

/-- Whether a text is that of a value which shows a report. -/
def WorkflowReport.WrittenIn (text : String) (r : WorkflowReport) : Prop :=
  ∃ v, Json.readValue (text.toList.map .char) = .ok v ∧ r.ShownBy v

theorem Metadatum.shownBy_encode
    (m : Metadatum) :
    m.ShownBy m.encode := by
  rcases m with ⟨kind, value⟩
  have decoded := Text.Base64.decodeText?_encodeText value
  cases kind with
  | diagnosticReport | unsignedOriginal | validationReport =>
      exact ⟨rfl, decoded⟩
  | signingTime | certificateName | other =>
      exact ⟨rfl, rfl⟩

/-- A validation is shown by every value with its verdict, its errors and its metadata. -/
theorem ValidationReport.ShownBy.of_members
    {v : Value}
    {r : ValidationReport}
    (valid : v.member? "valide" = some (.bool r.valid))
    (errors : v.member? "erreurs" = some (errorList r.errors).2)
    (metadata : v.member? "metaData" = some (metadataList r.metadata).2) :
    r.ShownBy v where
  valid := valid
  errors := errorsOf?_eq errors
  metadata := by
    refine ⟨r.metadata.map Metadatum.encode, ?_, ?_⟩
    · rw [Json.Value.itemsAt?, metadata]
      rfl
    · rw [List.forall₂_map_left_iff]
      exact List.forall₂_same.mpr fun m _ => m.shownBy_encode

namespace WorkflowReport

/-- Every report is shown by its own value. -/
theorem shownBy_encode
    (r : WorkflowReport) :
    r.ShownBy r.encode := by
  cases r with
  | signature report =>
      exact ⟨rfl, payloadAt?_eq rfl, errorsOf?_eq rfl⟩
  | signatureWithProof report signedDocument signedProof =>
      exact ⟨rfl, .of_members rfl rfl rfl, payloadAt?_eq rfl, payloadAt?_eq rfl⟩
  | validation report =>
      exact ⟨rfl, .of_members rfl rfl rfl⟩
  | validationWithProof report signedProof =>
      exact ⟨rfl, .of_members rfl rfl rfl, payloadAt?_eq rfl⟩

/-- Every report is written in its own text. -/
theorem writtenIn_text
    (r : WorkflowReport) :
    r.WrittenIn r.text := by
  have written : r.text.toList = Json.write r.encode :=
    String.toList_ofList
  refine ⟨r.encode, ?_, r.shownBy_encode⟩
  rw [written, Json.readValue_write r.plain_encode]

end WorkflowReport

end Notary
