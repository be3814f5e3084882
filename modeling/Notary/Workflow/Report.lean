import Notary.Engine.Report
import Notary.Json.Printer
import Notary.Text.Base64

namespace Notary

/-!
# Reports of workflows

What a workflow that succeeds answers with. Documents and proofs go out in
Base64, and so do metadata that hold documents. The four kinds of reports are
told apart by their members alone.
-/

open Json (Value)

/-- The report of a workflow. -/
inductive WorkflowReport where
  | signature (report : SignatureReport)
  | signatureWithProof (validation : ValidationReport) (signedDocument signedProof : String)
  | validation (report : ValidationReport)
  | validationWithProof (validation : ValidationReport) (signedProof : String)
deriving Repr, DecidableEq

/-- An error as a member of a report. -/
def ReportError.encode (e : ReportError) : Value :=
  .object [("codeErreur", .string e.code), ("message", .string e.message)]

/-- The text that a metadatum goes out as. -/
def Metadatum.message (m : Metadatum) : String :=
  if m.kind.holdsDocument then Text.Base64.encodeText m.value else m.value

/-- A metadatum as a member of a report. -/
def Metadatum.encode (m : Metadatum) : Value :=
  .object [("typeMetadata", .string m.kind.name), ("message", .string m.message)]

/-- A payload in Base64. -/
def payload (content : String) : Value :=
  .string (Text.Base64.encodeText content)

/-- The list of errors of a report. -/
def errorList (errors : List ReportError) : String × Value :=
  ("erreurs", .array (errors.map ReportError.encode))

/-- The list of metadata of a report. -/
def metadataList (metadata : List Metadatum) : String × Value :=
  ("metaData", .array (metadata.map Metadatum.encode))

namespace WorkflowReport

/-- The members of a report in order. -/
def members : WorkflowReport → List (String × Value)
  | signature r => [("docSigne", payload r.signedDocument), errorList r.errors]
  | signatureWithProof v signedDocument signedProof =>
      [("valide", .bool v.valid), ("docSigne", payload signedDocument),
        ("preuve", payload signedProof), errorList v.errors, metadataList v.metadata]
  | validation v => [("valide", .bool v.valid), errorList v.errors, metadataList v.metadata]
  | validationWithProof v signedProof =>
      [("valide", .bool v.valid), ("preuve", payload signedProof), errorList v.errors,
        metadataList v.metadata]

/-- A report as a value. -/
def encode (r : WorkflowReport) : Value :=
  .object r.members

/-- The text of a report. -/
def text (r : WorkflowReport) : String :=
  r.encode.text

end WorkflowReport

end Notary
