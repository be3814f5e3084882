import Mathlib.Data.List.Induction
import Notary.Proofs.Engine.Charset
import Notary.Proofs.Workflow.DataFlow
import Notary.Proofs.Workflow.Lossless
import Notary.Proofs.Workflow.Outcome

namespace Notary

/-!
# Validating again what was signed with proof

Signing with proof has the signed document validated and hands it back in Base64. When
that file is handed in for validation, it is decoded from its bytes. It is then validated
as the text that was certified, less one byte order mark in front of it.
-/

open Config (Snapshot)

/-- The signed text that a call has validated, with its format. -/
def Call.validated? : Call → Option (Profile × String)
  | validate profile text _ => some (profile, text)
  | _ => none

/-- The signed texts that are validated in a run, in order. -/
def Run.validated {α : Type} (run : Run α) : List (Profile × String) :=
  run.calls.filterMap Call.validated?

/-- The format in which a step validates signed texts. -/
def Step.validates? : Step → Option Profile
  | validate profile => some profile
  | _ => none

/-- The signed document of a report, from the text of the report. -/
def WorkflowReport.signedFile? (text : String) : Option (List UInt8) := do
  let v ← (Json.readValue (text.toList.map .char)).toOption
  let digits ← v.textAt? "docSigne"
  Text.Base64.decode? digits.toList

/-- The signed file of a report with a proof is read back from its text. -/
theorem WorkflowReport.signedFile?_text
    (validation : ValidationReport)
    (document proof : String) :
    signedFile? (signatureWithProof validation document proof).text =
      some (Text.encodeUtf8 document.toList) := by
  let r := signatureWithProof validation document proof
  have written : r.text.toList = Json.write r.encode :=
    String.toList_ofList
  have holds : r.encode.textAt? "docSigne" = some (Text.Base64.encodeText document) :=
    rfl
  rw [signedFile?, written, Json.readValue_write r.plain_encode]
  change (r.encode.textAt? "docSigne").bind (fun digits => Text.Base64.decode? digits.toList) = _
  rw [holds, Option.bind_some, Text.Base64.encodeText, String.toList_ofList,
    Text.Base64.decode?_encode]
  exact congrArg some (Text.toList_toByteArray document)

/-- The validated documents are those of the attempts, whatever the engine answered. -/
theorem Run.validated_eq_attempts
    {α : Type}
    (run : Run α)
    (engine : Engine)
    (history : List Call) :
    run.validated =
      (engine.attempts history run.calls).filterMap fun attempt => attempt.call.validated? := by
  have passive (call : Call) :
      (if call.isCryptographic then call.validated? else none) = call.validated? := by
    cases call <;> rfl
  have viaCalls :
      ((engine.attempts history run.calls).map (·.call)).filterMap Call.validated? =
        run.validated := by
    rw [engine.map_call_attempts, List.filterMap_filter, Run.validated]
    exact congrArg (run.calls.filterMap ·) (funext passive)
  rw [← viaCalls, List.filterMap_map]
  rfl

theorem Run.exists_validated
    {α : Type}
    {run : Run α}
    {profile : Profile}
    (profiles : run.validated.map Prod.fst = [profile]) :
    ∃ text, run.validated = [(profile, text)] := by
  obtain ⟨⟨other, text⟩, validated, same⟩ := List.map_eq_singleton_iff.mp profiles
  cases same
  exact ⟨text, validated⟩

/-! ## What was gathered -/

/-- An attempt takes away no signature. -/
theorem Gathered.signatures_prefix_add
    (g : Gathered)
    (attempt : Attempt) :
    g.signatures <+: (g.add attempt).signatures := by
  rcases attempt with ⟨call, answer | failure | _⟩
  · cases call with
    | sign profile document parameters =>
        exact List.prefix_append g.signatures [answer]
    | _ =>
        exact List.prefix_rfl
  · cases call <;> exact List.prefix_rfl
  · cases call <;> exact List.prefix_rfl

/-- The signatures that were gathered stay in front. -/
theorem gathered_signatures_prefix
    (before later : List Attempt) :
    (gathered before).signatures <+: (gathered (before ++ later)).signatures := by
  induction later generalizing before with
  | nil =>
      simp only [List.append_nil, List.prefix_refl]
  | cons attempt later inductionHypothesis =>
      have step := (gathered before).signatures_prefix_add attempt
      rw [← gathered_append] at step
      rw [List.append_cons]
      exact step.trans (inductionHypothesis (before ++ [attempt]))

/-- The texts that were gathered are those that documents were decoded as. -/
theorem exists_decode_of_mem_texts
    {attempts : List Attempt}
    {text : String}
    (member : text ∈ (gathered attempts).texts) :
    ∃ document, ⟨.decode document, .answered text⟩ ∈ attempts := by
  induction attempts using List.reverseRecOn with
  | nil =>
      cases member
  | append_singleton before attempt inductionHypothesis =>
      have earlier (member : text ∈ (gathered before).texts) :
          ∃ document, ⟨.decode document, .answered text⟩ ∈ before ++ [attempt] := by
        obtain ⟨document, decodes⟩ := inductionHypothesis member
        exact ⟨document, List.mem_append_left _ decodes⟩
      rw [gathered_append] at member
      rcases attempt with ⟨call, answer | failure | _⟩
      · cases call with
        | decode document =>
            rcases List.mem_append.mp member with before | here
            · exact earlier before
            · cases List.mem_singleton.mp here
              exact ⟨document, List.mem_append_right _ List.mem_cons_self⟩
        | _ =>
            exact earlier member
      · cases call <;> exact earlier member
      · cases call <;> exact earlier member

namespace Workflow

variable
    {setup : Setup}
    {s : Snapshot}
    {w : Workflow}
    {r : Request}
    {engine : Engine}
    {history : List Call}

/-- A call validates under the profile that its step does. -/
theorem Admits.validated?_eq
    {step : Step}
    {call : Call}
    (admits : w.Admits s r step call) :
    call.validated?.map Prod.fst = step.validates? := by
  cases admits <;> rfl

/-- Attempts that match steps validate under the profiles of the steps, in their order. -/
theorem validated_of_matching
    {made : List Step}
    {attempts : List Attempt}
    (matching : List.Forall₂ (fun step attempt => w.Admits s r step attempt.call) made attempts) :
    (attempts.filterMap fun attempt => attempt.call.validated?).map Prod.fst =
      made.filterMap Step.validates? := by
  rw [List.map_filterMap]
  induction matching with
  | nil =>
      rfl
  | cons admits _ inductionHypothesis =>
      rw [List.filterMap_cons, List.filterMap_cons, admits.validated?_eq, inductionHypothesis]

/-- Each call of a workflow is in order after the calls before it. -/
theorem inOrder_of_mem_calls
    {call : Call}
    (member : call ∈ ((w.program setup r).runOn s engine history).calls) :
    ∃ earlier later,
      earlier ++ later =
          engine.transcript history ((w.program setup r).runOn s engine history).calls ∧
        (terms setup s w r).calls earlier call := by
  have follows : Follows setup s w r (w.program setup r) [] :=
    program_follows setup s w r
  rw [← engine.map_call_transcript history
    ((w.program setup r).runOn s engine history).calls] at member
  obtain ⟨attempt, attempted, rfl⟩ := List.mem_map.mp member
  obtain ⟨earlier, later, split⟩ := List.append_of_mem attempted
  exact ⟨earlier, attempt :: later, split.symm, follows.calls engine history split⟩

/-- The text that signing with proof has validated is the one that it hands back. -/
theorem validated_signWithProof
    {profile : Profile}
    {validation : ValidationReport}
    {document proof : String}
    (finished :
      (((signWithProof profile).program setup r).runOn s engine history).ending =
        .finished (.signatureWithProof validation document proof))
    {other : Profile}
    {text : String}
    (validated :
      (other, text) ∈
        (((signWithProof profile).program setup r).runOn s engine history).validated) :
    text = document := by
  have follows : Follows setup s (signWithProof profile) r
      ((signWithProof profile).program setup r) [] :=
    program_follows setup s (signWithProof profile) r
  obtain ⟨call, member, validates⟩ := List.mem_filterMap.mp validated
  obtain ⟨earlier, later, split, ⟨bytes, _, rfl⟩ | ⟨step, _, prescribed⟩⟩ :=
    inOrder_of_mem_calls member
  · cases validates
  · cases prescribed with
    | @validateSigned signed entry signs found =>
        cases validates
        -- What is handed back was gathered first, as what is validated was.
        have concludes := follows.yields_of_finished engine history finished
        have stays := gathered_signatures_prefix earlier later
        rw [split, signs] at stays
        cases concludes with
        | @signWithProof _ _ first second _ signatures =>
            rw [List.nil_append] at signatures
            rw [signatures, List.cons_prefix_cons] at stays
            rw [stays.1]
    | validate validating =>
        rcases validating with same | same <;> cases same
    | _ =>
        cases validates

/-- Every text that is gathered is what the default detector makes of the document. -/
theorem eq_decode_of_mem_texts
    (detects : engine.DetectsByDefault)
    {document : List UInt8}
    (given : r.document = some document)
    {earlier later : List Attempt}
    (split :
      earlier ++ later =
        engine.transcript history ((w.program setup r).runOn s engine history).calls)
    {text : String}
    (member : text ∈ (gathered earlier).texts) :
    text = String.ofList (Charset.decode document) := by
  obtain ⟨bytes, decoding⟩ := exists_decode_of_mem_texts member
  have attempted := List.mem_append_left later decoding
  rw [split] at attempted
  have called : .decode bytes ∈ ((w.program setup r).runOn s engine history).calls := by
    rw [← engine.map_call_transcript history ((w.program setup r).runOn s engine history).calls]
    exact List.mem_map_of_mem attempted
  obtain ⟨_, _, _, ⟨_, givenHere, isSame⟩ | ⟨_, _, prescribed⟩⟩ := inOrder_of_mem_calls called
  · cases isSame
    rw [given] at givenHere
    cases givenHere
    obtain ⟨before, replied⟩ := Engine.exists_reply_of_mem_transcript attempted
    rw [detects] at replied
    exact Outcome.answered.inj replied
  · cases prescribed

/-- The text that is validated is what the default detector makes of the document. -/
theorem validated_validate
    (detects : engine.DetectsByDefault)
    {profile : Profile}
    {document : List UInt8}
    (given : r.document = some document)
    {other : Profile}
    {text : String}
    (validated :
      (other, text) ∈ (((validate profile).program setup r).runOn s engine history).validated) :
    text = String.ofList (Charset.decode document) := by
  obtain ⟨call, member, validates⟩ := List.mem_filterMap.mp validated
  obtain ⟨earlier, later, split, ⟨bytes, _, rfl⟩ | ⟨step, _, prescribed⟩⟩ :=
    inOrder_of_mem_calls member
  · cases validates
  · cases prescribed with
    | validate _ decodes _ =>
        cases validates
        refine eq_decode_of_mem_texts detects given split ?_
        rw [decodes]
        exact List.mem_cons_self
    | _ =>
        cases validates

/-- A file that is handed back for what was certified, with how it is validated later on. -/
structure Revalidated
    (profile : Profile)
    (run : Run WorkflowReport)
    (report : WorkflowReport)
    (certified : String)
    (file : List UInt8) : Prop where
  certifies : run.validated = [(profile, certified)]
  handsBack : WorkflowReport.signedFile? report.text = some file
  /-- Whoever hands the file in, one mark is dropped from it, once the guards are passed. -/
  again :
    ∀ (engine : Engine) (history : List Call) (setup : Setup) (s : Snapshot) (r : Request),
      engine.DetectsByDefault → r.document = some file →
        Passes setup s (validate profile) r →
          (((validate profile).program setup r).runOn s engine history).validated =
            [(profile, Charset.unmarked certified)]
  /-- So the texts are the same exactly if the one that was certified has no mark in front. -/
  same_iff :
    Charset.unmarked certified = certified ↔ certified.toList.head? ≠ some Charset.mark

/-- A request to validate a text has exactly that text validated, less one byte order mark. -/
theorem validated_of_encodeUtf8
    (detects : engine.DetectsByDefault)
    (history : List Call)
    {profile : Profile}
    {document : String}
    (given : r.document = some (Text.encodeUtf8 document.toList))
    (passes : Passes setup s (validate profile) r) :
    (((validate profile).program setup r).runOn s engine history).validated =
      [(profile, Charset.unmarked document)] := by
  let run := ((validate profile).program setup r).runOn s engine history
  rcases run_refused_or_course detects history setup s (validate profile) r with
    ⟨rejection, refuses, _⟩ | ⟨_, course⟩
  · rw [refusal?_eq_none_iff.mpr passes] at refuses
    cases refuses
  · obtain ⟨made, isPrefix, matching⟩ := course.admitted
    have notEmpty := course.attempts_ne_nil (validate profile).plan_ne_nil
    have allMade : made = [.validate profile] := by
      rcases List.prefix_cons_iff.mp isPrefix with rfl | ⟨more, rfl, rest⟩
      · exact (notEmpty (List.forall₂_nil_left_iff.mp matching)).elim
      · rw [List.prefix_nil.mp rest]
    have profiles : run.validated.map Prod.fst = [profile] := by
      rw [run.validated_eq_attempts engine history, validated_of_matching matching, allMade]
      rfl
    obtain ⟨text, validated⟩ := Run.exists_validated profiles
    have isText : text = String.ofList (Charset.decode (Text.encodeUtf8 document.toList)) :=
      validated_validate detects given (validated ▸ List.mem_cons_self)
    rw [validated, isText, Charset.decode_encodeUtf8]
    rfl

end Workflow

namespace Rehearsal

/-- An engine that signs a document by handing it back as it is. -/
def preserving : Engine where
  reply
    | _, .sign _ document _ => .silent (.answered ⟨document, []⟩)
    | history, call => Script.smooth.engine.reply history call

/-- A request whose document has a byte order mark in front. -/
def marked : Request :=
  { request with document := some (Text.byteOrderMark ++ [60, 100, 47, 62]) }

/-- Signing the document with proof. -/
def markedRun : Run WorkflowReport :=
  ((Workflow.signWithProof .xades).program setup marked).runOn snapshot preserving []

/-- What that is answered with. -/
def markedReport : WorkflowReport :=
  .signatureWithProof ⟨true, [], []⟩ "\uFEFF<d/>" "<proof>r</proof>"

/-- Validating the file that is handed back. -/
def markedAgain : Run WorkflowReport :=
  ((Workflow.validate .xades).program setup
      { request with document := WorkflowReport.signedFile? markedReport.text }).runOn
    snapshot preserving []

end Rehearsal

end Notary
