import Notary.Proofs.Text.WellFormed
import Notary.Proofs.Workflow.Revalidation

namespace Notary

/-!
# The document that reaches the engine

A run hands documents to the engine to be signed or validated, and the first of them is
what its workflow makes of the document of the request. The later ones are made by the
engine: the document that was signed, and the proof. If the bytes of a request are UTF-8
without a byte order mark, all workflows make the same text of them.
-/

open Config (Snapshot)

/-- The document that a call hands to the engine, to be signed or validated. -/
def Call.document? : Call → Option CertificateDocument
  | sign _ text _ => some (.text text)
  | validate _ text _ => some (.text text)
  | validateCertificate document _ => some document
  | _ => none

/-- The first document that is handed to the engine in a run. -/
def Run.firstDocument? {α : Type} (run : Run α) : Option CertificateDocument :=
  run.calls.findSome? Call.document?

/-- Whether a step hands a document to the engine. -/
def Step.takesDocument : Step → Bool
  | sign _ | signProof _ | validate _ | validateCertificate => true
  | _ => false

/-- Nothing was signed, validated or proved yet. -/
structure Gathered.Bare (g : Gathered) : Prop where
  signatures : g.signatures = []
  validations : g.validations = []
  proofs : g.proofs = []

namespace Workflow

/-- What a workflow makes of the document of a request. -/
def handsOver : Workflow → List UInt8 → CertificateDocument
  | sign _, document | signWithProof _, document => .text (textToSign document)
  | validate _, document | validateWithProof _, document =>
      .text (String.ofList (Charset.decode document))
  | validateCertificate, document | validateCertificateWithProof, document =>
      if Text.isBinary document then .binary document
      else .text (String.ofList (Charset.decode document))

variable
    {setup : Setup}
    {s : Snapshot}
    {w : Workflow}
    {r : Request}
    {engine : Engine}
    {history : List Call}
    {document : List UInt8}
    {handed : CertificateDocument}

/-- After a prescribed attempt without a document still nothing is signed, validated or proved. -/
theorem Prescribed.bare_add
    {g : Gathered}
    (bare : g.Bare)
    {step : Step}
    {attempt : Attempt}
    (prescribed : Prescribed setup s r g w step attempt.call)
    (unhanded : attempt.call.document? = none) :
    (g.add attempt).Bare := by
  rcases attempt with ⟨call, outcome⟩
  cases prescribed with
  | checkSigner | checkProofSigner =>
      exact ⟨bare.signatures, bare.validations, bare.proofs⟩
  | proveSignature validates | proveCertificate validates =>
      -- A proof takes a validation, which takes a document.
      rw [bare.validations] at validates
      cases validates
  | _ =>
      cases unhanded

theorem bare_add_decode
    {g : Gathered}
    (bare : g.Bare)
    (outcome : Outcome (Call.decode document).Answer) :
    (g.add ⟨.decode document, outcome⟩).Bare := by
  cases outcome <;> exact ⟨bare.signatures, bare.validations, bare.proofs⟩

/-- As long as no document was handed over, the engine has made none itself. -/
theorem bare_of_unhanded
    {earlier later : List Attempt}
    (split :
      engine.transcript history ((w.program setup r).runOn s engine history).calls =
        earlier ++ later)
    (unhanded : ∀ attempt ∈ earlier, attempt.call.document? = none) :
    (gathered earlier).Bare := by
  induction earlier using List.reverseRecOn generalizing later with
  | nil =>
      exact ⟨rfl, rfl, rfl⟩
  | append_singleton before attempt inductionHypothesis =>
      rw [List.append_assoc] at split
      have bare : (gathered before).Bare :=
        inductionHypothesis split fun other member =>
          unhanded other (List.mem_append_left _ member)
      have unhandedHere : attempt.call.document? = none :=
        unhanded attempt (List.mem_append_right _ List.mem_cons_self)
      rw [gathered_append]
      rcases (program_follows setup s w r).calls engine history split with
        ⟨bytes, _, decodes⟩ | ⟨step, _, prescribed⟩
      · rcases attempt with ⟨call, outcome⟩
        subst decodes
        exact bare_add_decode bare outcome
      · exact prescribed.bare_add bare unhandedHere

/-- A plan that signs hands over the text to sign. -/
theorem handsOver_of_sign_mem
    {profile : Profile}
    (planned : .sign profile ∈ w.plan) :
    w.handsOver document = .text (textToSign document) := by
  cases w with
  | sign | signWithProof =>
      rfl
  | _ =>
      simp [plan] at planned

theorem handsOver_of_validateCertificate_mem
    (planned : .validateCertificate ∈ w.plan) :
    w.handsOver document =
      if Text.isBinary document then .binary document
      else .text (String.ofList (Charset.decode document)) := by
  cases w with
  | validateCertificate | validateCertificateWithProof =>
      rfl
  | _ =>
      simp [plan] at planned

/-- A document that is prescribed before the engine has made any is that of the request. -/
theorem Prescribed.handed_eq
    {g : Gathered}
    (bare : g.Bare)
    (given : r.document = some document)
    (decoded : ∀ text ∈ g.texts, text = String.ofList (Charset.decode document))
    {step : Step}
    (planned : step ∈ w.plan)
    {call : Call}
    (prescribed : Prescribed setup s r g w step call)
    (hands : call.document? = some handed) :
    handed = w.handsOver document := by
  have decodedText {text : String} (decodes : g.texts = [text]) :
      text = String.ofList (Charset.decode document) :=
    decoded text (decodes ▸ List.mem_cons_self)
  cases prescribed with
  | sign givenHere =>
      rw [given] at givenHere
      cases givenHere
      cases hands
      exact (handsOver_of_sign_mem planned).symm
  | validateSigned signs =>
      rw [bare.signatures] at signs
      cases signs
  | validate validating decodes =>
      cases hands
      rw [decodedText decodes]
      rcases validating with rfl | rfl <;> rfl
  | validateBinary givenHere binary =>
      rw [given] at givenHere
      cases givenHere
      cases hands
      rw [handsOver_of_validateCertificate_mem planned, if_pos binary]
  | validateText givenHere textual decodes =>
      rw [given] at givenHere
      cases givenHere
      cases hands
      rw [decodedText decodes, handsOver_of_validateCertificate_mem planned,
        if_neg (Bool.eq_false_iff.mp textual)]
  | signProof proves =>
      rw [bare.proofs] at proves
      cases proves
  | _ =>
      cases hands

/-- The first document of a run is what the workflow makes of that of the request. -/
theorem firstDocument?_eq
    (detects : engine.DetectsByDefault)
    (given : r.document = some document)
    (first : ((w.program setup r).runOn s engine history).firstDocument? = some handed) :
    handed = w.handsOver document := by
  let run := (w.program setup r).runOn s engine history
  have listed : (engine.transcript history run.calls).findSome? (·.call.document?) =
      some handed := by
    rw [← first, Run.firstDocument?, ← engine.map_call_transcript history run.calls,
      List.findSome?_map, engine.map_call_transcript]
    rfl
  obtain ⟨earlier, attempt, later, split, hands, unhanded⟩ :=
    List.findSome?_eq_some_iff.mp listed
  have bare : (gathered earlier).Bare :=
    bare_of_unhanded split unhanded
  rcases (program_follows setup s w r).calls engine history split with
    ⟨bytes, _, decodes⟩ | ⟨step, planned, prescribed⟩
  · rw [decodes] at hands
    cases hands
  · exact prescribed.handed_eq bare given
      (fun _ member => eq_decode_of_mem_texts detects given split.symm member)
      (List.mem_of_getElem? planned) hands

/-! ## Whether a document reaches the engine -/

/-- A run whose one attempt was the check of the certificate that signs, and was stopped by it. -/
def StopsAtSigner (s : Snapshot) (r : Request) (attempts : List Attempt) : Prop :=
  ∃ entry attempt,
    signer? s r = some entry ∧ attempt.call = .checkCertificate entry.parameters ∧
      ¬ attempt.Succeeded ∧ attempts = [attempt]

/--
The first document of a run is that of the first attempt with one, whatever the engine answered.
-/
theorem firstDocument?_eq_attempts
    {α : Type}
    (run : Run α)
    (engine : Engine)
    (history : List Call) :
    run.firstDocument? =
      (engine.attempts history run.calls).findSome? (·.call.document?) := by
  have onlyCryptographic :
      (fun call : Call => if call.isCryptographic then call.document? else none) =
        Call.document? := by
    funext call
    cases call <;> rfl
  calc
    run.firstDocument? = (run.calls.filter (·.isCryptographic)).findSome? Call.document? := by
      rw [← List.head?_filterMap, List.filterMap_filter, onlyCryptographic, List.head?_filterMap,
        Run.firstDocument?]
    _ = (engine.attempts history run.calls).findSome? (·.call.document?) := by
      rw [← engine.map_call_attempts history, List.findSome?_map]
      rfl

/-- A plan starts with a step for the document, or with the check of who signs it. -/
theorem plan_starts
    (w : Workflow) :
    (w.signs = true ∧ ∃ profile rest, w.plan = .checkSigner :: .sign profile :: rest) ∨
      ∃ step rest, w.plan = step :: rest ∧ step.takesDocument = true := by
  cases w with
  | sign profile | signWithProof profile =>
      exact .inl ⟨rfl, profile, _, rfl⟩
  | _ =>
      exact .inr ⟨_, _, rfl, rfl⟩

/-- A call carries a document exactly if its step takes one. -/
theorem Admits.isSome_document?
    {step : Step}
    {call : Call}
    (admits : w.Admits s r step call) :
    call.document?.isSome = step.takesDocument := by
  cases admits <;> rfl

/-- Checking a signer means checking the certificate of the entry its id leads to. -/
theorem Admits.checkSigner_inv
    {call : Call}
    (admits : w.Admits s r .checkSigner call) :
    ∃ entry, signer? s r = some entry ∧ call = .checkCertificate entry.parameters := by
  cases admits with
  | checkSigner found =>
      exact ⟨_, found, rfl⟩

/-- A course that starts with a step for the document hands one over. -/
theorem exists_document_of_course
    {step : Step}
    {rest : List Step}
    {attempts : List Attempt}
    {ending : Ending WorkflowReport}
    (course : Course (w.Admits s r) (step :: rest) attempts ending)
    (takes : step.takesDocument = true) :
    ∃ handed, attempts.findSome? (·.call.document?) = some handed := by
  cases course with
  | stopped _ admitted _ | onward admitted _ _ =>
      rw [← admitted.isSome_document?, Option.isSome_iff_exists] at takes
      obtain ⟨handed, isHanded⟩ := takes
      exact ⟨handed, by rw [List.findSome?_cons, isHanded]⟩

/--
No document reaches the engine exactly if the checks refuse the request, or if a certificate
is to sign and its check stops the run.
-/
theorem firstDocument?_eq_none_iff
    (detects : engine.DetectsByDefault) :
    let run := (w.program setup r).runOn s engine history
    run.firstDocument? = none ↔
      ¬ w.Passes setup s r ∨
        w.signs = true ∧ StopsAtSigner s r (engine.attempts history run.calls) := by
  intro run
  constructor
  · intro unhanded
    rcases run_refused_or_course detects history setup s w r with
      ⟨rejection, refuses, _⟩ | ⟨_, course⟩
    · refine .inl fun passes => ?_
      rw [refusal?_eq_none_iff.mpr passes] at refuses
      cases refuses
    · rw [firstDocument?_eq_attempts run engine history] at unhanded
      rcases w.plan_starts with ⟨signs, profile, rest, planned⟩ | ⟨step, rest, planned, takes⟩
      · rw [planned] at course
        generalize engine.attempts history run.calls = attempts at course unhanded ⊢
        cases course with
        | stopped _ admitted stops =>
            obtain ⟨entry, found, checks⟩ := admitted.checkSigner_inv
            refine .inr ⟨signs, entry, _, found, checks, fun succeeded => ?_, rfl⟩
            rw [Attempt.stop?_eq_none_iff _ |>.mpr succeeded] at stops
            cases stops
        | onward admitted _ course =>
            obtain ⟨entry, _, checks⟩ := admitted.checkSigner_inv
            obtain ⟨handed, isHanded⟩ := exists_document_of_course course rfl
            rw [List.findSome?_cons, checks] at unhanded
            cases unhanded.symm.trans isHanded
      · rw [planned] at course
        obtain ⟨handed, isHanded⟩ := exists_document_of_course course takes
        cases unhanded.symm.trans isHanded
  · rintro (refused | ⟨_, entry, attempt, _, checks, _, only⟩)
    · cases refuses : refusal? setup s w r with
      | none =>
          exact (refused (refusal?_eq_none_iff.mp refuses)).elim
      | some rejection =>
          have uncalled : run.calls = [] := (run_of_refusal? refuses engine history).1
          rw [Run.firstDocument?, uncalled]
          rfl
    · rw [firstDocument?_eq_attempts run engine history, only, List.findSome?_cons, checks]
      rfl

/-- The document that a workflow hands to the engine first, and when it does. -/
structure HandsFirst
    (setup : Setup)
    (s : Snapshot)
    (w : Workflow)
    (r : Request)
    (engine : Engine)
    (history : List Call)
    (document : CertificateDocument) : Prop where
  /-- No other document comes first. -/
  only :
    ∀ other, ((w.program setup r).runOn s engine history).firstDocument? = some other →
      other = document
  /-- None does only if a check refuses the request or the certificate that would sign. -/
  none_iff :
    let run := (w.program setup r).runOn s engine history
    run.firstDocument? = none ↔
      ¬ w.Passes setup s r ∨
        w.signs = true ∧ StopsAtSigner s r (engine.attempts history run.calls)

/-- Every workflow first hands over what it makes of the document of the request. -/
theorem handsFirst
    (detects : engine.DetectsByDefault)
    (given : r.document = some document) :
    w.HandsFirst setup s r engine history (w.handsOver document) where
  only _ first := firstDocument?_eq detects given first
  none_iff := firstDocument?_eq_none_iff detects

/-- All workflows make the same of UTF-8 without a mark, but for binary certificates. -/
theorem handsOver_encodeUtf8
    {cs : List Char}
    (unmarked : ¬ Text.byteOrderMark <+: Text.encodeUtf8 cs)
    (textual :
      Text.isBinary (Text.encodeUtf8 cs) = true →
        w ≠ .validateCertificate ∧ w ≠ .validateCertificateWithProof) :
    w.handsOver (Text.encodeUtf8 cs) = .text (String.ofList cs) := by
  have decoded : Charset.decode (Text.encodeUtf8 cs) = cs := by
    rw [Charset.decode, Text.dropByteOrderMark_of_unmarked unmarked, Text.decodeUtf8?_encodeUtf8]
    rfl
  cases w with
  | sign profile | signWithProof profile =>
      rw [handsOver, textToSign, Text.decodeLossy_encodeUtf8]
  | validate profile | validateWithProof profile =>
      rw [handsOver, decoded]
  | validateCertificate =>
      rw [handsOver, decoded, if_neg fun binary => (textual binary).1 rfl]
  | validateCertificateWithProof =>
      rw [handsOver, decoded, if_neg fun binary => (textual binary).2 rfl]

end Workflow

namespace Charset

/-- How the default detector decodes a document, and what that has in common with signing. -/
structure Faithful (document body : List UInt8) : Prop where
  /-- The body of a document is what follows its byte order mark, if it has one. -/
  isBody :
    Text.byteOrderMark ++ body = document ∨ ¬ Text.byteOrderMark <+: document ∧ body = document
  /-- The detector succeeds on every document, and nothing of the body is lost. -/
  answers :
    ∃ text, (reply document).outcome = .answered text ∧
      (Text.WellFormed body → Text.encodeUtf8 text.toList = body) ∧
      (¬ Text.WellFormed body → text.toList.map Char.toNat = body.map UInt8.toNat)
  /-- If the document is well-formed without a mark, all workflows hand over the same text. -/
  agrees :
    Text.WellFormed document → ¬ Text.byteOrderMark <+: document →
      ∃ text : String, Text.encodeUtf8 text.toList = document ∧
        ∀ (engine : Engine) (history : List Call) (setup : Setup) (s : Snapshot)
          (w : Workflow) (r : Request),
          engine.DetectsByDefault → r.document = some document →
            (Text.isBinary document = true →
              w ≠ .validateCertificate ∧ w ≠ .validateCertificateWithProof) →
            w.HandsFirst setup s r engine history (.text text)

/--
Every document is decoded, as UTF-8 exactly if its body is well-formed, and all workflows
hand over a text that is given in well-formed UTF-8 without a mark as it is.
-/
theorem faithful
    (document : List UInt8) :
    Faithful document (Text.dropByteOrderMark document) where
  isBody := Text.dropByteOrderMark_spec document
  answers := by
    refine ⟨String.ofList (decode document), rfl, ?_, ?_⟩
    · rintro ⟨cs, written⟩
      rw [String.toList_ofList, decode, ← written, Text.decodeUtf8?_encodeUtf8, Option.getD_some]
    · intro illFormed
      rw [String.toList_ofList, decode, Text.decodeUtf8?_eq_none_iff.mpr illFormed,
        Option.getD_none, Text.map_toNat_decodeLatin1]
  agrees := by
    rintro ⟨cs, rfl⟩ unmarked
    refine ⟨String.ofList cs, by rw [String.toList_ofList], ?_⟩
    intro engine history setup s w r detects given textual
    rw [← Workflow.handsOver_encodeUtf8 unmarked textual]
    exact Workflow.handsFirst detects given

/-- A text that is not ASCII reaches the engine as it is in each of the workflows. -/
example :
    let r := { Rehearsal.request with document := some [0x20, 0xC3, 0xA9] }
    ∀ w ∈ Workflow.all,
      ((w.program Rehearsal.setup r).runOn Rehearsal.snapshot Script.smooth.engine
          []).firstDocument? =
        some (.text " é") := by
  decide +kernel

end Charset

end Notary
