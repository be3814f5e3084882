import Notary.Http.Exchange
import Notary.Proofs.Workflow.Outcome
import Notary.Proofs.Workflow.Shown

namespace Notary

/-!
# How requests for workflows are answered

Whatever is sent to the route of a workflow, the answer is the whole report of a run that
finished, or a bare status that says how it went. A form that cannot be read whole decides
before anything else: what was read of it has no influence, nor has the store or the
engine. A server error is left to the engine.
-/

/-- A call that could not be processed, or a check of a certificate that answers a server error. -/
def Attempt.BreaksDown (attempt : Attempt) : Prop :=
  (∃ failure, attempt.outcome = .failed failure ∧ failure.kind = .processing) ∨
    ∃ parameters,
      attempt =
        ⟨.checkCertificate parameters, .answered (CertificateStatus.reject .internalServerError)⟩

/-- An attempt that stops a run with an internal error has broken down. -/
theorem Attempt.breaksDown_of_stop?
    {α : Type}
    {attempt : Attempt}
    (stops : attempt.stop? = some (Ending.rejected .internalServerError : Ending α)) :
    attempt.BreaksDown := by
  rcases attempt with ⟨call, answer | failure | _⟩
  · cases call with
    | checkCertificate parameters =>
        cases answer with
        | proceed =>
            cases stops
        | reject rejection =>
            cases stops
            exact .inr ⟨parameters, rfl⟩
    | _ =>
        cases stops
  · refine .inl ⟨failure, rfl, ?_⟩
    rw [stop?_failed] at stops
    obtain ⟨kind, cause, deeper⟩ := failure
    cases kind with
    | processing =>
        rfl
    | _ =>
        cases stops
  · rw [stop?_crashed] at stops
    cases stops

/-- A run that ends as an internal error has a call that broke down. -/
theorem Workflow.exists_breaksDown
    {engine : Engine}
    (detects : engine.DetectsByDefault)
    (history : List Call)
    {setup : Setup}
    {s : Config.Snapshot}
    {w : Workflow}
    {r : Request}
    (ends :
      ((w.program setup r).runOn s engine history).ending = .rejected .internalServerError) :
    ∃ attempt ∈ engine.attempts history ((w.program setup r).runOn s engine history).calls,
      attempt.BreaksDown := by
  rcases run_refused_or_course detects history setup s w r with
    ⟨rejection, refuses, atOnce⟩ | ⟨_, course⟩
  · have isCheck := mem_checkRejections refuses
    rw [atOnce.2] at ends
    cases ends
    exact absurd isCheck (by decide)
  · have unfinished : ∀ report, ((w.program setup r).runOn s engine history).ending ≠
        .finished report := by
      rw [ends]
      nofun
    obtain ⟨last, isLast, stops⟩ := course.stopped_by_last unfinished
    rw [ends] at stops
    exact ⟨last, List.mem_of_getLast? isLast, Attempt.breaksDown_of_stop? stops⟩

namespace Http

/-- Each workflow has a path of its own, which leads to it. -/
theorem Message.route_of_workflow
    {m : Message}
    {w : Workflow}
    (posted : m.method = "POST")
    (addressed : m.path = w.path) :
    m.route = .resource (.workflow w) := by
  have known : Resource.atPath? w.path = some (.workflow w) := by
    rcases w with profile | profile | profile | profile | _ | _
    · cases profile <;> decide +kernel
    · cases profile <;> decide +kernel
    · cases profile <;> decide +kernel
    · cases profile <;> decide +kernel
    · decide +kernel
    · decide +kernel
  rw [route, addressed, known]
  simp [posted, Resource.methods]

/-- The parts of the form in a message; nothing if the message names no boundary. -/
def formParts? (bodyLimit : Nat) (m : Message) : Option Parts :=
  (((m.headerText? "content-type").bind MediaType.parse?).bind MediaType.formBoundary?).map
    fun boundary => partsWithin bodyLimit boundary m.body

/-- The request that parts stand for. -/
def requestOf (m : Message) (parts : List Part) : Request :=
  (putParts { Request.empty with accept := m.headerText? "accept" } parts).1

/-- The form of a message is read to its end. -/
def FormReads (bodyLimit : Nat) (m : Message) (parts : List Part) : Prop :=
  formParts? bodyLimit m = some ⟨parts, true⟩

/-- A form that is read to its end is the request of its parts. -/
theorem readForm_of_reads
    {bodyLimit : Nat}
    {m : Message}
    {parts : List Part}
    (reads : FormReads bodyLimit m parts) :
    (readForm bodyLimit m).request = some (requestOf m parts) := by
  obtain ⟨boundary, found, whole⟩ := Option.map_eq_some_iff.mp reads
  simp only [readForm, found, whole, ↓reduceIte]
  rfl

/-- A form that breaks off is no request, whatever was read of it. -/
theorem readForm_of_not_reads
    {bodyLimit : Nat}
    {m : Message}
    (breaks : ∀ parts, ¬ FormReads bodyLimit m parts) :
    (readForm bodyLimit m).request = none := by
  unfold readForm
  split
  · rfl
  · rename_i boundary found
    have incomplete : (partsWithin bodyLimit boundary m.body).complete = false := by
      cases whole : (partsWithin bodyLimit boundary m.body).complete with
      | true =>
          refine (breaks (partsWithin bodyLimit boundary m.body).read ?_).elim
          rw [FormReads, formParts?, found, Option.map_some, ← whole]
      | false =>
          rfl
    simp only [incomplete, Bool.false_eq_true, ↓reduceIte]

/--
Whether a response answers a run by how that ended: with its whole report, which can be read
back from the body, or with the status of its rejection alone.
-/
def Response.Answers (response : Response) : Ending WorkflowReport → Prop
  | .finished report =>
      ∃ body, response = ⟨200, body, some "application/json", none⟩ ∧ report.WrittenIn body ∧
        (report.Named → WorkflowReport.ofText? body = some report)
  | .rejected .badRequest => response = ⟨400, "", none, none⟩
  | .rejected .unauthorized => response = ⟨401, "", none, none⟩
  | .rejected .notFound => response = ⟨404, "", none, none⟩
  | .rejected .notImplemented => response = ⟨501, "", none, none⟩
  | .rejected .serviceUnavailable => response = ⟨503, "", none, none⟩
  | .rejected .internalServerError | .crashed => response = ⟨500, "", none, none⟩

/-- The response to a request that was run. -/
def responseTo : Ending WorkflowReport → Response
  | .finished report => .json report.text
  | .rejected rejection => .bare rejection.status
  | .crashed => .bare 500

/-- The statuses of requests for workflows that do not succeed. -/
def faultStatuses : List Nat :=
  [400, 401, 404, 500, 501, 503]

section Answers

variable
    {g : Gateway}
    {salt : List UInt8}
    {madeUpId : String}
    {w : Workflow}
    {m : Message}
    {parts : List Part}

/-- The answer to a message for a workflow is what handling it comes to. -/
theorem answer_of_workflow
    (posted : m.method = "POST")
    (addressed : m.path = w.path) :
    let span : Journal.RequestSpan := ⟨m.method, m.path, m.requestId madeUpId⟩
    let handling := handleWorkflow g w span m
    answer g salt madeUpId m =
      ⟨respond false handling.outcome, handling.calls,
        handling.log ++
          Journal.entries (some span) (handledNotes w.name (statusOf handling.outcome))⟩ := by
  have notHead : decide (m.method = "HEAD") = false := by
    rw [posted]
    decide
  simp only [answer, Message.route_of_workflow posted addressed, notHead]
  rfl

/-- A form that breaks off is turned down before store and engine are asked. -/
theorem handleWorkflow_of_not_reads
    (breaks : ∀ parts, ¬ FormReads g.bodyLimit m parts)
    (span : Journal.RequestSpan) :
    handleWorkflow g w span m =
      (Handling.refused span []).after
        (Journal.entries (some span)
          (.event (.requestReceived span.requestId w.name) ::
            (readForm g.bodyLimit m).notes)) := by
  rw [handleWorkflow, readForm_of_not_reads breaks]

/-- Any other form is run, on what its parts stand for. -/
theorem handleWorkflow_of_reads
    (reads : FormReads g.bodyLimit m parts)
    (span : Journal.RequestSpan) :
    handleWorkflow g w span m =
      (Handling.ofRun span WorkflowReport.text (g.run w (requestOf m parts))).after
        (Journal.entries (some span)
          (.event (.requestReceived span.requestId w.name) ::
            (readForm g.bodyLimit m).notes)) := by
  rw [handleWorkflow, readForm_of_reads reads]

/-- How a run ends decides the response, and its calls are the ones that were made. -/
theorem respond_ofRun
    (span : Journal.RequestSpan)
    (run : Run WorkflowReport) :
    respond false (Handling.ofRun span WorkflowReport.text run).outcome =
        responseTo run.ending ∧
      (Handling.ofRun span WorkflowReport.text run).calls = run.calls := by
  unfold Handling.ofRun
  cases run.ending <;> exact ⟨rfl, rfl⟩

/-- A form that breaks off is a bad request. -/
theorem answer_of_not_reads
    (posted : m.method = "POST")
    (addressed : m.path = w.path)
    (breaks : ∀ parts, ¬ FormReads g.bodyLimit m parts) :
    (answer g salt madeUpId m).response = .bare 400 ∧ (answer g salt madeUpId m).calls = [] := by
  rw [answer_of_workflow posted addressed, handleWorkflow_of_not_reads breaks]
  exact ⟨rfl, rfl⟩

/-- What becomes of a form that breaks off does not depend on store and engine. -/
theorem answer_eq_of_not_reads
    (posted : m.method = "POST")
    (addressed : m.path = w.path)
    (breaks : ∀ parts, ¬ FormReads g.bodyLimit m parts)
    (store : Config.Store)
    (attached : Option Engine) :
    answer { g with store, attached } salt madeUpId m = answer g salt madeUpId m := by
  have breaksThere : ∀ parts, ¬ FormReads { g with store, attached }.bodyLimit m parts :=
    breaks
  rw [answer_of_workflow posted addressed, answer_of_workflow posted addressed,
    handleWorkflow_of_not_reads breaks, handleWorkflow_of_not_reads breaksThere]

/-- A form that is read whole is answered by how the run of its request ends. -/
theorem answer_of_reads
    (posted : m.method = "POST")
    (addressed : m.path = w.path)
    (reads : FormReads g.bodyLimit m parts) :
    (answer g salt madeUpId m).response = responseTo (g.run w (requestOf m parts)).ending ∧
      (answer g salt madeUpId m).calls = (g.run w (requestOf m parts)).calls := by
  rw [answer_of_workflow posted addressed, handleWorkflow_of_reads reads]
  exact respond_ofRun _ _

end Answers

/-- The response to a run answers it. -/
theorem answers_responseTo
    (ending : Ending WorkflowReport) :
    (responseTo ending).Answers ending := by
  cases ending with
  | finished report =>
      exact ⟨report.text, rfl, report.writtenIn_text, WorkflowReport.ofText?_written⟩
  | rejected rejection =>
      cases rejection <;> rfl
  | crashed =>
      rfl

/-- An answer to a run that did not finish has one of a few statuses, and no body. -/
theorem Response.Answers.bare
    {response : Response}
    {ending : Ending WorkflowReport}
    (answers : response.Answers ending)
    (unfinished : ∀ report, ending ≠ .finished report) :
    ∃ status ∈ faultStatuses, response = ⟨status, "", none, none⟩ := by
  cases ending with
  | finished report =>
      exact absurd rfl (unfinished report)
  | rejected rejection =>
      cases rejection <;> exact ⟨_, by decide, answers⟩
  | crashed =>
      exact ⟨500, by decide, answers⟩

/-- The status of a server error is that of a crash or of one rejection. -/
theorem of_status_responseTo_eq_500
    {ending : Ending WorkflowReport}
    (failed : (responseTo ending).status = 500) :
    ending = .crashed ∨ ending = .rejected .internalServerError := by
  cases ending with
  | finished report =>
      cases failed
  | rejected rejection =>
      cases rejection with
      | internalServerError =>
          exact .inr rfl
      | _ =>
          cases failed
  | crashed =>
      exact .inl rfl

/-- How a message to the route of a workflow is answered. -/
structure Classified
    (g : Gateway)
    (salt : List UInt8)
    (madeUpId : String)
    (w : Workflow)
    (m : Message) : Prop where
  /-- A form that breaks off is a bad request, whatever was read of it. -/
  unreadable :
    (∀ parts, ¬ FormReads g.bodyLimit m parts) →
      (answer g salt madeUpId m).response = ⟨400, "", none, none⟩ ∧
        (answer g salt madeUpId m).calls = []
  /-- It is so with any store and any engine. -/
  untouched :
    (∀ parts, ¬ FormReads g.bodyLimit m parts) →
      ∀ store attached,
        answer { g with store, attached } salt madeUpId m = answer g salt madeUpId m
  /-- Any other form is answered as the run of its request ends. -/
  readable :
    ∀ parts, FormReads g.bodyLimit m parts →
      (answer g salt madeUpId m).response.Answers (g.run w (requestOf m parts)).ending ∧
        (answer g salt madeUpId m).calls = (g.run w (requestOf m parts)).calls
  /-- There is the whole report of a run that finished, or a status without a body. -/
  total :
    (∃ parts report,
        FormReads g.bodyLimit m parts ∧
          (g.run w (requestOf m parts)).ending = .finished report ∧
            (answer g salt madeUpId m).response.Answers (.finished report)) ∨
      ∃ status ∈ [400, 401, 404, 500, 501, 503],
        (answer g salt madeUpId m).response = ⟨status, "", none, none⟩
  /-- An internal error means that the engine crashed or that a call of it broke down. -/
  serverError :
    g.engine.DetectsByDefault →
      (answer g salt madeUpId m).response.status = 500 →
        ∃ parts, FormReads g.bodyLimit m parts ∧
          ((g.run w (requestOf m parts)).ending = .crashed ∨
            ∃ attempt ∈ g.engine.attempts [] (answer g salt madeUpId m).calls,
              attempt.BreaksDown)

/--
Every message that is posted to the route of a workflow is answered with a whole report or
with a bare status, with any headers and any body, any store and any engine.
-/
theorem answer_classified
    {m : Message}
    {w : Workflow}
    (posted : m.method = "POST")
    (addressed : m.path = w.path)
    (g : Gateway)
    (salt : List UInt8)
    (madeUpId : String) :
    Classified g salt madeUpId w m := by
  constructor
  case unreadable =>
    exact answer_of_not_reads posted addressed
  case untouched =>
    exact answer_eq_of_not_reads posted addressed
  case readable =>
    intro parts reads
    obtain ⟨response, calls⟩ := answer_of_reads posted addressed reads
    exact ⟨response ▸ answers_responseTo _, calls⟩
  case total =>
    by_cases whole : ∃ parts, FormReads g.bodyLimit m parts
    · obtain ⟨parts, reads⟩ := whole
      have answers := answers_responseTo (g.run w (requestOf m parts)).ending
      rw [← (answer_of_reads posted addressed reads).1] at answers
      by_cases finishes : ∃ report, (g.run w (requestOf m parts)).ending = .finished report
      · obtain ⟨report, finished⟩ := finishes
        exact .inl ⟨parts, report, reads, finished, finished ▸ answers⟩
      · exact .inr (answers.bare (not_exists.mp finishes))
    · rw [(answer_of_not_reads posted addressed (not_exists.mp whole)).1]
      exact .inr ⟨400, by decide, rfl⟩
  case serverError =>
    intro detects failed
    by_cases whole : ∃ parts, FormReads g.bodyLimit m parts
    · obtain ⟨parts, reads⟩ := whole
      obtain ⟨response, calls⟩ := answer_of_reads posted addressed reads
      rw [response] at failed
      rw [calls]
      rcases of_status_responseTo_eq_500 failed with crashed | broken
      · exact ⟨parts, reads, .inl crashed⟩
      · exact ⟨parts, reads, .inr (Workflow.exists_breaksDown detects [] broken)⟩
    · rw [(answer_of_not_reads posted addressed (not_exists.mp whole)).1] at failed
      cases failed

/-- A form that breaks off in its second part, after one that names no configuration. -/
def truncated : Message :=
  { method := "POST"
    target := "/signatures/xmldsig?retry=1"
    headers :=
      [⟨"Accept", Text.encodeUtf8 "text/html".toList⟩,
        ⟨"Content-Type", Text.encodeUtf8 "multipart/form-data; boundary=b".toList⟩]
    body :=
      Text.encodeUtf8
        ("--b\r\nContent-Disposition: form-data; name=\"idSignConf\"\r\n\r\nabsent\r\n" ++
          "--b\r\nContent-Disposition: form-data; name=\"file\"\r\n\r\n<d/>").toList }

/-- A gateway whose store is empty and whose engine crashes. -/
def crashing : Gateway where
  setup := Rehearsal.setup
  store := .ofSnapshot "conf.json" .empty
  attached := some (Script.engine { Script.smooth with rules := [⟨"", .crash⟩] })
  bodyLimit := 1000

/-- A form with all that signing asks for, the document before the name of its configuration. -/
def complete : Message :=
  { truncated with
    headers :=
      [⟨"Accept", Text.encodeUtf8 "application/json".toList⟩,
        ⟨"Content-Type", Text.encodeUtf8 "multipart/form-data; boundary=b".toList⟩]
    body :=
      Text.encodeUtf8
        ("--b\r\nContent-Disposition: form-data; name=\"file\"\r\n\r\n<d/>\r\n" ++
          "--b\r\nContent-Disposition: form-data; name=\"idSignConf\"\r\n\r\n1\r\n" ++
            "--b--\r\n").toList }

/-- A gateway that knows the configurations of a rehearsal, and with which all goes well. -/
def working : Gateway where
  setup := Rehearsal.setup
  store := .ofSnapshot "conf.json" Rehearsal.snapshot
  attached := some Script.smooth.engine
  bodyLimit := 1000

/-- The parts of the form. -/
def completeParts : List Part :=
  [⟨some "file", none, Text.encodeUtf8 "<d/>".toList⟩,
    ⟨some "idSignConf", none, Text.encodeUtf8 "1".toList⟩]

/-- What becomes of one form that breaks off, and of one that is read whole and signed. -/
theorem answer_classified_truncated_or_complete :
    (truncated.method = "POST" ∧ truncated.path = (Workflow.sign .xmldsig).path ∧
      Classified crashing [] "id" (.sign .xmldsig) truncated ∧
      (answer crashing [] "id" truncated).response = ⟨400, "", none, none⟩) ∧
    (complete.method = "POST" ∧ complete.path = (Workflow.sign .xmldsig).path ∧
      Classified working [] "id" (.sign .xmldsig) complete ∧
      (answer working [] "id" complete).response.status = 200 ∧
      WorkflowReport.ofText? (answer working [] "id" complete).response.body =
        some (.signature ⟨"<dsig><d/></dsig>", []⟩)) := by
  constructor
  · have posted : truncated.method = "POST" := rfl
    have addressed : truncated.path = (Workflow.sign .xmldsig).path := by
      decide +kernel
    have classified := answer_classified posted addressed crashing [] "id"
    exact ⟨posted, addressed, classified, by decide +kernel⟩
  · have posted : complete.method = "POST" := rfl
    have addressed : complete.path = (Workflow.sign .xmldsig).path := by
      decide +kernel
    have reads : FormReads working.bodyLimit complete completeParts := by
      unfold FormReads
      decide +kernel
    have finishes :
        (working.run (.sign .xmldsig) (requestOf complete completeParts)).ending =
          .finished (.signature ⟨"<dsig><d/></dsig>", []⟩) := by
      decide +kernel
    have classified := answer_classified posted addressed working [] "id"
    have answers := (classified.readable completeParts reads).1
    rw [finishes] at answers
    obtain ⟨body, response, -, readBack⟩ := answers
    refine ⟨posted, addressed, classified, ?_, ?_⟩
    · rw [response]
    · rw [response]
      exact readBack nofun

end Http

end Notary
