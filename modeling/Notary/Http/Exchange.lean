import Notary.Http.Form
import Notary.Http.Route
import Notary.Http.SecretBody
import Notary.Secret.Verify
import Notary.Service.Gateway

namespace Notary.Http

/-!
# Exchanges

A message is answered with a response. On the way the engine may be called, and
log events and counts are noted. Work on a request runs apart from the
request itself, so its events do not show which request they belong to.
-/

open Json (Value)
open Journal (Entry Note RequestSpan)

/-- The name of the header field that identifies a request. -/
def requestIdField : String := "x-request-id"

/-- The id of a request: its sender's, or the given one that was made up for it. -/
def Message.requestId (m : Message) (madeUp : String) : String :=
  match m.header? requestIdField with
  | some field => field.text?.getD "unknown"
  | none => madeUp

/-- What handling a request brings about: a body or a rejection, the engine calls and the log. -/
structure Handling where
  outcome : Except Rejection String
  calls : List Call
  log : List Entry

namespace Handling

/-- A request that is turned down before anything runs. -/
def refused (span : RequestSpan) (notes : List Note) : Handling :=
  ⟨.error .badRequest, [], Journal.entries (some span) notes⟩

/-- What the log says about work that was torn down. -/
def taskPanicked : String := "task panicked"

/-- The outcome of a run and what the request itself notes about it. -/
def ofRun {α : Type} (span : RequestSpan) (text : α → String) (r : Run α) : Handling :=
  let log := Journal.entries none r.notes
  match r.ending with
  | .finished value => ⟨.ok (text value), r.calls, log⟩
  | .rejected rejection => ⟨.error rejection, r.calls, log⟩
  | .crashed =>
      ⟨.error .internalServerError, r.calls,
        log ++ Journal.entries (some span) [.event (.taskFailed taskPanicked)]⟩

/-- Put entries in front. -/
def after (log : List Entry) (h : Handling) : Handling :=
  ⟨h.outcome, h.calls, log ++ h.log⟩

end Handling

/-- The counts of configured entries under the names that the status shows. -/
def statusMembers (g : Gateway) : List (String × Value) :=
  ("version", .string g.setup.version.text) ::
    Config.Kind.all.map fun kind => (kind.name, .ofNat (g.snapshot.document.count kind))

/-- Handle a request for a workflow. -/
def handleWorkflow (g : Gateway) (w : Workflow) (span : RequestSpan) (m : Message) : Handling :=
  let received : Note := .event (.requestReceived span.requestId w.name)
  let form := readForm g.bodyLimit m
  let before := Journal.entries (some span) (received :: form.notes)
  match form.request with
  | none => (Handling.refused span []).after before
  | some request => (Handling.ofRun span WorkflowReport.text (g.run w request)).after before

/-- Handle a request for the hash of a secret, with a salt to use. -/
def handleSecret (g : Gateway) (salt : List UInt8) (span : RequestSpan) (m : Message) : Handling :=
  match readSecret g.bodyLimit m with
  | .error fault => .refused span [.event (.secretUnreadable fault.text)]
  | .ok plain =>
      match Secret.hashSecret? salt plain with
      | none => .refused span []
      | some hash =>
          ⟨.ok (Value.object [("secureSecretHash", .string hash)]).text, [], []⟩

/-- Handle a request for a resource. -/
def handle (g : Gateway) (salt : List UInt8) (span : RequestSpan) (m : Message) :
    Resource → Handling
  | .authorities =>
      let text (authorities : List String) : String :=
        (Value.array (authorities.map .string)).text
      .ofRun span text (g.authorities (m.headerText? "accept"))
  | .secretHash => handleSecret g salt span m
  | .status => ⟨.ok (Value.object (statusMembers g)).text, [], []⟩
  | .workflow w => handleWorkflow g w span m

/-- A response with what led to it. -/
structure Exchange where
  response : Response
  calls : List Call
  log : List Entry

/-- The status of an outcome. -/
def statusOf : Except Rejection String → Nat
  | .ok _ => 200
  | .error rejection => rejection.status

/-- The response to an outcome; one without a body if only its head is wanted. -/
def respond (headOnly : Bool) : Except Rejection String → Response
  | .ok body => .json (if headOnly then "" else body)
  | .error rejection => .bare rejection.status

/-- What is noted about a request that has been handled. -/
def handledNotes (operation : String) (status : Nat) : List Note :=
  [.event (.requestHandled operation status), .count (.request operation status),
    .count (.duration operation)]

/-- Answer a message, with a salt to use and an id for it if it has none. -/
def answer (g : Gateway) (salt : List UInt8) (madeUpId : String) (m : Message) : Exchange :=
  match m.route with
  | .unknownPath => ⟨.bare 404, [], []⟩
  | .otherMethod allowed =>
      ⟨{ Response.bare 405 with allow := some (",".intercalate allowed) }, [], []⟩
  | .resource r =>
      let span : RequestSpan := ⟨m.method, m.path, m.requestId madeUpId⟩
      let handling := handle g salt span m r
      let status := statusOf handling.outcome
      ⟨respond (m.method = "HEAD") handling.outcome, handling.calls,
        handling.log ++ Journal.entries (some span) (handledNotes r.operation status)⟩

end Notary.Http
