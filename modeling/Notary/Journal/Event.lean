import Notary.Config.Document
import Notary.Engine.Failure
import Notary.Json.Printer
import Notary.Version

namespace Notary.Journal

/-!
# Log events

Everything the gateway reports in its log, one constructor for each kind of
event. How an event is written follows from it: its level, the part of the
program it is filed under, its message and its fields.
-/

open Json (Value)

/-- How much an event matters. -/
inductive Level where
  | error
  | warn
  | info
  | debug
  | trace
deriving Repr, DecidableEq

namespace Level

/-- The name of a level in the log. -/
def name : Level → String
  | error => "ERROR"
  | warn => "WARN"
  | info => "INFO"
  | debug => "DEBUG"
  | trace => "TRACE"

/-- How much detail a level lets through; a filter at a level passes it and all lower ranks. -/
def rank : Level → Nat
  | error => 1
  | warn => 2
  | info => 3
  | debug => 4
  | trace => 5

end Level

/-- An event of the log. -/
inductive Event where
  /-- A configuration is refused because of this problem. -/
  | entryInvalid (problem : String)
  | configurationLoaded (path : String)
  | configurationReloaded (path : String)
  | reloadFailed (path error : String)
  | watchStarted (path : String)
  | watchStopped (path : String)
  | watchUnnamed (path : String)
  | watchRefused (path error : String)
  | watchFault (error : String)
  | watchClosed
  | changeSeen (path : String)
  /-- A stored hash of a configured secret cannot be read. -/
  | hashSkipped (error : String)
  | idMissing (kind : Config.Kind)
  | entryUnknown (kind : Config.Kind) (id : String)
  | acceptRefused (accept : Option String)
  | documentMissing
  | proofFieldsMissing
  | secretRefused (id : String)
  | certificateRefused (certificate : String) (rejection : Rejection)
  | workflowCompleted (workflow path : String)
  | fieldIgnored (field : String)
  /-- A call of the engine failed. -/
  | callFailed (failure : Failure)
  /-- A call is refused because no engine is attached. -/
  | callRefused (operation : String)
  | notUtf8
  | versionUnreadable (version : String)
  | requestReceived (requestId workflow : String)
  | notAForm (error : String)
  | formUnreadable (error : String)
  | secretUnreadable (error : String)
  | requestHandled (operation : String) (status : Nat)
  | taskFailed (error : String)
  | serverStarting
  | serverDraining
  | serverStopped
  | shutdownTriggered (subscribers : Nat)
  | interruptReceived
  | terminateReceived
  | starting (version : String)
  | configurationRefused (path error : String)
  | metricsAddressUnreadable (address error : String)
  | metricsListening
  | metricsRefused (error : String)
  | engineMissing
  | settingsLoaded (bindAddress : String) (timeout : Nat) (secretEnabled : Bool)
  | shutdownComplete
  | stoppedWithError (error : String)
deriving Repr, DecidableEq

/-- A text field. -/
def textField (name value : String) : String × Value :=
  (name, .string value)

/-- An optional text as a field shows it. -/
def showOption : Option String → String
  | some value => "Some(" ++ Text.quoted value ++ ")"
  | none => "None"

namespace Event

/-- The level of an event. -/
def level : Event → Level
  | entryInvalid _ | reloadFailed .. | watchUnnamed _ | watchRefused .. | entryUnknown ..
  | secretRefused _ | certificateRefused .. | callFailed _ | versionUnreadable _ | taskFailed _
  | configurationRefused .. | metricsAddressUnreadable .. | metricsRefused _
  | stoppedWithError _ => .error
  | watchFault _ | watchClosed | hashSkipped _ | idMissing _ | acceptRefused _ | documentMissing
  | proofFieldsMissing | callRefused _ | notAForm _ | formUnreadable _ | secretUnreadable _
  | engineMissing => .warn
  | fieldIgnored _ | notUtf8 | requestReceived .. => .debug
  | configurationLoaded _ | configurationReloaded _ | watchStarted _ | watchStopped _
  | changeSeen _ | workflowCompleted .. | requestHandled .. | serverStarting | serverDraining
  | serverStopped | shutdownTriggered _ | interruptReceived | terminateReceived | starting _
  | metricsListening | settingsLoaded .. | shutdownComplete => .info

/-- What the targets of all events start with. -/
def root : String := "sign_gateway"

/-- The part of the program that an event is filed under; empty for the root itself. -/
def part : Event → String
  | entryInvalid _ => "config::loader"
  | configurationLoaded _ | configurationReloaded _ | reloadFailed .. => "config::store"
  | watchStarted _ | watchStopped _ | watchUnnamed _ | watchRefused .. | watchFault _
  | watchClosed | changeSeen _ => "config::watcher"
  | hashSkipped _ => "security::secrets"
  | idMissing _ | entryUnknown .. | acceptRefused _ | documentMissing | proofFieldsMissing
  | secretRefused _ | certificateRefused .. => "orchestrator::guards"
  | workflowCompleted .. => "orchestrator"
  | fieldIgnored _ => "orchestrator::workflow"
  | callFailed _ => "classify::error"
  | callRefused _ => "capabilities::offline"
  | notUtf8 => "capabilities::charset"
  | versionUnreadable _ => "capabilities::types"
  | requestReceived .. | notAForm _ | secretUnreadable _ | taskFailed _ => "http::handlers"
  | formUnreadable _ => "http::request"
  | requestHandled .. => "http::response"
  | serverStarting | serverDraining | serverStopped => "http::server"
  | shutdownTriggered _ => "lifecycle::shutdown"
  | interruptReceived | terminateReceived => "lifecycle::signals"
  | starting _ | configurationRefused .. | metricsAddressUnreadable .. | engineMissing
  | settingsLoaded .. | shutdownComplete => "lifecycle::startup"
  | metricsListening | metricsRefused _ => "observability::metrics"
  | stoppedWithError _ => ""

/-- The target of an event. -/
def target (e : Event) : String :=
  if e.part.isEmpty then root else root ++ "::" ++ e.part

/-- The message of an event. -/
def message : Event → String
  | entryInvalid _ => "Invalid configuration entry"
  | configurationLoaded _ => "Configurations loaded"
  | configurationReloaded _ => "New configurations loaded"
  | reloadFailed .. =>
      "Could not load new configurations, will continue using current valid configurations"
  | watchStarted _ => "Config watcher started"
  | watchStopped _ => "Config watcher stopped"
  | watchUnnamed _ => "Configuration path has no file name, not watching"
  | watchRefused .. => "An error occurred while watching the configuration file"
  | watchFault _ => "Watch error"
  | watchClosed => "Config watch channel closed"
  | changeSeen _ => "Config file change detected, reloading"
  | hashSkipped _ => "Skipping unusable configured secret hash"
  | idMissing _ => "Configuration id missing from request"
  | entryUnknown .. => "Configuration not found"
  | acceptRefused _ => "Accept header does not allow JSON"
  | documentMissing => "Document missing from request"
  | proofFieldsMissing => "Proof parameters missing from request"
  | secretRefused _ => "Secret does not match signing configuration"
  | certificateRefused .. => "Signing certificate rejected"
  | workflowCompleted .. => "Workflow completed"
  | fieldIgnored _ => "Ignoring unknown form field"
  | callFailed _ => "Signing engine call failed"
  | callRefused _ => "Signing engine call refused, no engine attached"
  | notUtf8 => "Document is not UTF-8, decoding as ISO-8859-1"
  | versionUnreadable _ => "Unparsable build version, using default"
  | requestReceived .. => "Workflow request received"
  | notAForm _ => "Request is not a multipart form"
  | formUnreadable _ => "Unreadable multipart form"
  | secretUnreadable _ => "Unreadable secret body"
  | requestHandled .. => "Request handled"
  | taskFailed _ => "Workflow task failed"
  | serverStarting => "HTTP server starting"
  | serverDraining => "Shutdown signal received, draining"
  | serverStopped => "HTTP server stopped"
  | shutdownTriggered _ => "Shutdown triggered"
  | interruptReceived => "Received Ctrl+C"
  | terminateReceived => "Received SIGTERM"
  | starting _ => "sign-gateway starting"
  | configurationRefused .. => "Configuration is invalid, refusing to start"
  | metricsAddressUnreadable .. => "Failed to parse metrics address"
  | metricsListening => "Metrics endpoint listening"
  | metricsRefused _ => "Failed to install metrics exporter"
  | engineMissing => "No signing engine attached, signing and validation calls will answer 503"
  | settingsLoaded .. => "Settings loaded"
  | shutdownComplete => "Shutdown complete"
  | stoppedWithError _ => "sign-gateway stopped with an error"

/-- The fields of an event, sorted by name. -/
def fields : Event → List (String × Value)
  | entryInvalid problem => [textField "problem" problem]
  | configurationLoaded path | configurationReloaded path | watchStarted path
  | watchStopped path | watchUnnamed path | changeSeen path => [textField "path" path]
  | reloadFailed path error | watchRefused path error | configurationRefused path error =>
      [textField "error" error, textField "path" path]
  | hashSkipped error | watchFault error | notAForm error | formUnreadable error
  | secretUnreadable error | taskFailed error | metricsRefused error | stoppedWithError error =>
      [textField "error" error]
  | idMissing kind => [textField "kind" kind.name]
  | entryUnknown kind id => [textField "id" id, textField "kind" kind.name]
  | acceptRefused accept => [textField "accept" (showOption accept)]
  | secretRefused id => [textField "id" id]
  | certificateRefused certificate rejection =>
      [textField "certificate" certificate, textField "status" rejection.statusText]
  | workflowCompleted workflow path => [textField "path" path, textField "workflow" workflow]
  | fieldIgnored field => [textField "field" field]
  | callFailed failure =>
      [textField "error" failure.chain, textField "kind" failure.kind.label]
  | callRefused operation => [textField "operation" operation]
  | versionUnreadable version =>
      [textField "error" (Version.unreadable version), textField "version" version]
  | requestReceived requestId workflow =>
      [textField "request_id" requestId, textField "workflow" workflow]
  | requestHandled operation status =>
      [textField "operation" operation, ("status", .ofNat status)]
  | shutdownTriggered subscribers => [("subscribers", .ofNat subscribers)]
  | starting version => [textField "version" version]
  | metricsAddressUnreadable address error =>
      [textField "error" error, textField "metrics_address" address]
  | settingsLoaded bindAddress timeout secretEnabled =>
      [textField "bind_address" bindAddress, ("request_timeout_secs", .ofNat timeout),
        ("secret_enabled", .bool secretEnabled)]
  | watchClosed | documentMissing | proofFieldsMissing | notUtf8 | serverStarting
  | serverDraining | serverStopped | interruptReceived | terminateReceived | metricsListening
  | engineMissing | shutdownComplete => []

/-- Whether an event tells of a refusal or a failure. -/
def isAlarm (e : Event) : Bool :=
  match e.level with
  | .error | .warn => true
  | .info | .debug | .trace => false

end Event

/-- The request that an event belongs to. -/
structure RequestSpan where
  method : String
  path : String
  requestId : String
deriving Repr, DecidableEq

/-- The fields of a span, sorted by name. -/
def RequestSpan.fields (s : RequestSpan) : List (String × Value) :=
  [textField "method" s.method, textField "path" s.path, textField "request_id" s.requestId]

/-- A line of the log: an event, and the request it belongs to if it is known there. -/
structure Line where
  event : Event
  span : Option RequestSpan
deriving Repr, DecidableEq

/-- Fields as they stand on a line, each after a space. -/
def fieldsText (fields : List (String × Value)) : String :=
  String.join (fields.map fun (name, value) => " " ++ name ++ "=" ++ value.text)

/-- The text of a line. -/
def Line.text (l : Line) : String :=
  l.event.level.name ++ " " ++ l.event.target ++ " " ++ l.event.message ++
    fieldsText l.event.fields ++
    match l.span with
    | some span => " \x7brequest" ++ fieldsText span.fields ++ "\x7d"
    | none => ""

/-- A line as a JSON object. -/
def Line.object (l : Line) : Value :=
  let span (s : RequestSpan) : String × Value :=
    ("span", .object (s.fields ++ [textField "name" "request"]))
  .object
    ([textField "level" l.event.level.name,
        ("fields", .object (textField "message" l.event.message :: l.event.fields)),
        textField "target" l.event.target] ++
      (l.span.map span).toList)

end Notary.Journal
