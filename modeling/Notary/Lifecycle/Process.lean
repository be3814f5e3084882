import Notary.Journal.Filter
import Notary.Lifecycle.Startup

namespace Notary.Lifecycle

/-!
# The process

From the call to the exit status: the arguments become settings, the settings
start the gateway, and a signal ends it. Log events pass a filter, which the
environment may set.
-/

open CommandLine (Environment)
open Journal (Event Filter Note)

/-- The name of the program, in front of what it says before it has a log. -/
def programName : String := "sign-gateway"

/-- The variable that holds a log filter. -/
def filterVariable : String := "RUST_LOG"

/-- A filter, and what is said about its text. -/
structure FilterChoice where
  filter : Filter
  complaints : List String
deriving Repr, DecidableEq

/-- The filter of a process: that of its environment, or else the one of its settings. -/
def chooseFilter (e : Environment) (level : String) : FilterChoice :=
  match (e.get? filterVariable).bind Filter.parse? with
  | some filter => ⟨filter, []⟩
  | none =>
      let text := Filter.levelText level
      ⟨.ofText text, Filter.complaints text⟩

/-- How far a process comes by itself. -/
inductive Progress where
  /-- It ends with a status and what it says; the format is that of its log. -/
  | ended (status : Nat) (output errors : List String) (format : LogFormat)
      (events : List Event)
  /-- It serves requests until a signal comes. -/
  | serving (gateway : Gateway) (settings : Settings) (choice : FilterChoice)
      (events : List Event)

/-- Start a process whose settings are known. -/
def launch (around : Surroundings) (e : Environment) (s : Settings) : Progress :=
  let choice := chooseFilter e s.observability.logLevel
  let started := start around s
  let admitted (notes : List Note) : List Event :=
    (Journal.events notes).filter choice.filter.admits
  match started.outcome with
  | .ok gateway => .serving gateway s choice (admitted started.notes)
  | .error fault =>
      .ended 1 [] choice.complaints s.observability.logFormat
        (admitted (started.notes ++ [.event (.stoppedWithError fault.message)]))

/-- Start a process. -/
def begin (around : Surroundings) (e : Environment) (arguments : List String) : Progress :=
  let silent (status : Nat) (output errors : List String) : Progress :=
    .ended status output errors Settings.default.observability.logFormat []
  match CommandLine.readCall CommandLine.serverCommand e .start arguments with
  | .help => silent 0 (CommandLine.serverCommand.help e) []
  | .version text => silent 0 [text] []
  | .refused error => silent CommandLine.usageStatus [] [error.text]
  | .bare | .entered _ _ _ =>
      silent CommandLine.usageStatus [] (CommandLine.serverCommand.help e)
  | .accepted values _ =>
      match CommandLine.settingsOf around.files values with
      | .error fault => silent 1 [] [programName ++ ": " ++ fault.message]
      | .ok settings => launch around e settings

/-- What a process leaves behind. -/
structure Result where
  status : Nat
  output : List String
  errors : List String
  events : List Event
deriving Repr, DecidableEq

/-- Let a process run until it ends; if it serves requests, a signal ends it. -/
def runToEnd (around : Surroundings) (e : Environment) (arguments : List String)
    (signal : Signal) : Result :=
  match begin around e arguments with
  | .ended status output errors _ events => ⟨status, output, errors, events⟩
  | .serving _ _ choice events =>
      ⟨0, [], choice.complaints,
        events ++ (Journal.events (stopNotes signal)).filter choice.filter.admits⟩

end Notary.Lifecycle
