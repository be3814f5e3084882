import Notary.CommandLine.Server
import Notary.Lifecycle.Metrics
import Notary.Lifecycle.Shutdown
import Notary.Lifecycle.Signal
import Notary.Net.Address
import Notary.Service.Gateway

namespace Notary.Lifecycle

/-!
# Startup

The gateway loads its configuration, starts what it needs and listens last. A
configuration that is refused and an address that cannot be taken end the start;
everything else is noted and passed over.
-/

open Journal (Note)

/-- What the process finds outside of itself. -/
structure Surroundings where
  /-- What is at a path. -/
  files : String → Config.File
  /-- The hosts of names. -/
  lookup : String → Option Net.Host
  /-- Whether an address is one that the process can listen at. -/
  own : Net.Address → Bool
  /-- Whether the process has a recorder of counts already. -/
  recorded : Bool

/-- Why the gateway does not start. -/
inductive StartFault where
  | configuration (fault : Config.LoadFault)
  | listener (fault : Net.ListenFault)
deriving Repr, DecidableEq

/-- The words for a start that failed. -/
def StartFault.message : StartFault → String
  | configuration fault => "Configuration error: " ++ fault.message
  | listener fault => "IO error: " ++ fault.text

/-- How a start ends, and what is noted on the way. -/
structure Start where
  outcome : Except StartFault Gateway
  notes : List Note

/-- What is noted about the metrics endpoint. -/
def metricsNotes (around : Surroundings) (o : Observability) : List Note :=
  if o.metricsEnabled then
    match Net.Address.parse? o.metricsAddress with
    | none => [.event (.metricsAddressUnreadable o.metricsAddress Net.Address.unreadable)]
    | some address =>
        let fault :=
          if around.own address then none else some (Net.ListenFault.foreignHost).text
        [.event (EndpointState.mk fault around.recorded).event]
  else []

/-- The gateway of settings; no engine is attached to it. -/
def gatewayOf (s : Settings) (store : Config.Store) : Gateway :=
  { setup := .ofBuild s.secretsEnforced s.contextPath CommandLine.buildVersion
    store
    attached := none
    bodyLimit := s.listener.bodyLimit }

/-- Start the gateway. -/
def start (around : Surroundings) (s : Settings) : Start :=
  let starting : Note := .event (.starting CommandLine.buildVersion)
  match Config.Store.ofFile s.configPath (around.files s.configPath) with
  | (.error fault, notes) =>
      ⟨.error (.configuration fault),
        starting :: notes ++ [.event (.configurationRefused s.configPath fault.message)]⟩
  | (.ok store, notes) =>
      let before :=
        starting :: notes ++ metricsNotes around s.observability ++
          Version.notes CommandLine.buildVersion ++
          [.event .engineMissing,
            .event (.settingsLoaded s.listener.bindAddress s.listener.requestTimeout
              s.secretsEnforced)]
      match Net.listenAddress around.lookup around.own s.listener.bindAddress with
      | .error fault => ⟨.error (.listener fault), before⟩
      | .ok _ => ⟨.ok (gatewayOf s store), before ++ [.event .serverStarting]⟩

/-- The shutdown that the server listens to, before anybody waits for a signal. -/
def served : Shutdown :=
  Shutdown.new.subscribe.1

/-- What is noted when the server is told to stop. -/
def drainNotes : List Note :=
  served.sendNotes ++ [.event .serverDraining, .event .serverStopped]

/-- What is noted from a signal to the end of the gateway. -/
def stopNotes (signal : Signal) : List Note :=
  .event signal.event :: drainNotes ++ [.event .shutdownComplete]

end Notary.Lifecycle
