import Notary.Json.Printer

namespace Notary

/-!
# Settings

How the gateway process runs: where it listens, what it logs, and whether it
enforces secrets. Settings are read once, at startup; whatever a file leaves out
has its default.
-/

open Json (Value)

/-- Where and how the gateway listens. -/
structure Listener where
  bindAddress : String
  /-- The time that a request may take, in seconds. -/
  requestTimeout : Nat
  /-- The largest body of a request, in bytes. -/
  bodyLimit : Nat
deriving Repr, DecidableEq

/-- How log lines are written. -/
inductive LogFormat where
  | pretty
  | json
deriving Repr, DecidableEq

namespace LogFormat

/-- All formats. -/
def all : List LogFormat :=
  [pretty, json]

/-- The name of a format. -/
def name : LogFormat → String
  | pretty => "pretty"
  | json => "json"

/-- The format of a name. -/
def ofName? (name : String) : Option LogFormat :=
  all.find? (·.name = name)

end LogFormat

/-- What the gateway tells about its work. -/
structure Observability where
  logLevel : String
  logFormat : LogFormat
  metricsEnabled : Bool
  metricsAddress : String
deriving Repr, DecidableEq

/-- The settings of the gateway process. -/
structure Settings where
  /-- The path of the configuration document. -/
  configPath : String
  secretsEnforced : Bool
  /-- What proofs record in front of the path of a called operation. -/
  contextPath : String
  listener : Listener
  observability : Observability
deriving Repr, DecidableEq

/-- The listener without settings. -/
def Listener.default : Listener :=
  { bindAddress := "0.0.0.0:8080"
    requestTimeout := 60
    bodyLimit := 50 * 1024 * 1024 }

/-- The observability without settings. -/
def Observability.default : Observability :=
  { logLevel := "info"
    logFormat := .pretty
    metricsEnabled := false
    metricsAddress := "0.0.0.0:9090" }

namespace Settings

/-- The settings without a file. -/
def default : Settings :=
  { configPath := "conf/gateway-conf.json"
    secretsEnforced := true
    contextPath := ""
    listener := .default
    observability := .default }

/-- Why settings cannot be used. -/
inductive Problem where
  | noTimeout
  | noBody
  | relativeContext
deriving Repr, DecidableEq

/-- The words for a problem. -/
def Problem.text : Problem → String
  | noTimeout => "listener.request_timeout_secs must be > 0"
  | noBody => "listener.max_body_size must be > 0"
  | relativeContext => "context_path must start with '/'"

/-- The first problem of settings. -/
def problem? (s : Settings) : Option Problem :=
  if s.listener.requestTimeout = 0 then some .noTimeout
  else if s.listener.bodyLimit = 0 then some .noBody
  else if s.contextPath ≠ "" ∧ s.contextPath.toList.head? ≠ some '/' then some .relativeContext
  else none

/-- Settings as a JSON value. -/
def encode (s : Settings) : Value :=
  .object
    [("config_path", .string s.configPath),
      ("secret_enabled", .bool s.secretsEnforced),
      ("context_path", .string s.contextPath),
      ("listener", .object
        [("bind_address", .string s.listener.bindAddress),
          ("request_timeout_secs", .ofNat s.listener.requestTimeout),
          ("max_body_size", .ofNat s.listener.bodyLimit)]),
      ("observability", .object
        [("log_level", .string s.observability.logLevel),
          ("log_format", .string s.observability.logFormat.name),
          ("metrics_enabled", .bool s.observability.metricsEnabled),
          ("metrics_address", .string s.observability.metricsAddress)])]

end Settings

end Notary
