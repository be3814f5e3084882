import Notary.CommandLine.Call
import Notary.CommandLine.Help
import Notary.Settings.Load

namespace Notary.CommandLine

/-!
# The call of the gateway

The gateway is started with a settings file and with options that overrule what
the file says.
-/

/-- The version of the gateway. -/
def buildVersion : String := "2.0.0"

/-- An option of the gateway that names its variable after itself. -/
def serverOption (long valueName : String) (accepts : Accepts) (help : String) : Switch :=
  { short := none, long, valueName
    source := some ("SIGN_GATEWAY_" ++ valueName)
    accepts, fallback := none, help }

/-- How the gateway is called. -/
def serverCommand : Command :=
  { name := "sign-gateway"
    about := "Signing, validation and proof gateway"
    version := some ("sign-gateway " ++ buildVersion)
    options :=
      [{ serverOption "settings" "SETTINGS" .path
          "TOML settings file; defaults apply when absent" with short := some 's' },
        serverOption "conf" "CONF" .path "JSON configuration document",
        serverOption "bind" "BIND" .anything "Listener bind address",
        serverOption "secret-enabled" "SECRET_ENABLED" (.oneOf ["true", "false"])
          "Enforce per-configuration secrets on signing requests",
        serverOption "log-level" "LOG_LEVEL" .anything ""]
    positional := none
    inner := [] }

/-- Settings with the options of a call put over them. -/
def overrule (v : Values) (s : Settings) : Settings :=
  { s with
    configPath := (v.get? "conf").getD s.configPath
    secretsEnforced := ((v.get? "secret-enabled").map (· == "true")).getD s.secretsEnforced
    listener :=
      { s.listener with bindAddress := (v.get? "bind").getD s.listener.bindAddress }
    observability :=
      { s.observability with logLevel := (v.get? "log-level").getD s.observability.logLevel } }

/-- The settings of a call, with the files that it names. -/
def settingsOf (files : String → Config.File) (v : Values) :
    Except Settings.LoadFault Settings := do
  let base ←
    match v.get? "settings" with
    | some path => Settings.load (files path)
    | none => .ok Settings.default
  (overrule v base).checked

end Notary.CommandLine
