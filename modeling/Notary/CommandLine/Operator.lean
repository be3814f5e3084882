import Notary.CommandLine.Call
import Notary.CommandLine.Help
import Notary.Http.Message
import Notary.Json.Printer

namespace Notary.CommandLine.Operator

/-!
# The operator's program

The operator asks a running gateway for its status, for its certificate
authorities, or for the hash of a secret. The answer is printed with its members
sorted by name.
-/

open Json (Value)

/-- What the operator asks for. -/
inductive Question where
  | status
  | authorities
  | secretHash (plain : String)
deriving Repr, DecidableEq

/-- The program. -/
def command : Command :=
  { name := "gateway-cli"
    about := "Operator CLI for the signing gateway"
    version := none
    options :=
      [{ short := some 'u', long := "url", valueName := "URL"
         source := some "SIGN_GATEWAY_URL", accepts := .anything
         fallback := some "http://localhost:8080", help := "" }]
    positional := none
    inner :=
      [("status", "Show the gateway version and loaded configuration counts"),
        ("ca", "List the trusted certificate authorities"),
        ("hash-secret", "Hash a plain secret for use in a signing configuration"),
        ("help", "Print this message or the help of the given subcommand(s)")] }

/-- A command inside the program. -/
def innerCommand (name about : String) : Command :=
  { name := command.name ++ " " ++ name, about
    version := none, options := [], inner := []
    positional :=
      if name = "hash-secret" then some ⟨"PLAIN", "The plain secret"⟩ else none }

/-- The command of a name inside the program. -/
def inner? (name : String) : Option Command :=
  (command.inner.find? (·.1 = name)).map fun (name, about) => innerCommand name about

/-- How a call of the program ends before anything is asked. -/
inductive Ending where
  | ask (url : String) (question : Question)
  | print (lines : List String)
  | refuse (error : UsageError)
  /-- The help is shown because no command was given. -/
  | prompt (lines : List String)
deriving Repr, DecidableEq

/-- The question that a command inside the program asks. -/
def questionOf (name : String) (positional : Option String) : Question :=
  match positional with
  | some plain => .secretHash plain
  | none => if name = "ca" then .authorities else .status

/-- The help for the help command itself. -/
def helpOnHelp : List String :=
  ["Print this message or the help of the given subcommand(s)", "",
    "Usage: gateway-cli help [COMMAND]...", "",
    "Arguments:", "  [COMMAND]...  Print help for the subcommand(s)"]

/-- Answer the help command. -/
def helpFor (e : Environment) : List String → Ending
  | [] => .print (command.help e)
  | name :: rest =>
      match inner? name, rest with
      | none, _ => .refuse (.unrecognizedCommand name)
      | some _, deeper :: _ => .refuse (.unrecognizedCommand deeper)
      | some inner, [] => .print (if name = "help" then helpOnHelp else inner.help e)

/-- Read a call of a command inside the program; `outer` is what was read before. -/
def readInner (e : Environment) (outer : Reading) (inner : Command) (name : String)
    (arguments : List String) : Ending :=
  match readCall inner e .start arguments with
  | .help => .print (inner.help e)
  | .version text => .print [text]
  | .refused error => .refuse error
  | .bare => .prompt (inner.help e)
  | .entered _ deeper _ => .refuse (.unrecognizedCommand deeper)
  | .accepted _ positional =>
      match complete command e outer with
      | .error error => .refuse error
      | .ok outer =>
          .ask (((allValues command outer).get? "url").getD "") (questionOf name positional)

/-- Read a call of the program. -/
def read (e : Environment) (arguments : List String) : Ending :=
  match readCall command e .start arguments with
  | .help => .print (command.help e)
  | .version text => .print [text]
  | .refused error => .refuse error
  | .bare | .accepted _ _ => .prompt (command.help e)
  | .entered outer name rest =>
      match inner? name with
      | none => .refuse (.unrecognizedCommand name)
      | some inner =>
          if name = "help" then helpFor e rest else readInner e outer inner name rest

/-- The request that asks a question. -/
def Question.message : Question → Http.Message
  | status => ⟨"GET", "/status", [⟨"accept", "application/json".toUTF8.toList⟩], []⟩
  | authorities => ⟨"GET", "/ca", [⟨"accept", "application/json".toUTF8.toList⟩], []⟩
  | secretHash plain =>
      ⟨"POST", "/secrets/hash",
        [⟨"accept", "application/json".toUTF8.toList⟩,
          ⟨"content-type", "application/json".toUTF8.toList⟩],
        (Value.object [("plainSecret", .string plain)]).text.toUTF8.toList⟩

/-- What comes back from a gateway. -/
inductive Reply where
  /-- The gateway cannot be reached, or what it says cannot be read. -/
  | unreachable
  | response (response : Http.Response)
deriving Repr, DecidableEq

/-- Why the program fails. -/
inductive Failure where
  | unreachable
  /-- The gateway answers with the status of a failure. -/
  | badStatus (status : Nat)
  | usage (error : UsageError)
  /-- No command was given, so the help is shown. -/
  | noCommand (help : List String)
deriving Repr, DecidableEq

namespace Failure

/-- The lines on the error stream. -/
def lines : Failure → List String
  | unreachable => ["Error: the gateway cannot be reached"]
  | badStatus status => ["Error: gateway returned status " ++ Http.statusText status]
  | usage error => [error.text]
  | noCommand help => help

/-- The status with which the program ends. -/
def exitStatus : Failure → Nat
  | unreachable | badStatus _ => 1
  | usage _ | noCommand _ => usageStatus

end Failure

/-- The text that the program prints, or why it fails. -/
abbrev Outcome := Except Failure String

/-- The status with which the program ends. -/
def exitStatus : Outcome → Nat
  | .ok _ => 0
  | .error failure => failure.exitStatus

/-- Lines as a text. -/
def unlines (lines : List String) : String :=
  String.join (lines.map (· ++ "\n"))

/-- What the program makes of a reply. -/
def Reply.outcome : Reply → Outcome
  | unreachable => .error .unreachable
  | response r =>
      if r.status < 200 || 300 ≤ r.status then .error (.badStatus r.status)
      else
        let reading := Json.readTree (r.body.toList.map .char)
        match reading.trailing, reading.root.value Json.depthLimit with
        | none, .ok value => .ok (value.sorted.indented ++ "\n")
        | _, _ => .error .unreachable

/-- Run the program, given what comes back for a question to a gateway. -/
def run (e : Environment) (arguments : List String) (ask : String → Question → Reply) : Outcome :=
  match read e arguments with
  | .print lines => .ok (unlines lines)
  | .prompt help => .error (.noCommand help)
  | .refuse error => .error (.usage error)
  | .ask url question => (ask url question).outcome

end Notary.CommandLine.Operator
