namespace Notary.CommandLine

/-!
# Commands

What a program can be called with: options that take a value, one positional
argument at most, and commands inside a command. An option may take its value
from a variable of the environment when the call does not give it.
-/

/-- The values that an option accepts. -/
inductive Accepts where
  | anything
  /-- Any text but the empty one. -/
  | path
  | oneOf (values : List String)
deriving Repr, DecidableEq

/-- Whether a value is accepted. -/
def Accepts.admits : Accepts → String → Bool
  | anything, _ => true
  | path, value => !value.isEmpty
  | oneOf values, value => values.contains value

/-- An option with a value. -/
structure Switch where
  short : Option Char
  long : String
  valueName : String
  /-- The variable of the environment that may hold the value. -/
  source : Option String
  accepts : Accepts
  fallback : Option String
  help : String
deriving Repr, DecidableEq

/-- How an option is shown. -/
def Switch.label (o : Switch) : String :=
  "--" ++ o.long ++ " <" ++ o.valueName ++ ">"

/-- A positional argument. -/
structure Positional where
  name : String
  help : String
deriving Repr, DecidableEq

/-- A command. -/
structure Command where
  /-- The words that call it. -/
  name : String
  about : String
  /-- The version that it tells, if it tells one. -/
  version : Option String
  options : List Switch
  positional : Option Positional
  /-- The commands inside it and what they do; one of them is needed if there are any. -/
  inner : List (String × String)
deriving Repr, DecidableEq

/-- Why a call is refused. -/
inductive UsageError where
  | unexpectedArgument (argument : String)
  /-- A value is given to something that takes none. -/
  | unexpectedValue (value label : String)
  | valueMissing (label : String)
  | invalidValue (value label : String)
  | repeated (label : String)
  | unrecognizedCommand (name : String)
  | commandMissing (name : String)
  | argumentMissing
deriving Repr, DecidableEq

/-- The first line of the words for a refused call. -/
def UsageError.text : UsageError → String
  | unexpectedArgument argument => "error: unexpected argument '" ++ argument ++ "' found"
  | unexpectedValue value label =>
      "error: unexpected value '" ++ value ++ "' for '" ++ label ++
        "' found; no more were expected"
  | valueMissing label =>
      "error: a value is required for '" ++ label ++ "' but none was supplied"
  | invalidValue value label => "error: invalid value '" ++ value ++ "' for '" ++ label ++ "'"
  | repeated label => "error: the argument '" ++ label ++ "' cannot be used multiple times"
  | unrecognizedCommand name => "error: unrecognized subcommand '" ++ name ++ "'"
  | commandMissing name =>
      "error: '" ++ name ++ "' requires a subcommand but one was not provided"
  | argumentMissing => "error: the following required arguments were not provided:"

/-- The status with which a refused call ends. -/
def usageStatus : Nat := 2

/-- The variables of the environment. -/
abbrev Environment := List (String × String)

/-- The value of a variable; of repeated ones the last counts. -/
def Environment.get? (e : Environment) (name : String) : Option String :=
  (e.reverse.find? (·.1 = name)).map (·.2)

end Notary.CommandLine
