import Notary.CommandLine.Command

namespace Notary.CommandLine

/-!
# Reading calls

The arguments of a call are read one after another. An option holds its value
back until the next argument shows that it is complete; only then is the value
checked, so that an argument which nothing expects is found before it.
-/

/-- A value of an option, by the long name of the option. -/
abbrev Values := List (String × String)

/-- The value of an option. -/
def Values.get? (v : Values) (long : String) : Option String :=
  (v.find? (·.1 = long)).map (·.2)

/-- What has been read of a call. -/
structure Reading where
  values : Values
  /-- The option that was named last, with its value if that has come. -/
  held : Option (Switch × Option String)
  positional : Option String
  /-- Whether all that is left is positional. -/
  trailing : Bool
deriving Repr, DecidableEq

/-- How the reading of a call ends. -/
inductive Call where
  | help
  | version (text : String)
  | refused (error : UsageError)
  /-- Nothing was given where a command is needed. -/
  | bare
  /-- The values of the options and the positional argument. -/
  | accepted (values : Values) (positional : Option String)
  /-- A command inside is called with the rest, which is read before the call is completed. -/
  | entered (reading : Reading) (name : String) (rest : List String)
deriving Repr, DecidableEq

/-- What an argument looks like. -/
inductive Shape where
  /-- Two dashes alone. -/
  | escape
  | long (name : String) (value : Option String)
  | short (flags : List Char)
  | plain
deriving Repr, DecidableEq

/-- The shape of an argument. -/
def shapeOf (argument : String) : Shape :=
  match argument.toList with
  | ['-', '-'] => .escape
  | '-' :: '-' :: rest =>
      let name := rest.takeWhile (· != '=')
      match rest.drop name.length with
      | '=' :: value => .long (String.ofList name) (some (String.ofList value))
      | _ => .long (String.ofList name) none
  | '-' :: c :: rest => .short (c :: rest)
  | _ => .plain

namespace Reading

/-- Nothing read yet. -/
def start : Reading := ⟨[], none, none, false⟩

/-- Take the value of an option. -/
def take (r : Reading) (o : Switch) (value : String) : Except UsageError Reading :=
  if (r.values.get? o.long).isSome then .error (.repeated o.label)
  else if o.accepts.admits value then .ok { r with values := r.values ++ [(o.long, value)] }
  else if value.isEmpty then .error (.valueMissing o.label)
  else .error (.invalidValue value o.label)

/-- Take the value that is held back. -/
def settle (r : Reading) : Except UsageError Reading :=
  match r.held with
  | none => .ok r
  | some (o, none) => .error (.valueMissing o.label)
  | some (o, some value) => { r with held := none }.take o value

/-- Name an option, with the value that is attached to it or to wait for one. -/
def name (r : Reading) (o : Switch) (attached : Option String) : Except UsageError Reading := do
  let r ← r.settle
  match attached with
  | some value => r.take o value
  | none => return { r with held := some (o, none) }

/-- Whether an option still waits for its value. -/
def waits (r : Reading) : Bool :=
  match r.held with
  | some (_, none) => true
  | _ => false

end Reading

/-- How the reading goes on after an argument. -/
inductive Turn where
  | next (reading : Reading)
  | over (call : Call)

/-- Go on unless there is an error. -/
def Turn.ofExcept : Except UsageError Reading → Turn
  | .ok reading => .next reading
  | .error error => .over (.refused error)

/-- End the call with an answer that needs no more arguments, if the reading so far is in order. -/
def Turn.finish (r : Reading) (call : Call) : Turn :=
  match r.settle with
  | .ok _ => .over call
  | .error error => .over (.refused error)

/-- Read an argument that starts with two dashes. -/
def readLong (c : Command) (r : Reading) (name : String) (value : Option String) : Turn :=
  let flag (label : String) (call : Call) : Turn :=
    match value with
    | some value => .over (.refused (.unexpectedValue value label))
    | none => .finish r call
  match c.options.find? (·.long = name), c.version with
  | some o, _ => .ofExcept (r.name o value)
  | none, version =>
      match name, version with
      | "help", _ => flag "--help" .help
      | "version", some text => flag "--version" (.version text)
      | _, _ => .over (.refused (.unexpectedArgument ("--" ++ name)))

/-- Read an argument that starts with one dash: the first letter that is known decides. -/
def readShort (c : Command) (r : Reading) : List Char → Turn
  | [] => .next r
  | letter :: rest =>
      match c.options.find? (·.short = some letter), c.version with
      | some o, _ =>
          let attached :=
            match rest with
            | [] => none
            | '=' :: value => some (String.ofList value)
            | value => some (String.ofList value)
          .ofExcept (r.name o attached)
      | none, version =>
          match letter, version with
          | 'h', _ => .finish r .help
          | 'V', some text => .finish r (.version text)
          | _, _ => .over (.refused (.unexpectedArgument (String.ofList ['-', letter])))

/-- Read an argument that is neither an option nor a command. -/
def readPlain (c : Command) (r : Reading) (argument : String) : Turn :=
  match r.held with
  | some (o, none) =>
      if r.trailing then Turn.over (.refused (.unexpectedArgument argument))
      else .next { r with held := some (o, some argument) }
  | _ =>
      if c.positional.isSome && r.positional.isNone then
        match r.settle with
        | .ok r => .next { r with positional := some argument }
        | .error error => .over (.refused error)
      else if r.trailing && c.inner.any (·.1 = argument) then
        .over (.refused (.unexpectedArgument argument))
      else if !c.inner.isEmpty then .over (.refused (.unrecognizedCommand argument))
      else .over (.refused (.unexpectedArgument argument))

/-- The values of options that the call does not give, from the environment or their fallbacks. -/
def completeValues (e : Environment) (r : Reading) : List Switch → Except UsageError Reading
  | [] => .ok r
  | o :: rest => do
      let given := (r.values.get? o.long).isSome
      match given, o.source.bind e.get? with
      | false, some value => completeValues e (← r.take o value) rest
      | _, _ => completeValues e r rest

/-- The values of a call that has no more arguments of its own. -/
def complete (c : Command) (e : Environment) (r : Reading) : Except UsageError Reading := do
  completeValues e (← r.settle) c.options

/-- The values of a call, fallbacks included. -/
def allValues (c : Command) (r : Reading) : Values :=
  r.values ++ c.options.filterMap fun o =>
    if (r.values.get? o.long).isSome then none
    else o.fallback.map fun value => (o.long, value)

/-- End a call that calls no command inside. -/
def finishCall (c : Command) (e : Environment) (r : Reading) : Call :=
  match complete c e r with
  | .error error => .refused error
  | .ok r =>
      if !c.inner.isEmpty then
        if r.values.isEmpty then .bare else .refused (.commandMissing c.name)
      else if c.positional.isSome && r.positional.isNone then .refused .argumentMissing
      else .accepted (allValues c r) r.positional

/-- Read the arguments of a call. -/
def readCall (c : Command) (e : Environment) (r : Reading) : List String → Call
  | [] => finishCall c e r
  | argument :: rest =>
      if !r.trailing && !r.waits && c.inner.any (·.1 = argument) then .entered r argument rest
      else
        let turn : Turn :=
          if r.trailing then readPlain c r argument
          else
            match shapeOf argument with
            | .escape => .next { r with trailing := true }
            | .long name value => readLong c r name value
            | .short flags => readShort c r flags
            | .plain => readPlain c r argument
        match turn with
        | .next r => readCall c e r rest
        | .over call => call

end Notary.CommandLine
