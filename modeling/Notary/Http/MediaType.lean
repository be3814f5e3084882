import Notary.Http.Message

namespace Notary.Http

/-!
# Media types

A media type is two tokens around a slash, followed by parameters. The second
token may end in a suffix after a plus sign. All but the values of parameters is
put into lower case.
-/

/-- A media type. -/
structure MediaType where
  main : String
  /-- The second token without its suffix. -/
  sub : String
  suffix : Option String
  parameters : List (String × String)
deriving Repr, DecidableEq

/-- The characters of tokens. -/
def isToken (c : Char) : Bool :=
  c.isAlphanum || "!#$%&'*+-.^_\x60|~".toList.contains c

/-- What is being read in a list of parameters; the characters of a text stand last first. -/
inductive ParameterState where
  | name (read : List Char)
  | value (name read : List Char)
  | quoted (name read : List Char)
  | afterQuote
deriving Repr, DecidableEq

/-- A parameter from its characters, last first. -/
def parameterOf (name value : List Char) : String × String :=
  (lowerCase (String.ofList name.reverse), String.ofList value.reverse)

/-- Read parameters after the first semicolon. -/
def readParameters : ParameterState → List Char → Option (List (String × String))
  | .name [], [] => some []
  | .name (_ :: _), [] => none
  | .value name read, [] => some [parameterOf name read]
  | .quoted _ _, [] => none
  | .afterQuote, [] => some []
  | .name read, c :: rest =>
      if c == ' ' && read.isEmpty then readParameters (.name []) rest
      else if isToken c then readParameters (.name (c :: read)) rest
      else if c == '=' && !read.isEmpty then readParameters (.value read []) rest
      else none
  | .value name read, c :: rest =>
      if c == '"' && read.isEmpty then readParameters (.quoted name []) rest
      else if isToken c then readParameters (.value name (c :: read)) rest
      else if c == ';' && !read.isEmpty then
        (readParameters (.name []) rest).map (parameterOf name read :: ·)
      else none
  | .quoted name read, c :: rest =>
      if c == '"' && !read.isEmpty then
        (readParameters .afterQuote rest).map (parameterOf name read :: ·)
      else if 31 < c.toNat && c.toNat != 127 then readParameters (.quoted name (c :: read)) rest
      else none
  | .afterQuote, c :: rest =>
      if c == ';' then readParameters (.name []) rest
      else if c == ' ' then readParameters .afterQuote rest
      else none

/-- Cut a second token at its last plus sign, unless the token starts with that. -/
def cutSuffix (token : List Char) : List Char × Option (List Char) :=
  let suffix := (token.reverse.takeWhile (· != '+')).reverse
  let before := token.length - suffix.length
  if 1 < before then (token.take (before - 1), some suffix) else (token, none)

namespace MediaType

/-- Read a media type. -/
def parse? (s : String) : Option MediaType :=
  let main := s.toList.takeWhile isToken
  match s.toList.drop main.length with
  | '/' :: rest =>
      let token := rest.takeWhile isToken
      let (sub, suffix) := cutSuffix token
      let lower (cs : List Char) : String := lowerCase (String.ofList cs)
      let make (parameters : List (String × String)) : MediaType :=
        ⟨lower main, lower sub, suffix.map lower, parameters⟩
      if main.isEmpty then none
      else
        match rest.drop token.length with
        | [] => some (make [])
        | ';' :: after =>
            if token.isEmpty then none else (readParameters (.name []) after).map make
        | _ => none
  | _ => none

/-- The value of the first parameter of a name. -/
def parameter? (m : MediaType) (name : String) : Option String :=
  (m.parameters.find? (·.1 = name)).map (·.2)

/-- Whether a media type is JSON, by itself or by its suffix. -/
def isJson (m : MediaType) : Bool :=
  m.main = "application" && (m.sub = "json" || m.suffix = some "json")

/-- The boundary of a form's parts. -/
def formBoundary? (m : MediaType) : Option String :=
  if m.main = "multipart" && m.sub = "form-data" then m.parameter? "boundary" else none

end MediaType

end Notary.Http
