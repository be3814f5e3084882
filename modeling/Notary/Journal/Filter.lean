import Notary.Journal.Event
import Notary.Text.Digit

namespace Notary.Journal

/-!
# Log filters

A filter is a list of directives between commas. A directive gives a level to
the targets that start with a text, or to all. It may narrow itself to events
with certain fields, or to a span; a span that is never entered lets nothing
through. Of the directives that an event falls under, the most specific one
decides.
-/

/-- How much a filter lets through. -/
inductive Threshold where
  | nothing
  | upTo (level : Level)
deriving Repr, DecidableEq

namespace Threshold

/-- Whether a threshold lets a level through. -/
def admits (t : Threshold) (level : Level) : Bool :=
  match t with
  | nothing => false
  | upTo most => level.rank ≤ most.rank

/-- All thresholds with their names, in the order of their numbers. -/
def all : List (String × Threshold) :=
  [("off", nothing), ("error", upTo .error), ("warn", upTo .warn), ("info", upTo .info),
    ("debug", upTo .debug), ("trace", upTo .trace)]

/-- The threshold of a text: a name in any case, a number, or nothing for errors only. -/
def parse? (text : String) : Option Threshold :=
  let lower := String.ofList (text.toList.map Char.toLower)
  if text.isEmpty then some (upTo .error)
  else
    match all.find? (·.1 = lower) with
    | some (_, threshold) => some threshold
    | none =>
        let digits :=
          match text.toList with
          | '+' :: digits => digits
          | digits => digits
        if !digits.isEmpty && digits.all Char.isDigit then
          (all[Text.decimalValue digits]?).map (·.2)
        else none

end Threshold

/-- A field that a directive asks for, and whether it asks for a value too. -/
structure FieldDemand where
  name : String
  valued : Bool
deriving Repr, DecidableEq

/-- A directive. -/
structure Directive where
  target : Option String
  /-- The name of the span that events have to be in. -/
  span : Option String
  fields : List FieldDemand
  threshold : Threshold
deriving Repr, DecidableEq

/-- Why a directive is refused. -/
inductive DirectiveFault where
  | shape
  | level
deriving Repr, DecidableEq

/-- The words for a refused directive. -/
def DirectiveFault.text : DirectiveFault → String
  | shape => "invalid filter directive"
  | level =>
      "error parsing level filter: expected one of \"off\", \"error\", \"warn\", \"info\", " ++
        "\"debug\", \"trace\", or a number 0-5"

namespace Directive

/-- A character that a directive may start with, apart from a bracket. -/
def isOpening (c : Char) : Bool :=
  c == '-' || c == ':' || c == '_' || c.isAlphanum || 0x80 ≤ c.toNat

/-- The level after an equals sign; none at all means everything. -/
def readLevel (text : List Char) : Except DirectiveFault Threshold :=
  if text.isEmpty then .ok (.upTo .trace)
  else
    match Threshold.parse? (String.ofList text) with
    | some threshold => .ok threshold
    | none => .error .level

/-- Read a demand for a field. -/
def readField (text : List Char) : Option FieldDemand :=
  if text.isEmpty then none
  else
    some ⟨String.ofList (text.takeWhile (· != '=')), text.contains '='⟩

/-- Read the demands for fields between braces. -/
def readFields (text : List Char) : Except DirectiveFault (List FieldDemand) :=
  match (text.splitOn ',').mapM readField with
  | some fields => .ok fields
  | none => .error .shape

/-- Read what follows a target: a span in brackets, a level, or both. -/
def readAfterTarget (target : Option String) (text : List Char) :
    Except DirectiveFault Directive := do
  let level (rest : List Char) : Except DirectiveFault Threshold :=
    match rest with
    | [] => .ok (.upTo .trace)
    | '=' :: digits => readLevel digits
    | _ => .error .shape
  match text with
  | '[' :: rest =>
      let name := rest.takeWhile fun c => c != ']' && c != '\x7b'
      let span := if name.isEmpty then none else some (String.ofList name)
      match rest.drop name.length with
      | ']' :: rest => return ⟨target, some (String.ofList name), [], ← level rest⟩
      | '\x7b' :: rest =>
          let inner := rest.takeWhile (· != '\x7d')
          match rest.drop inner.length with
          | '\x7d' :: ']' :: rest => return ⟨target, span, ← readFields inner, ← level rest⟩
          | _ => .error .shape
      | _ => .error .shape
  | rest => return ⟨target, none, [], ← level rest⟩

/-- Read a directive. -/
def read (text : String) : Except DirectiveFault Directive :=
  match text.trimAscii.toString.toList with
  | [] => .error .shape
  | c :: rest =>
      if c == '[' then readAfterTarget none (c :: rest)
      else if isOpening c then
        let name := (c :: rest).takeWhile fun c => c != '=' && c != '['
        let after := (c :: rest).drop name.length
        match after, Threshold.parse? (String.ofList name) with
        | [], some threshold => .ok ⟨none, none, [], threshold⟩
        | _, _ => readAfterTarget (some (String.ofList name)) after
      else .error .shape

/-- Whether a directive applies without a span. -/
def isStatic (d : Directive) : Bool :=
  d.span.isNone && d.fields.all fun demand => !demand.valued

/-- Whether an event falls under a directive. -/
def concerns (d : Directive) (e : Event) : Bool :=
  (d.target.all fun target => target.toList.isPrefixOf e.target.toList) &&
    d.fields.all fun demand =>
      demand.name = "message" || e.fields.any fun field => field.1 = demand.name

/-- How specific a directive is: its target counts first, then the number of its fields. -/
def weight (d : Directive) : Nat × Nat :=
  ((d.target.map fun target => target.utf8ByteSize + 1).getD 0, d.fields.length)

/-- Whether a directive is at least as specific as another one. -/
def outranks (d other : Directive) : Bool :=
  other.weight.1 < d.weight.1 ||
    (other.weight.1 = d.weight.1 && other.weight.2 ≤ d.weight.2)

end Directive

/-- A filter. -/
structure Filter where
  directives : List Directive
deriving Repr, DecidableEq

namespace Filter

/-- The filter that lets errors through. -/
def errors : Filter := ⟨[⟨none, none, [], .upTo .error⟩]⟩

/-- A filter of directives; without any it lets errors through. -/
def ofDirectives (directives : List Directive) : Filter :=
  if directives.isEmpty then errors else ⟨directives⟩

/-- The texts of directives. -/
def split (text : String) : List String :=
  ((text.toList.splitOn ',').map String.ofList).filter fun part => !part.isEmpty

/-- Read a filter, all of whose directives must be in order. -/
def parse? (text : String) : Option Filter :=
  match (split text).mapM Directive.read with
  | .ok directives => some (ofDirectives directives)
  | .error _ => none

/-- Read a filter, leaving out the directives that are not in order. -/
def ofText (text : String) : Filter :=
  ofDirectives <| (split text).filterMap fun part => (Directive.read part).toOption

/-- What is said about the directives that are left out. -/
def complaints (text : String) : List String :=
  (split text).filterMap fun part =>
    match Directive.read part with
    | .ok _ => none
    | .error fault => some ("ignoring \x60" ++ part ++ "\x60: " ++ fault.text)

/-- The directive that decides about an event; of two equals the later one. -/
def decisive? (f : Filter) (e : Event) : Option Directive :=
  (f.directives.filter fun d => d.isStatic && d.concerns e).foldl
    (fun best d =>
      match best with
      | some other => if d.outranks other then some d else best
      | none => some d)
    none

/-- Whether a filter lets an event through. -/
def admits (f : Filter) (e : Event) : Bool :=
  (f.decisive? e).any fun d => d.threshold.admits e.level

/-- The filter text of a configured level. -/
def levelText (level : String) : String :=
  "sign_gateway=" ++ level ++ ",tower_http=" ++ level

end Filter

end Notary.Journal
