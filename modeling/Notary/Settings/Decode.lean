import Notary.Settings.Basic
import Notary.Settings.Datum

namespace Notary.Settings

/-!
# Reading settings from data

The members of a structure may come in any order and may be missing, and unknown
ones are passed over. A structure may also be a list of its members in order.
-/

open Json (Mismatch)

/-- How data differs from what is wanted. -/
inductive Difference where
  | mismatch (mismatch : Mismatch)
  | noTextOrTable
  | noMember
  | severalMembers
  | filledTable
  | filledList
  | noTable (found : String)
deriving Repr, DecidableEq

/-- The words for a difference. -/
def Difference.text : Difference → String
  | mismatch m => m.text
  | noTextOrTable => "wanted string or table"
  | noMember => "wanted exactly 1 element, found 0 elements"
  | severalMembers => "wanted exactly 1 element, more than 1 element"
  | filledTable => "expected empty table"
  | filledList => "expected empty array"
  | noTable found => "expected table, found " ++ found

/-- A difference and its place. -/
structure Flaw where
  difference : Difference
  place : Nat
deriving Repr, DecidableEq

/-- Refuse data that is not what is wanted. -/
def refuse {α : Type} (wanted : String) (datum : Datum) : Except Difference α :=
  .error (.mismatch (.invalidType datum.found wanted))

/-- Read a text. -/
def readText (wanted : String) : Datum → Except Difference String
  | .text value => .ok value
  | datum => refuse wanted datum

/-- Read a truth value. -/
def readFlag : Datum → Except Difference Bool
  | .bool value => .ok value
  | datum => refuse "a boolean" datum

/-- Read a number of 64 bits that is not negative. -/
def readCount (wanted : String) : Datum → Except Difference Nat
  | .whole value =>
      if 0 ≤ value then .ok value.toNat
      else .error (.mismatch (.invalidValue (.number (.whole value)) wanted))
  | datum => refuse wanted datum

/-- Find the log format of a name. -/
def formatNamed (name : String) : Except Difference LogFormat :=
  match LogFormat.ofName? name with
  | some format => .ok format
  | none => .error (.mismatch (.unknownVariant name (LogFormat.all.map LogFormat.name)))

/-- The words for a kind of data where a table is expected. -/
def Datum.kindText : Datum → String
  | .null => "none"
  | .bool _ => "boolean"
  | .whole _ => "integer"
  | .floating _ => "float"
  | .text _ => "string"
  | .moment => "datetime"
  | .list _ => "array"
  | .tables _ => "array of tables"
  | .table _ => "table"

/-- Accept what may stand under the name of a log format: nothing. -/
def checkNothing (origin : Origin) (datum : Datum) : Except Difference Unit :=
  match origin, datum with
  | .json, .null => .ok ()
  | .json, datum => refuse "unit" datum
  | .toml, .list [] | .toml, .table [] | .toml, .tables [] => .ok ()
  | .toml, .list _ | .toml, .table _ => .error .filledTable
  | .toml, .tables _ => .error .filledList
  | .toml, datum => .error (.noTable datum.kindText)

/-- Read a log format: its name, or a table whose only member it names, holding nothing. -/
def readFormat (origin : Origin) (datum : Datum) : Except Difference LogFormat :=
  match origin, datum with
  | _, .text name => formatNamed name
  | _, .table [(name, _, inner)] => do
      let format ← formatNamed name
      checkNothing origin inner
      return format
  | .json, .table _ => .error (.mismatch (.invalidValue .map "map with a single key"))
  | .json, datum => refuse "string or map" datum
  | .toml, .table [] => .error .noMember
  | .toml, .table _ => .error .severalMembers
  | .toml, _ => .error .noTextOrTable

/-- How a member changes the structure it belongs to. -/
structure Member (α : Type) where
  name : String
  read : Nat → Datum → α → Except Flaw α

/-- A member whose data is read at once. -/
def Member.of {α β : Type} (name : String) (read : Datum → Except Difference β)
    (put : α → β → α) : Member α :=
  ⟨name, fun place datum start =>
    match read datum with
    | .ok value => .ok (put start value)
    | .error difference => .error ⟨difference, place⟩⟩

/-- Read members in the order in which they come. -/
def readByName {α : Type} (known : List (Member α)) (start : α) :
    List (String × Nat × Datum) → Except Flaw α
  | [] => .ok start
  | (name, place, datum) :: rest =>
      match known.find? (·.name = name) with
      | some member => do readByName known (← member.read place datum start) rest
      | none => readByName known start rest

/-- Read members from a list of them in order; `length` is that of the list, `place` its place. -/
def readByOrder {α : Type} (origin : Origin) (length place : Nat) (start : α) :
    List (Member α) → List (Nat × Datum) → Except Flaw α
  | _, [] => .ok start
  | [], _ :: _ =>
      match origin with
      | .toml => .ok start
      | .json => .error ⟨.mismatch (.invalidLength length "fewer elements in array"), place⟩
  | member :: known, (itemPlace, datum) :: rest => do
      readByOrder origin length place (← member.read itemPlace datum start) known rest

/-- Read a structure, starting from its defaults. -/
def readStructure {α : Type} (origin : Origin) (wanted : String) (known : List (Member α))
    (start : α) (place : Nat) : Datum → Except Flaw α
  | .table members => readByName known start members
  | .list items | .tables items => readByOrder origin items.length place start known items
  | .moment => .ok start
  | datum => .error ⟨.mismatch (.invalidType datum.found wanted), place⟩

/-- The members of the listener. -/
def listenerMembers : List (Member Listener) :=
  [.of "bind_address" (readText "a string") fun l value => { l with bindAddress := value },
    .of "request_timeout_secs" (readCount "u64") fun l value => { l with requestTimeout := value },
    .of "max_body_size" (readCount "usize") fun l value => { l with bodyLimit := value }]

/-- The members of the observability. -/
def observabilityMembers (origin : Origin) : List (Member Observability) :=
  [.of "log_level" (readText "a string") fun o value => { o with logLevel := value },
    .of "log_format" (readFormat origin) fun o value => { o with logFormat := value },
    .of "metrics_enabled" readFlag fun o value => { o with metricsEnabled := value },
    .of "metrics_address" (readText "a string") fun o value => { o with metricsAddress := value }]

/-- The members of settings. -/
def members (origin : Origin) : List (Member Settings) :=
  [.of "config_path" (readText "path string") fun s value => { s with configPath := value },
    .of "secret_enabled" readFlag fun s value => { s with secretsEnforced := value },
    .of "context_path" (readText "a string") fun s value => { s with contextPath := value },
    ⟨"listener", fun place datum s =>
      (readStructure origin "struct ListenerConfig" listenerMembers .default place datum).map
        fun value => { s with listener := value }⟩,
    ⟨"observability", fun place datum s =>
      (readStructure origin "struct ObservabilityConfig" (observabilityMembers origin) .default
        place datum).map fun value => { s with observability := value }⟩]

/-- Read settings from data. -/
def ofDatum (origin : Origin) (datum : Datum) : Except Flaw Settings :=
  readStructure origin "struct GatewaySettings" (members origin) .default 0 datum

end Notary.Settings
