import Notary.Config.Load
import Notary.Settings.Decode

namespace Notary.Settings

/-!
# Loading settings

A settings file becomes settings, or it is refused: because it cannot be read,
because its text is no TOML or holds something else, or because of what the
settings say.
-/

/-- Why settings are refused. -/
inductive LoadFault where
  | unreadable (fault : Config.ReadFault)
  | malformed (position : Toml.Position)
  | mismatched (difference : Difference) (position : Toml.Position)
  | invalid (problem : Problem)
deriving Repr, DecidableEq

namespace LoadFault

/-- The words that tell a position in a settings file. -/
def positionText (p : Toml.Position) : String :=
  "Parse error: TOML parse error at line " ++ toString p.line ++ ", column " ++ toString p.column

/-- The words for a refusal; of a defective text they tell the position only. -/
def message : LoadFault → String
  | unreadable fault => "IO error: " ++ fault.text
  | malformed position | mismatched _ position => positionText position
  | invalid problem => "Invalid settings: " ++ problem.text

end LoadFault

/-- Settings that can be used. -/
def checked (s : Settings) : Except LoadFault Settings :=
  match s.problem? with
  | some problem => .error (.invalid problem)
  | none => .ok s

/-- Read settings from a TOML text. -/
def ofText (text : List Char) : Except LoadFault Settings :=
  match Toml.readDocument text with
  | .error stop => .error (.malformed (.ofPlace text stop.left.length))
  | .ok table =>
      match ofDatum .toml (.table (Datum.ofEntries table)) with
      | .error flaw => .error (.mismatched flaw.difference (.ofPlace text flaw.place))
      | .ok settings => .ok settings

/-- Load settings from a file. -/
def load (file : Config.File) : Except LoadFault Settings :=
  match file.read with
  | .error fault => .error (.unreadable fault)
  | .ok text => (ofText text).bind checked

/-- Read settings from a JSON value, whose members are taken in order of their names. -/
def ofValue (value : Json.Value) : Except Flaw Settings :=
  ofDatum .json (.ofValue value.sorted)

end Notary.Settings
