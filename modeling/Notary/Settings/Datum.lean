import Notary.Json.Mismatch
import Notary.Toml.Document

namespace Notary.Settings

/-!
# Data that settings are read from

Settings come from a TOML document or from a JSON value. Both become data of one
kind, in which every item and member has a place in the text, zero where there
is no text.
-/

/-- What data comes from. -/
inductive Origin where
  | toml
  | json
deriving Repr, DecidableEq

/-- Data that settings are read from. -/
inductive Datum where
  | null
  | bool (value : Bool)
  | whole (value : Int)
  /-- A floating point number as it is shown. -/
  | floating (shown : String)
  | text (value : String)
  | moment
  | list (items : List (Nat × Datum))
  /-- Tables that share one header. -/
  | tables (items : List (Nat × Datum))
  | table (members : List (String × Nat × Datum))

namespace Datum

/-- What data is found to be. -/
def found : Datum → Json.Found
  | null => .null
  | bool value => .bool value
  | whole value => .number (.whole value)
  | floating shown => .floating shown
  | text value => .string value
  | list _ | tables _ => .sequence
  | moment | table _ => .map

mutual

/-- The data of a JSON value. -/
def ofValue : Json.Value → Datum
  | .null => .null
  | .bool value => .bool value
  | .number (.whole value) => .whole value
  | .number (.floating bits) => .floating (Json.Number.floating bits).text
  | .string value => .text value
  | .array items => .list (ofItems items)
  | .object members => .table (ofMembers members)

/-- The data of the items of an array. -/
def ofItems : List Json.Value → List (Nat × Datum)
  | [] => []
  | item :: rest => (0, ofValue item) :: ofItems rest

/-- The data of the members of an object. -/
def ofMembers : List (String × Json.Value) → List (String × Nat × Datum)
  | [] => []
  | (name, value) :: rest => (name, 0, ofValue value) :: ofMembers rest

end

/-- Numbers of a TOML text are shown positionally, however long that is. -/
def format : Decimal.Format := ⟨-400, 400, "inf", "NaN"⟩

/-- The data of a scalar. -/
def ofScalar : Toml.Scalar → Datum
  | .text value => .text value
  | .integer value => .whole value
  | .float bits => .floating (format.render bits)
  | .bool value => .bool value
  | .moment => .moment

/-- The place of a value, if the text has one for it. -/
def placeOf? : Toml.Node → Option Nat
  | .scalar place _ | .array place _ => some place
  | .table place _ _ => place
  | .tables (.table place _ _ :: _) => place
  | .tables _ => none

mutual

/-- The data of a TOML value. -/
def ofNode : Toml.Node → Datum
  | .scalar _ value => ofScalar value
  | .array _ items => .list (ofNodes items)
  | .table _ _ members => .table (ofEntries members)
  | .tables items => .tables (ofNodes items)

/-- The data of items. -/
def ofNodes : List Toml.Node → List (Nat × Datum)
  | [] => []
  | node :: rest => ((placeOf? node).getD 0, ofNode node) :: ofNodes rest

/-- The data of members; a value that has no place has that of its key. -/
def ofEntries : List (Toml.Key × Toml.Node) → List (String × Nat × Datum)
  | [] => []
  | (key, node) :: rest =>
      (key.name, (placeOf? node).getD key.place, ofNode node) :: ofEntries rest

end

end Datum

end Notary.Settings
