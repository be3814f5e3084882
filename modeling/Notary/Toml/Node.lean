import Notary.Toml.Scan

namespace Notary.Toml

/-!
# Tables under construction

A text defines tables piece by piece. What may still be added to a table depends
on how the table came to be. A place is the number of characters that are left of
the text there.
-/

/-- A key and its place. -/
structure Key where
  name : String
  place : Nat
deriving Repr, DecidableEq

/-- A value that holds no other values. -/
inductive Scalar where
  | text (value : String)
  | integer (value : Int)
  | float (bits : UInt64)
  | bool (value : Bool)
  | moment
deriving Repr, DecidableEq

/-- How a table came to be. -/
inductive Standing where
  /-- By a header of its own. -/
  | given
  /-- By the header of a table inside it. -/
  | implied
  /-- By a key with dots. -/
  | dotted
  /-- Between braces, which leave nothing to add. -/
  | closed
deriving Repr, DecidableEq

/-- A value, with its place if the text has one for it. -/
inductive Node where
  | scalar (place : Nat) (scalar : Scalar)
  | array (place : Nat) (items : List Node)
  | table (place : Option Nat) (standing : Standing) (members : List (Key × Node))
  /-- Tables that share one header, which are defined one after another. -/
  | tables (items : List Node)

/-- The members of a table in the order of their definition. -/
abbrev Table := List (Key × Node)

namespace Table

/-- The value under a name. -/
def find? (name : String) (t : Table) : Option Node :=
  (List.find? (fun member => member.1.name = name) t).map (·.2)

/-- Add a member whose name is new. -/
def add? (key : Key) (value : Node) (t : Table) : Option Table :=
  match t.find? key.name with
  | some _ => none
  | none => some (t ++ [(key, value)])

/-- Put another value in the place of the one under a name. -/
def replace (name : String) (value : Node) (t : Table) : Table :=
  t.map fun (key, old) => if key.name = name then (key, value) else (key, old)

/-- Take away what is under a name. -/
def remove (name : String) (t : Table) : Table :=
  t.filter fun (key, _) => key.name ≠ name

end Table

/-- A change of a table that also yields something, unless the table does not allow it. -/
abbrev Change (α : Type) := Standing → Table → Option (α × Table)

/-- A table inside a table, or the last of several, by what may be put around its members again. -/
def Node.enter? : Node → Option (Standing × Table × (Table → Node))
  | .table place standing members =>
      if standing = .closed then none
      else some (standing, members, fun changed => .table place standing changed)
  | .tables items =>
      match items.getLast? with
      | some (.table place standing members) =>
          some (standing, members, fun changed =>
            .tables (items.dropLast ++ [.table place standing changed]))
      | _ => none
  | _ => none

/-- Whether a path that makes tables of the given standing may pass through a value. -/
def Node.passable (made : Standing) : Node → Bool
  | .table _ standing _ => !(made = .dotted && standing = .given)
  | _ => true

/--
Change the table that a path of keys leads to. Tables that are missing on the
way are made, with the given standing.
-/
def changeAt {α : Type} (made : Standing) (change : Change α) (standing : Standing)
    (members : Table) : List Key → Option (α × Table)
  | [] => change standing members
  | key :: path =>
      match members.find? key.name with
      | none => do
          let (yielded, inner) ← changeAt made change made [] path
          return (yielded, members ++ [(key, .table none made inner)])
      | some node =>
          if node.passable made then do
            let (standing, inner, close) ← node.enter?
            let (yielded, changed) ← changeAt made change standing inner path
            return (yielded, members.replace key.name (close changed))
          else none

/-- Define a member; a path in front of its key leads through tables that keys with dots made. -/
def assign? (made : Table) (path : List Key) (key : Key) (value : Node) : Option Table :=
  let change : Change Unit := fun standing members =>
    if !path.isEmpty && standing ≠ .dotted then none
    else (members.add? key value).map fun changed => ((), changed)
  (changeAt .dotted change .given made path).map (·.2)

/-- What the header of a table starts: a table with a place, and the members it has already. -/
structure Section where
  path : List Key
  key : Key
  /-- Whether the table is one of several with the same header. -/
  repeated : Bool
  place : Nat
  members : Table

/-- The tables defined so far: all that is complete, and the section that is not. -/
structure Draft where
  complete : Table
  current : Option Section

namespace Draft

/-- Nothing defined. -/
def empty : Draft := ⟨[], none⟩

/-- Put a section into the table that it belongs to. -/
def putSection (s : Section) : Change Unit := fun _ members =>
  let table : Node := .table (some s.place) .given s.members
  if s.repeated then
    match members.find? s.key.name with
    | some (.tables items) => some ((), members.replace s.key.name (.tables (items ++ [table])))
    | some _ => none
    | none => some ((), members ++ [(s.key, .tables [table])])
  else (members.add? s.key table).map fun changed => ((), changed)

/-- Complete the section. -/
def finish? (d : Draft) : Option Table :=
  match d.current with
  | none => some d.complete
  | some s => (changeAt .implied (putSection s) .given d.complete s.path).map (·.2)

/-- Define a member in the section, or outside of all of them. -/
def assign? (d : Draft) (path : List Key) (key : Key) (value : Node) : Option Draft :=
  match d.current with
  | none => (Toml.assign? d.complete path key value).map fun changed => ⟨changed, none⟩
  | some s =>
      (Toml.assign? s.members path key value).map fun changed =>
        { d with current := some { s with members := changed } }

/-- Take the members that a table has when its header comes: those that other headers implied. -/
def takeImplied (key : Key) : Change Table := fun _ members =>
  match members.find? key.name with
  | none => some ([], members)
  | some (.table _ .implied inner) => some (inner, members.remove key.name)
  | some _ => none

/-- Make sure that there are tables of a repeated header, or that there may be. -/
def allowRepeated (key : Key) : Change Table := fun _ members =>
  match members.find? key.name with
  | none => some ([], members ++ [(key, .tables [])])
  | some (.tables _) => some ([], members)
  | some _ => none

/-- Complete the section and start the next one. -/
def start? (d : Draft) (path : List Key) (key : Key) (repeated : Bool) (place : Nat) :
    Option Draft := do
  let complete ← d.finish?
  let change := if repeated then allowRepeated key else takeImplied key
  let (members, complete) ← changeAt .implied change .given complete path
  return ⟨complete, some ⟨path, key, repeated, place, members⟩⟩

end Draft

end Notary.Toml
