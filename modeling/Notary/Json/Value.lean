import Notary.Json.Tree

namespace Notary.Json

/-!
# Values

A JSON value by itself: what is left of a text when places and spellings are
forgotten. The members of an object keep their order, and a name may repeat.
A value is taken from a tree only as deep as a budget of containers allows.
-/

/-- A JSON value. -/
inductive Value where
  | null
  | bool (value : Bool)
  | number (value : Number)
  | string (value : String)
  | array (items : List Value)
  | object (members : List (String × Value))
deriving Repr

/-- The number of containers that may be open at once, one more than the deepest value has. -/
def depthLimit : Nat := 128

mutual

/-- The value of a tree, if its containers stay within `depth`. -/
def Tree.value (depth : Nat) : Tree → Except Fault Value
  | .null _ => .ok .null
  | .bool value _ => .ok (.bool value)
  | .number value _ => value.map .number
  | .string value _ => value.map .string
  | .array items span =>
      if depth ≤ 1 then .error ⟨.tooDeep, span.start + 1⟩
      else (valuesOf (depth - 1) items).map .array
  | .object members span =>
      if depth ≤ 1 then .error ⟨.tooDeep, span.start + 1⟩
      else (membersOf (depth - 1) members).map .object
  | .broken defect _ => .error defect.needed

/-- The values of items. -/
def valuesOf (depth : Nat) : List Tree → Except Fault (List Value)
  | [] => .ok []
  | item :: rest => do
      let value ← item.value depth
      return value :: (← valuesOf depth rest)

/-- The names and values of members. -/
def membersOf (depth : Nat) : List (Name × Tree) → Except Fault (List (String × Value))
  | [] => .ok []
  | (name, tree) :: rest => do
      let text ← name.text
      let value ← tree.value depth
      return (text, value) :: (← membersOf depth rest)

end

namespace Value

/-- Put a member among members sorted by name; a member of the same name is replaced. -/
def insertMember (name : String) (value : Value) :
    List (String × Value) → List (String × Value)
  | [] => [(name, value)]
  | (other, held) :: rest =>
      if name < other then (name, value) :: (other, held) :: rest
      else if name = other then (name, value) :: rest
      else (other, held) :: insertMember name value rest

mutual

/-- The value with all members sorted by name; of equal names the last one counts. -/
def sorted : Value → Value
  | array items => array (sortedItems items)
  | object members => object (sortedMembers [] members)
  | null => null
  | bool value => bool value
  | number value => number value
  | string value => string value

/-- Items with sorted members. -/
def sortedItems : List Value → List Value
  | [] => []
  | item :: rest => item.sorted :: sortedItems rest

/-- Members put in one by one among those in `done`. -/
def sortedMembers (done : List (String × Value)) :
    List (String × Value) → List (String × Value)
  | [] => done
  | (name, value) :: rest => sortedMembers (insertMember name value.sorted done) rest

end

mutual

/-- The value as a tree that no text belongs to: every place in it is zero. -/
def tree : Value → Tree
  | null => .null ⟨0, 0⟩
  | bool value => .bool value ⟨0, 0⟩
  | number value => .number (.ok value) ⟨0, 0⟩
  | string value => .string (.ok value) ⟨0, 0⟩
  | array items => .array (treeItems items) ⟨0, 0⟩
  | object members => .object (treeMembers members) ⟨0, 0⟩

/-- Items as trees. -/
def treeItems : List Value → List Tree
  | [] => []
  | item :: rest => item.tree :: treeItems rest

/-- Members as trees. -/
def treeMembers : List (String × Value) → List (Name × Tree)
  | [] => []
  | (name, value) :: rest => (⟨.ok name, none, 0⟩, value.tree) :: treeMembers rest

end

/-- The value of a member. -/
def get? (name : String) : Value → Option Value
  | object members => (members.find? (·.1 = name)).map (·.2)
  | _ => none

/-- A text, or null for an absent one. -/
def ofOption : Option String → Value
  | some text => string text
  | none => null

/-- A whole number. -/
def ofNat (n : Nat) : Value :=
  number (.whole n)

end Value

/-- Read a text as a value. -/
def readValue (text : List Text.Symbol) : Except Fault Value := do
  let reading := readTree text
  let value ← reading.root.value depthLimit
  match reading.trailing with
  | some fault => .error fault
  | none => return value

end Notary.Json
