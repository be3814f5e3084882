import Notary.Json.Mismatch

namespace Notary.Json

/-!
# Reading the members of an object

An object is read member by member, in the order of the text. A known name is
read at once and may not repeat; what becomes of other members is up to the
reader, which either skips them or keeps their values.
-/

/-- The members of an object: the known ones as read, and the values kept of others. -/
structure Members (α : Type) where
  known : List (String × α)
  foreign : List (String × Value)

namespace Members

/-- Put a known member in front. -/
def pushKnown {α : Type} (name : String) (content : α) (m : Members α) : Members α :=
  ⟨(name, content) :: m.known, m.foreign⟩

/-- Put another member in front, if its value is kept. -/
def pushForeign {α : Type} (name : String) (kept : Option Value) (m : Members α) : Members α :=
  ⟨m.known, (kept.map fun value => (name, value)).toList ++ m.foreign⟩

end Members

/-- What a known member holds. -/
def lookup? {α : Type} (name : String) (known : List (String × α)) : Option α :=
  (known.find? (·.1 = name)).map (·.2)

/-- Skip the value of a member. -/
def skipValue (tree : Tree) : Except Flaw (Option Value) :=
  tree.pass.map fun _ => none

/-- Keep the value of a member, whose containers stay within `depth`. -/
def keepValue (depth : Nat) (tree : Tree) : Except Flaw (Option Value) :=
  ((tree.value depth).map some).mapError .ofFault

/--
Read members in order. `read` tells how a known name is read, `keep` what
becomes of the other members, and `seen` holds the known names met so far.
-/
def readMembers {α : Type}
    (read : String → Option (Tree → Except Flaw α))
    (keep : Tree → Except Flaw (Option Value)) :
    (seen : List String) → List (Name × Tree) → Except Flaw (Members α)
  | _, [] => .ok ⟨[], []⟩
  | seen, (name, tree) :: rest => do
      let text ← name.text.mapError .ofFault
      match read text with
      | some reader =>
          if text ∈ seen then .error (.ofMismatch (.repeatedMember text) name.after)
          else
            let content ← reader tree
            return (← readMembers read keep (text :: seen) rest).pushKnown text content
      | none =>
          let kept ← keep tree
          return (← readMembers read keep seen rest).pushForeign text kept

/-- Read kept members that are known by `read`, in order, and pass over the others. -/
def pickMembers {α : Type}
    (read : String → Option (Value → Except Mismatch α)) :
    (seen : List String) → List (String × Value) → Except Mismatch (List (String × α))
  | _, [] => .ok []
  | seen, (name, value) :: rest =>
      match read name with
      | some reader =>
          if name ∈ seen then .error (.repeatedMember name)
          else do
            let content ← reader value
            return (name, content) :: (← pickMembers read (name :: seen) rest)
      | none => pickMembers read seen rest

/-- Where typed data comes from: a text, or a value that is no text any more. -/
inductive Source where
  | text
  | value
deriving Repr, DecidableEq

/-- The flaw of an array with more items than wanted: `extra` is the first one too many. -/
def excessItem (source : Source) (length : Nat) (extra : Tree) : Flaw :=
  let trailing (start : Nat) : Flaw := ⟨.fault .trailingText, start + 1⟩
  match source with
  | .value => .ofMismatch (.invalidLength length "fewer elements in array") 0
  | .text =>
      match extra with
      | .null span | .bool _ span | .number _ span | .string _ span | .array _ span
      | .object _ span => trailing span.start
      | .broken defect start =>
          match defect.needed.code with
          | .endInList | .trailingComma => .ofFault defect.needed
          | .endInValue =>
              if defect.needed.offset = start then ⟨.fault .trailingText, start⟩ else trailing start
          | _ => trailing start

end Notary.Json
