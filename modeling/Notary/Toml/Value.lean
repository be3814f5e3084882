import Notary.Toml.Moment
import Notary.Toml.Node
import Notary.Toml.Number

namespace Notary.Toml

/-!
# Values

Values with their keys. Arrays may span lines, tables between braces may not. No
more than a fixed number of arrays and tables may stand inside each other.
-/

/-- A character of a key without quotes. -/
def isBareKey (c : Char) : Bool :=
  c.isAlphanum || c == '-' || c == '_'

/-- Whether a key starts here. -/
def startsKey (text : List Char) : Bool :=
  text.head?.any fun c => isBareKey c || (Style.ofQuote? c).isSome

/-- Read a key without dots. -/
def readSimpleKey (text : List Char) : Except Stop (Key × List Char) :=
  match text with
  | [] => stopAt []
  | c :: rest =>
      match Style.ofQuote? c with
      | some style =>
          (readQuoted style false rest).map fun (name, rest) => (⟨name, text.length⟩, rest)
      | none =>
          let name := text.takeWhile isBareKey
          if name.isEmpty then stopAt text
          else .ok (⟨String.ofList name, text.length⟩, text.drop name.length)

/-- Read the keys between dots, and the blanks around them; each uses up some `fuel`. -/
def readKeys (fuel : Nat) (text : List Char) : Except Stop (List Key × List Char) := do
  let (key, rest) ← readSimpleKey (skipBlanks text)
  let rest := skipBlanks rest
  match fuel, rest with
  | fuel + 1, '.' :: after =>
      if startsKey (skipBlanks after) then
        let (keys, rest) ← readKeys fuel after
        return (key :: keys, rest)
      else return ([key], rest)
  | _, _ => return ([key], rest)

/-- The number of containers that may stand inside each other, and of keys between dots. -/
def nestingLimit : Nat := 79

/-- A key with the path that leads to it. -/
structure DottedKey where
  path : List Key
  last : Key

/-- Read a key with the path in front of it. -/
def readKey (text : List Char) : Except Stop (DottedKey × List Char) := do
  let (keys, rest) ← readKeys text.length text
  match keys.getLast? with
  | some last =>
      if nestingLimit < keys.length then stopAt text
      else return (⟨keys.dropLast, last⟩, rest)
  | none => stopAt text

/-- A text without the word it starts with. -/
def afterWord? (word : String) (text : List Char) : Option (List Char) :=
  if word.toList.isPrefixOf text then some (text.drop word.length) else none

/-- Whether a sign is followed by a number. -/
def startsNumber : List Char → Bool
  | c :: rest =>
      c.isDigit || (afterWord? "inf" (c :: rest)).isSome || (afterWord? "nan" (c :: rest)).isSome
  | [] => false

/-- Whether a value starts here. -/
def startsValue (text : List Char) : Bool :=
  match text with
  | '+' :: rest => startsNumber rest
  | '-' :: rest => startsNumber rest
  | c :: _ =>
      startsNumber text || c == '[' || c == '\x7b' || c == 't' || c == 'f' ||
        (Style.ofQuote? c).isSome
  | [] => false

/-- Read a value that holds no others. -/
def readScalar? (text : List Char) : Except Stop (Scalar × List Char) :=
  match text with
  | [] => stopAt []
  | c :: rest =>
      match Style.ofQuote? c with
      | some style => (readQuoted style true rest).map fun (value, rest) => (.text value, rest)
      | none =>
          match afterWord? "true" text, afterWord? "false" text with
          | some rest, _ => .ok (.bool true, rest)
          | _, some rest => .ok (.bool false, rest)
          | none, none =>
              match readMoment? text with
              | some after => after.map fun rest => (.moment, rest)
              | none =>
                  (readNumber text).map fun (n, rest) =>
                    match n with
                    | .integer value => (.integer value, rest)
                    | .float bits => (.float bits, rest)

/-- Read the items of an array; each uses up some `fuel`. -/
def readItems (item : List Char → Except Stop (Node × List Char)) (fuel : Nat) (text : List Char) :
    Except Stop (List Node × List Char) := do
  let text ← readGap text.length text
  match fuel, text with
  | _, ']' :: rest => return ([], rest)
  | 0, _ => stopAt text
  | fuel + 1, _ =>
      if startsValue text then
        let (first, after) ← item text
        match readGap after.length after with
        | .ok (',' :: rest) => do
            let (others, rest) ← readItems item fuel rest
            return (first :: others, rest)
        | .ok (']' :: rest) => return ([first], rest)
        | .ok after => stopAt after
        | .error _ => stopAt text
      else stopAt text

/-- A member of a table between braces, as it is written. -/
structure Entry where
  key : DottedKey
  value : Node

/-- Read the members of a table between braces; each uses up some `fuel`. -/
def readEntries (item : List Char → Except Stop (Node × List Char)) (fuel : Nat)
    (text : List Char) : Except Stop (List Entry × List Char) := do
  match fuel with
  | 0 => stopAt text
  | fuel + 1 =>
      let (key, rest) ← readKey (skipBlanks text)
      let rest ← readMark '=' rest
      let (value, rest) ← item (skipBlanks rest)
      match skipBlanks rest with
      | '\x7d' :: rest => return ([⟨key, value⟩], rest)
      | ',' :: rest =>
          if startsKey (skipBlanks rest) then
            let (others, rest) ← readEntries item fuel rest
            return (⟨key, value⟩ :: others, rest)
          else stopAt (',' :: rest)
      | rest => stopAt rest

/-- Read a table between braces after the first of them. -/
def readBraces (item : List Char → Except Stop (Node × List Char)) (text : List Char) :
    Except Stop (Table × List Char) :=
  match skipBlanks text with
  | '\x7d' :: rest => .ok ([], rest)
  | inner =>
      if startsKey inner then do
        let (entries, rest) ← readEntries item text.length text
        match entries.foldlM (fun made e => assign? made e.key.path e.key.last e.value) [] with
        | some members => return (members, rest)
        | none => stopAt text
      else stopAt inner

/-- Read a value inside of which `depth` containers may stand. -/
def readValue (depth : Nat) (text : List Char) : Except Stop (Node × List Char) :=
  let place := text.length
  match depth, text with
  | 0, '[' :: _ => stopAt text
  | 0, '\x7b' :: _ => stopAt text
  | depth + 1, '[' :: rest => do
      let (items, rest) ← readItems (readValue depth) rest.length rest
      return (.array place items, rest)
  | depth + 1, '\x7b' :: rest => do
      let (members, rest) ← readBraces (readValue depth) rest
      return (.table (some place) .closed members, rest)
  | _, _ => (readScalar? text).map fun (value, rest) => (.scalar place value, rest)

end Notary.Toml
