import Notary.Json.Token

namespace Notary.Json

/-!
# Reading a JSON text as a tree

A text is read as far as its first defect, and the defect becomes a leaf of the
tree. Whoever walks the tree from left to right therefore meets, first of all
things that are wrong with the text, the first one: a value of the wrong type
before a comma that is missing later on, or the other way round.

The tree is built by a machine over the tokens. Its state is the stack of
containers that are open, and what the grammar expects next.
-/

/-- The bytes before a value's start and before its end. -/
structure Span where
  start : Nat
  stop : Nat
deriving Repr, DecidableEq

/--
The name of a member: its text, the defect met when the member is skipped (if
the name is not even a string), and the bytes before what follows the name.
-/
structure Name where
  text : Except Fault String
  skipped : Option Fault
  after : Nat

/-- A JSON value as it stands in a text. -/
inductive Tree where
  | null (span : Span)
  | bool (value : Bool) (span : Span)
  | number (value : Except Fault Number) (span : Span)
  | string (value : Except Fault String) (span : Span)
  | array (items : List Tree) (span : Span)
  | object (members : List (Name × Tree)) (span : Span)
  /-- The place where the text is defective, with the bytes before the defective token. -/
  | broken (defect : Defect) (start : Nat)

/-- A container that is still open, its contents last first. -/
inductive Frame where
  | array (start : Nat) (items : List Tree)
  | object (start : Nat) (members : List (Name × Tree)) (name : Option Name)

/-- What the grammar expects next. -/
inductive Expect where
  /-- The value that is the whole text. -/
  | document
  /-- The first item of an array, or its end. -/
  | firstItem
  /-- An item after a comma. -/
  | nextItem
  /-- A comma or the end of the array. -/
  | itemEnd
  /-- The first name of an object, or its end. -/
  | firstName
  /-- A name after a comma. -/
  | nextName
  /-- The colon after a name. -/
  | colon
  /-- The value of a member. -/
  | memberValue
  /-- A comma or the end of the object. -/
  | memberEnd
deriving Repr, DecidableEq

/-- A text read as a tree, and the defect after the tree, if any. -/
structure Reading where
  root : Tree
  trailing : Option Fault

/-- Put a value into a container: the last item, or the value of the member named last. -/
def Frame.put (value : Tree) : Frame → Frame
  | .array start items => .array start (value :: items)
  | .object start members (some name) => .object start ((name, value) :: members) none
  | .object start members none => .object start members none

/-- The value that a container makes when it ends at `stop`. -/
def Frame.close (stop : Nat) : Frame → Tree
  | .array start items => .array items.reverse ⟨start, stop⟩
  | .object start members _ => .object members.reverse ⟨start, stop⟩

/-- What is expected after a value in a container. -/
def Frame.afterValue : Frame → Expect
  | .array _ _ => .itemEnd
  | .object _ _ _ => .memberEnd

/-- Close all open containers around a value. -/
def closeAll (value : Tree) : List Frame → Tree
  | [] => value
  | frame :: rest => closeAll ((frame.put value).close 0) rest

/-- Break the text off with a defect in the place of a value. -/
def breakValue (defect : Defect) (start : Nat) (stack : List Frame) : Reading :=
  ⟨closeAll (.broken defect start) stack, none⟩

/-- Break the text off with a defect in the place of a name. -/
def breakName (defect : Defect) (start : Nat) : List Frame → Reading
  | .object opened members _ :: rest =>
      let name : Name := ⟨.error defect.needed, some defect.skipped, 0⟩
      breakValue defect start (.object opened members (some name) :: rest)
  | stack => breakValue defect start stack

/-- The defect of a text that ends while `expect` is expected. -/
def Expect.atEnd (offset : Nat) : Expect → Defect
  | .document | .nextItem | .memberValue => .both .endInValue offset
  | .firstItem | .itemEnd => .both .endInList offset
  | .firstName | .colon | .memberEnd => .both .endInObject offset
  | .nextName => ⟨⟨.endInValue, offset⟩, ⟨.endInObject, offset⟩⟩

/-- The defect of a token before `offset` that is not what `expect` calls for. -/
def Expect.mismatch (token : Token) (offset : Nat) : Expect → Defect
  | .document | .firstItem | .memberValue => .both .valueExpected offset
  | .nextItem =>
      match token with
      | .closeArray => ⟨⟨.trailingComma, offset⟩, ⟨.valueExpected, offset⟩⟩
      | _ => .both .valueExpected offset
  | .itemEnd => .both .listCommaExpected offset
  | .firstName => .both .nameExpected offset
  | .nextName =>
      match token with
      | .closeObject => ⟨⟨.trailingComma, offset⟩, ⟨.nameExpected, offset⟩⟩
      | _ => .both .nameExpected offset
  | .colon => .both .colonExpected offset
  | .memberEnd => .both .objectCommaExpected offset

/-- Whether a value may stand where `expect` is expected. -/
def Expect.isValue : Expect → Bool
  | .document | .firstItem | .nextItem | .memberValue => true
  | _ => false

/-- Whether a name may stand where `expect` is expected. -/
def Expect.isName : Expect → Bool
  | .firstName | .nextName => true
  | _ => false

/-- The value of a token that is a value by itself. -/
def Lexeme.scalar? (l : Lexeme) : Option Tree :=
  match l.token with
  | .null => some (.null ⟨l.start, l.stop⟩)
  | .bool value => some (.bool value ⟨l.start, l.stop⟩)
  | .number value => some (.number value ⟨l.start, l.stop⟩)
  | .string value => some (.string value ⟨l.start, l.stop⟩)
  | _ => none

/-- Name the next member of the innermost object. -/
def nameMember (text : Except Fault String) : List Frame → List Frame
  | .object start members _ :: rest => .object start members (some ⟨text, none, 0⟩) :: rest
  | stack => stack

/-- Note in the name read last how many bytes precede what follows it. -/
def noteAfter (after : Nat) : List Frame → List Frame
  | .object start members (some name) :: rest =>
      .object start members (some ⟨name.text, name.skipped, after⟩) :: rest
  | stack => stack

/-- The bytes up to where reading stops when the token is looked for after a name. -/
def Lexeme.afterName (l : Lexeme) : Nat :=
  match l.token with
  | .closeObject => l.stop
  | _ => l.start

/-- How the machine goes on after a token. -/
inductive Move where
  | go (stack : List Frame) (expect : Expect)
  | finish (root : Tree)
  | stop (reading : Reading)

/-- Hand a complete value to the innermost open container. -/
def deliver (value : Tree) : List Frame → Move
  | [] => .finish value
  | frame :: rest => .go (frame.put value :: rest) frame.afterValue

/-- Close the innermost container at `stop`. -/
def closeTop (stop : Nat) : List Frame → Move
  | [] => .stop (breakValue (.both .valueExpected stop) stop [])
  | frame :: rest => deliver (frame.close stop) rest

/-- Break off at a token that is not what is expected. -/
def refuse (l : Lexeme) (expect : Expect) (stack : List Frame) : Move :=
  let defect :=
    match l.token with
    | .endOfText => expect.atEnd l.start
    | _ => expect.mismatch l.token (l.start + 1)
  if expect = .itemEnd || expect = .colon || expect.isValue then
    .stop (breakValue defect l.start stack)
  else .stop (breakName defect l.start stack)

/-- One token. -/
def move (l : Lexeme) (expect : Expect) (stack : List Frame) : Move :=
  match expect, l.token with
  | .firstItem, .closeArray => closeTop l.stop stack
  | .itemEnd, .closeArray => closeTop l.stop stack
  | .firstName, .closeObject => closeTop l.stop stack
  | .memberEnd, .closeObject => closeTop l.stop stack
  | .itemEnd, .comma => .go stack .nextItem
  | .memberEnd, .comma => .go stack .nextName
  | .colon, .colon => .go (noteAfter l.start stack) .memberValue
  | .colon, _ => refuse l expect (noteAfter l.afterName stack)
  | _, .openArray =>
      if expect.isValue then .go (.array l.start [] :: stack) .firstItem
      else refuse l expect stack
  | _, .openObject =>
      if expect.isValue then .go (.object l.start [] none :: stack) .firstName
      else refuse l expect stack
  | _, .brokenValue defect =>
      if expect.isValue then .stop (breakValue defect l.start stack) else refuse l expect stack
  | _, .brokenString defect =>
      if expect.isValue then .stop (breakValue defect l.start stack)
      else if expect.isName then .stop (breakName defect l.start stack)
      else refuse l expect stack
  | _, .string text =>
      if expect.isName then .go (nameMember text stack) .colon
      else if expect.isValue then deliver (.string text ⟨l.start, l.stop⟩) stack
      else refuse l expect stack
  | _, _ =>
      match l.scalar? with
      | some value => if expect.isValue then deliver value stack else refuse l expect stack
      | none => refuse l expect stack

/-- The defect of tokens after the value that is the whole text. -/
def trailing? : List Lexeme → Option Fault
  | ⟨.endOfText, _, _⟩ :: _ | [] => none
  | l :: _ => some ⟨.trailingText, l.start + 1⟩

/-- Run the machine over tokens. -/
def build (stack : List Frame) (expect : Expect) : List Lexeme → Reading
  | [] => breakValue (expect.atEnd 0) 0 stack
  | l :: rest =>
      match move l expect stack with
      | .go stack expect => build stack expect rest
      | .finish root => ⟨root, trailing? rest⟩
      | .stop reading => reading

/-- Read a text as a tree. -/
def readTree (text : List Text.Symbol) : Reading :=
  build [] .document (lexemes text)

mutual

/-- The defect met when a value is skipped. -/
def Tree.skip : Tree → Option Fault
  | .null _ | .bool _ _ | .number _ _ | .string _ _ => none
  | .array items _ => skipItems items
  | .object members _ => skipMembers members
  | .broken defect _ => some defect.skipped

/-- The defect met when items are skipped. -/
def skipItems : List Tree → Option Fault
  | [] => none
  | item :: rest => item.skip <|> skipItems rest

/-- The defect met when members are skipped. -/
def skipMembers : List (Name × Tree) → Option Fault
  | [] => none
  | (name, value) :: rest => name.skipped <|> value.skip <|> skipMembers rest

end

end Notary.Json
