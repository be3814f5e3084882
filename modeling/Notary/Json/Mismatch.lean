import Notary.Json.Value
import Notary.Text.Quoted

namespace Notary.Json

/-!
# Values of the wrong shape

Reading typed data from a JSON text can fail in two ways: the text is defective,
or it holds something else than what is wanted. Either way the flaw has a place
in the text.
-/

/-- What is found where something else is wanted. -/
inductive Found where
  | bool (value : Bool)
  | number (value : Number)
  /-- A floating point number as it is shown. -/
  | floating (shown : String)
  | string (value : String)
  | null
  | sequence
  | map
deriving Repr, DecidableEq

/-- The words for what is found. -/
def Found.text : Found → String
  | bool value => "boolean \x60" ++ (if value then "true" else "false") ++ "\x60"
  | number (.whole value) => "integer \x60" ++ toString value ++ "\x60"
  | number (.floating bits) => "floating point \x60" ++ (Number.floating bits).text ++ "\x60"
  | floating shown => "floating point \x60" ++ shown ++ "\x60"
  | string value => "string " ++ Text.quoted value
  | null => "null"
  | sequence => "sequence"
  | map => "map"

/-- What a value is found to be. -/
def Value.found : Value → Found
  | .null => .null
  | .bool value => .bool value
  | .number value => .number value
  | .string value => .string value
  | .array _ => .sequence
  | .object _ => .map

/-- How a value differs from what is wanted. -/
inductive Mismatch where
  | invalidType (found : Found) (wanted : String)
  | invalidValue (found : Found) (wanted : String)
  | invalidLength (length : Nat) (wanted : String)
  | unknownVariant (name : String) (known : List String)
  | missingMember (name : String)
  | repeatedMember (name : String)
deriving Repr, DecidableEq

/-- A name between backquotes. -/
def backquoted (name : String) : String :=
  "\x60" ++ name ++ "\x60"

/-- The words for a choice of names. -/
def choiceText : List String → String
  | [] => "there are no variants"
  | [only] => "expected " ++ backquoted only
  | [first, second] => "expected " ++ backquoted first ++ " or " ++ backquoted second
  | names => "expected one of " ++ ", ".intercalate (names.map backquoted)

/-- The message for a mismatch. -/
def Mismatch.text : Mismatch → String
  | invalidType found wanted => "invalid type: " ++ found.text ++ ", expected " ++ wanted
  | invalidValue found wanted => "invalid value: " ++ found.text ++ ", expected " ++ wanted
  | invalidLength length wanted =>
      "invalid length " ++ toString length ++ ", expected " ++ wanted
  | unknownVariant name known =>
      "unknown variant " ++ backquoted name ++ ", " ++ choiceText known
  | missingMember name => "missing field " ++ backquoted name
  | repeatedMember name => "duplicate field " ++ backquoted name

/-- What is wrong with a text from which typed data is read. -/
inductive Cause where
  | fault (code : FaultCode)
  | mismatch (mismatch : Mismatch)
deriving Repr, DecidableEq

/-- The words for a cause. -/
def Cause.text : Cause → String
  | fault code => code.text
  | mismatch m => m.text

/-- A cause and the number of bytes before its place. -/
structure Flaw where
  cause : Cause
  offset : Nat
deriving Repr, DecidableEq

namespace Flaw

/-- A defect of the text as a flaw. -/
def ofFault (f : Fault) : Flaw :=
  ⟨.fault f.code, f.offset⟩

/-- A mismatch at a place. -/
def ofMismatch (m : Mismatch) (offset : Nat) : Flaw :=
  ⟨.mismatch m, offset⟩

/-- The words for a flaw with its line and column in the text. -/
def located (text : List Text.Symbol) (f : Flaw) : String :=
  f.cause.text ++ (Position.ofOffset text f.offset).suffix

end Flaw

/-- Refuse a tree that is not what is wanted, or that the text breaks off in. -/
def Tree.refuse {α : Type} (wanted : String) : Tree → Except Flaw α
  | .null span => .error (.ofMismatch (.invalidType .null wanted) span.stop)
  | .bool value span => .error (.ofMismatch (.invalidType (.bool value) wanted) span.stop)
  | .number (.ok value) span =>
      .error (.ofMismatch (.invalidType (.number value) wanted) span.stop)
  | .string (.ok value) span =>
      .error (.ofMismatch (.invalidType (.string value) wanted) span.stop)
  | .number (.error fault) _ | .string (.error fault) _ => .error (.ofFault fault)
  | .array _ span => .error (.ofMismatch (.invalidType .sequence wanted) span.start)
  | .object _ span => .error (.ofMismatch (.invalidType .map wanted) span.start)
  | .broken defect _ => .error (.ofFault defect.needed)

/-- Skip a tree. -/
def Tree.pass (tree : Tree) : Except Flaw Unit :=
  match tree.skip with
  | some fault => .error (.ofFault fault)
  | none => .ok ()

/-- The words for a text where one is wanted. -/
def wantedString : String := "a string"

/-- The words for an array where one is wanted. -/
def wantedSequence : String := "a sequence"

/-- Read a text. -/
def Tree.asString : Tree → Except Flaw String
  | .string (.ok value) _ => .ok value
  | tree => tree.refuse wantedString

/-- Read a text that may be null. -/
def Tree.asOptionalString : Tree → Except Flaw (Option String)
  | .null _ => .ok none
  | tree => tree.asString.map some

/-- Read a text from a value. -/
def Value.asString : Value → Except Mismatch String
  | .string value => .ok value
  | value => .error (.invalidType value.found wantedString)

/-- Read a text that may be null from a value. -/
def Value.asOptionalString : Value → Except Mismatch (Option String)
  | .null => .ok none
  | value => value.asString.map some

end Notary.Json
