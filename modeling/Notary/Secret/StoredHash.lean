import Notary.Text.Base64
import Notary.Text.Digit

namespace Notary.Secret

/-!
# Stored hashes

The text of a stored hash: fields between dollar signs, which name the algorithm,
its version and parameters, and carry the salt and the digest. Reading a hash
checks its form only; whether it can be verified against is decided elsewhere.
-/

/-- What is wrong with the value of a parameter or with a salt. -/
inductive ValueFault where
  | character (c : Char)
  | malformed
  | format
  | short
  | long
deriving Repr, DecidableEq

namespace ValueFault

/-- The words for a fault. -/
def text : ValueFault → String
  | character c => "contains invalid character: '" ++ String.singleton c ++ "'"
  | malformed => "value malformed"
  | format => "value format is invalid"
  | short => "value to short"
  | long => "value to long"

end ValueFault

/-- Why a text is not a stored hash. -/
inductive HashFault where
  | missingField
  | parameterName
  | parameterValue (fault : ValueFault)
  | tooManyParameters
  | salt (fault : ValueFault)
  | shortOutput
  | encoding
  | encodingLength
  | trailing
deriving Repr, DecidableEq

/-- The smallest number of bytes in a digest. -/
def leastOutput : Nat := 10

/-- The largest number of bytes in a digest. -/
def greatestOutput : Nat := 64

namespace HashFault

/-- The words for a fault. -/
def text : HashFault → String
  | missingField => "password hash string missing field"
  | parameterName => "invalid parameter name"
  | parameterValue fault => "invalid parameter value: " ++ fault.text
  | tooManyParameters => "maximum number of parameters reached"
  | salt fault => "salt invalid: " ++ fault.text
  | shortOutput => "output size too short, expected at least " ++ toString leastOutput ++ " bytes"
  | encoding => "invalid Base64 encoding"
  | encodingLength => "invalid Base64 length"
  | trailing => "password hash string contains trailing characters"

/-- The message for a text that is not a stored hash. -/
def message (fault : HashFault) : String :=
  "invalid secret hash: " ++ fault.text

end HashFault

/-- A parameter of the algorithm, name and value. -/
structure Parameter where
  name : List Char
  value : List Char
deriving Repr, DecidableEq

/-- A stored hash. -/
structure StoredHash where
  algorithm : List Char
  version : Option Nat
  parameters : List Parameter
  /-- The salt as written, which is Base64 for every algorithm in use. -/
  salt : Option (List Char)
  output : Option (List UInt8)
deriving Repr, DecidableEq

/-- The number of bytes of a text. -/
def byteCount (cs : List Char) : Nat :=
  (String.ofList cs).utf8ByteSize

/-- Lower case letters, digits and hyphens. -/
def isNameChar (c : Char) : Bool :=
  ('a' ≤ c && c ≤ 'z') || c.isDigit || c == '-'

/-- Letters, digits and four marks. -/
def isValueChar (c : Char) : Bool :=
  c.isAlpha || c.isDigit || c == '/' || c == '+' || c == '.' || c == '-'

/-- Read the name of an algorithm or a parameter. -/
def readName (cs : List Char) : Except HashFault (List Char) :=
  if cs.isEmpty || 32 < byteCount cs || !cs.all isNameChar then .error .parameterName else .ok cs

/-- Check that a text holds characters of values only. -/
def checkCharacters (cs : List Char) : Except ValueFault (List Char) :=
  match cs.find? (fun c => !isValueChar c) with
  | some c => .error (.character c)
  | none => .ok cs

/-- Read the value of a parameter. -/
def readValue (cs : List Char) : Except ValueFault (List Char) :=
  if 64 < byteCount cs then .error .long else checkCharacters cs

/-- Read a decimal number of 32 bits without leading zeros. -/
def readDecimal (cs : List Char) : Except ValueFault Nat :=
  if cs.isEmpty then .error .malformed
  else
    match cs.find? (fun c => !c.isDigit) with
    | some c => .error (.character c)
    | none =>
        if cs.head? = some '0' ∧ 1 < cs.length then .error .format
        else
          let n := Text.decimalValue cs
          if n < Nat.pow 2 32 then .ok n else .error .format

/-- Read one parameter. -/
def readParameter (cs : List Char) : Except HashFault Parameter := do
  match cs.splitOn '=' with
  | [] => .error .parameterName
  | [name] =>
      let _ ← readName name
      .error (.parameterValue .malformed)
  | name :: value :: more =>
      let name ← readName name
      let value ← (readValue value).mapError .parameterValue
      if more.isEmpty then return ⟨name, value⟩ else .error (.parameterValue .malformed)

/-- Read a parameter list. -/
def readParameters (cs : List Char) : Except HashFault (List Parameter) :=
  if 127 < byteCount cs then .error .tooManyParameters
  else (cs.splitOn ',').mapM readParameter

/-- Read a salt. -/
def readSalt (cs : List Char) : Except HashFault (List Char) :=
  if byteCount cs < 4 then .error (.salt .short)
  else if 64 < byteCount cs then .error (.salt .long)
  else (checkCharacters cs).mapError .salt

/-- The number of bytes that Base64 of a length holds. -/
def decodedLength (digits : Nat) : Nat :=
  3 * (digits / 4) + 3 * (digits % 4) / 4

/-- Read a digest. -/
def readOutput (cs : List Char) : Except HashFault (List UInt8) :=
  if greatestOutput < decodedLength (byteCount cs) then .error .encodingLength
  else
    match Text.Base64.decodeUnpadded? cs with
    | none => .error .encoding
    | some bytes => if bytes.length < leastOutput then .error .shortOutput else .ok bytes

/-- The version in a field, if the field is one: it starts with `v=` and has no comma. -/
def versionField? : List Char → Option (List Char)
  | 'v' :: '=' :: digits => if digits.contains ',' then none else some digits
  | _ => none

/-- Read the salt, the digest and the end. -/
def readTail (h : StoredHash) : List (List Char) → Except HashFault StoredHash
  | [] => .ok h
  | [salt] => do return { h with salt := some (← readSalt salt) }
  | salt :: output :: more => do
      let salt ← readSalt salt
      let output ← readOutput output
      if more.isEmpty then return { h with salt := some salt, output := some output }
      else .error .trailing

/-- Read the parameters, if there are any, and what follows. -/
def readFromParameters (h : StoredHash) : List (List Char) → Except HashFault StoredHash
  | [] => .ok h
  | field :: rest =>
      if field.contains '=' then do
        readTail { h with parameters := ← readParameters field } rest
      else readTail h (field :: rest)

/-- Read the version, if there is one, and what follows. -/
def readFromVersion (h : StoredHash) : List (List Char) → Except HashFault StoredHash
  | [] => .ok h
  | field :: rest =>
      match versionField? field with
      | some digits => do
          let version ← ((readValue digits).bind readDecimal).mapError .parameterValue
          readFromParameters { h with version := some version } rest
      | none => readFromParameters h (field :: rest)

namespace StoredHash

/-- Read a stored hash from its characters. -/
def ofChars (cs : List Char) : Except HashFault StoredHash :=
  match cs.splitOn '$' with
  | [] :: algorithm :: rest => do
      readFromVersion ⟨← readName algorithm, none, [], none, none⟩ rest
  | _ => .error .missingField

/-- Read a stored hash. -/
def parse (s : String) : Except HashFault StoredHash :=
  ofChars s.toList

/-- The parameter list as written. -/
def parameterText (h : StoredHash) : List Char :=
  [','].intercalate (h.parameters.map fun p => p.name ++ '=' :: p.value)

/-- The fields of a stored hash after the algorithm. -/
def fields (h : StoredHash) : List (List Char) :=
  (h.version.toList.map fun n => 'v' :: '=' :: (toString n).toList) ++
    (if h.parameters.isEmpty then [] else [h.parameterText]) ++
    h.salt.toList ++ (h.output.toList.map Text.Base64.encodeUnpadded)

/-- The text of a stored hash. -/
def text (h : StoredHash) : String :=
  String.ofList ((h.algorithm :: h.fields).flatMap ('$' :: ·))

end StoredHash

end Notary.Secret
