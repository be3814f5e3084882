import Notary.Decimal.Nearest
import Notary.Toml.Quoted

namespace Notary.Toml

/-!
# Numbers

Integers of 64 bits in four bases, and floating point numbers. Single
underscores may stand between digits.
-/

/-- A number. -/
inductive Number where
  | integer (value : Int)
  | float (bits : UInt64)
deriving Repr, DecidableEq

/-- Read what follows a digit: more digits, each with an underscore before it or without. -/
def readMoreDigits (value? : Char → Option Nat) (fuel : Nat) (text : List Char) :
    Except Stop (List Nat × List Char) :=
  match fuel, text with
  | fuel + 1, '_' :: rest =>
      match rest.head?.bind value? with
      | some d => do
          let (ds, text) ← readMoreDigits value? fuel (rest.drop 1)
          return (d :: ds, text)
      | none => stopAt rest
  | fuel + 1, c :: rest =>
      match value? c with
      | some d => do
          let (ds, text) ← readMoreDigits value? fuel rest
          return (d :: ds, text)
      | none => .ok ([], text)
  | _, _ => .ok ([], text)

/-- Read digits, of which there is at least one. -/
def readDigits (value? : Char → Option Nat) (text : List Char) :
    Except Stop (List Nat × List Char) :=
  match text.head?.bind value? with
  | some d => do
      let (ds, rest) ← readMoreDigits value? text.length (text.drop 1)
      return (d :: ds, rest)
  | none => stopAt text

/-- Read the digits before a point: a zero alone, or digits that do not start with one. -/
def readWhole : List Char → Except Stop (List Nat × List Char)
  | '0' :: rest => .ok ([0], rest)
  | text => readDigits (Text.digit? 10) text

/-- Read the exponent after its letter. -/
def readExponent (text : List Char) : Except Stop (Int × List Char) := do
  let (negative, text) : Bool × List Char :=
    match text with
    | '-' :: rest => (true, rest)
    | '+' :: rest => (false, rest)
    | _ => (false, text)
  let (ds, text) ← readDigits (Text.digit? 10) text
  let value : Int := Text.valueOfDigits 10 ds
  return (if negative then -value else value, text)

/-- Read the exponent that may follow. -/
def readOptionalExponent : List Char → Except Stop (Int × List Char)
  | c :: rest => if c == 'e' || c == 'E' then readExponent rest else .ok (0, c :: rest)
  | [] => .ok (0, [])

/-- The base that the start of a number announces. -/
def baseOf? : List Char → Option Nat
  | '0' :: 'x' :: _ => some 16
  | '0' :: 'o' :: _ => some 8
  | '0' :: 'b' :: _ => some 2
  | _ => none

/-- An integer, if it has no more than 64 bits. -/
def integer? (value : Int) : Option Number :=
  let limit : Int := Nat.pow 2 63
  if -limit ≤ value && value < limit then some (.integer value) else none

/-- A floating point number, unless it is too large; one that is too small counts as infinite. -/
def float? (negative : Bool) (digits : List Nat) (exponent : Int) : Option Number :=
  let f := Decimal.nearest digits exponent
  if f.isInf && !negative then none else some (.float (if negative then -f else f).toBits)

/-- Read a decimal number after its sign. -/
def readDecimal (negative : Bool) (text : List Char) : Except Stop (Option Number × List Char) := do
  let (whole, text) ← readWhole text
  match text with
  | '.' :: rest => do
      let (fraction, text) ← readDigits (Text.digit? 10) rest
      let (exponent, text) ← readOptionalExponent text
      return (float? negative (whole ++ fraction) (exponent - fraction.length), text)
  | c :: rest =>
      if c == 'e' || c == 'E' then
        let (exponent, text) ← readExponent rest
        return (float? negative whole exponent, text)
      else
        let value : Int := Text.valueOfDigits 10 whole
        return (integer? (if negative then -value else value), text)
  | [] =>
      let value : Int := Text.valueOfDigits 10 whole
      return (integer? (if negative then -value else value), [])

/-- The bits of infinity and of a number that is none, with a sign. -/
def specialBits (negative undefined : Bool) : UInt64 :=
  (if negative then 0x8000000000000000 else 0) |||
    (if undefined then 0x7FF8000000000000 else 0x7FF0000000000000)

/-- Read a number; one that is out of range is a defect where it starts. -/
def readNumber (text : List Char) : Except Stop (Number × List Char) := do
  let (negative, body) : Bool × List Char :=
    match text with
    | '-' :: rest => (true, rest)
    | '+' :: rest => (false, rest)
    | _ => (false, text)
  let inRange (n : Option Number) (rest : List Char) : Except Stop (Number × List Char) :=
    match n with
    | some n => .ok (n, rest)
    | none => stopAt text
  match body with
  | 'i' :: 'n' :: 'f' :: rest => return (.float (specialBits negative false), rest)
  | 'n' :: 'a' :: 'n' :: rest => return (.float (specialBits negative true), rest)
  | _ =>
      match baseOf? text with
      | some base => do
          let (ds, rest) ← readDigits (Text.digit? base) (text.drop 2)
          inRange (integer? (Text.valueOfDigits base ds)) rest
      | none => do
          let (n, rest) ← readDecimal negative body
          inRange n rest

end Notary.Toml
