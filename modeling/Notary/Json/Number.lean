import Notary.Json.Fault
import Notary.Decimal.Shortest
import Notary.Text.Digit

namespace Notary.Json

/-!
# Numbers in a JSON text

A number is read in two steps. `scanNumber` finds where its spelling ends, or
the defect in it; `Spelling.value` turns a spelling into a number. Whole numbers
of 64 bits are kept exactly, all others become floating point numbers, and a
number beyond the largest of those is a defect of its own. A value that is only
skipped goes through the first step alone.
-/

/-- A number: a whole one, or the bits of a floating point one. -/
inductive Number where
  | whole (value : Int)
  | floating (bits : UInt64)
deriving Repr, DecidableEq

namespace Number

/-- Numbers are written positionally from 10⁻⁵ up to 10¹⁶. -/
def format : Decimal.Format := ⟨-4, 16, "inf", "NaN"⟩

/-- The text of a number. -/
def text : Number → String
  | whole value => toString value
  | floating bits => format.render bits

end Number

/-- The value of a symbol that is a digit in a base. -/
def digitValue? (base : Nat) : Text.Symbol → Option Nat
  | .char c => Text.digit? base c
  | .stray _ => none

/-- The values of the digits that a text starts with. -/
def digitRun : List Text.Symbol → List Nat
  | [] => []
  | symbol :: rest =>
      match digitValue? 10 symbol with
      | some d => d :: digitRun rest
      | none => []

/-- The parts of a number's spelling; a fraction is absent when it has no digits. -/
structure Spelling where
  negative : Bool
  whole : List Nat
  fraction : List Nat
  /-- Whether the exponent is negative, and its digits. -/
  exponent : Option (Bool × List Nat)
deriving Repr, DecidableEq

/-- The defects of a value: when it is needed, and when it is only skipped. -/
structure Defect where
  needed : Fault
  skipped : Fault
deriving Repr, DecidableEq

/-- A defect that does not depend on whether the value is needed. -/
def Defect.both (code : FaultCode) (offset : Nat) : Defect :=
  ⟨⟨code, offset⟩, ⟨code, offset⟩⟩

/-- A spelling that ends too early: skipping it finds a bad number, not the end of the text. -/
def Defect.cutNumber (offset : Nat) : Defect :=
  ⟨⟨.endInValue, offset⟩, ⟨.badNumber, offset⟩⟩

/-- Whether a symbol is the given character. -/
def isChar (c : Char) (symbol : Text.Symbol) : Bool :=
  symbol = .char c

/--
Read the exponent that may follow at `offset`, and give it with the number of
symbols that it takes.
-/
def scanExponent (offset : Nat) (text : List Text.Symbol) :
    Except Defect (Option (Bool × List Nat) × Nat) :=
  match text with
  | mark :: rest =>
      if isChar 'e' mark || isChar 'E' mark then
        let (negative, signs) :=
          match rest with
          | sign :: _ =>
              if isChar '-' sign then (true, 1)
              else if isChar '+' sign then (false, 1)
              else (false, 0)
          | [] => (false, 0)
        let body := rest.drop signs
        match digitRun body with
        | [] =>
            if body.isEmpty then .error (.cutNumber (offset + 1 + signs))
            else .error (.both .badNumber (offset + 2 + signs))
        | digits => .ok (some (negative, digits), 1 + signs + digits.length)
      else .ok (none, 0)
  | [] => .ok (none, 0)

/--
Read the fraction that may follow at `offset`, and give it with the number of
symbols that it takes.
-/
def scanFraction (offset : Nat) (text : List Text.Symbol) :
    Except Defect (List Nat × Nat) :=
  match text with
  | mark :: rest =>
      if isChar '.' mark then
        match digitRun rest with
        | [] =>
            if rest.isEmpty then .error (.cutNumber (offset + 1))
            else .error (.both .badNumber (offset + 2))
        | digits => .ok (digits, 1 + digits.length)
      else .ok ([], 0)
  | [] => .ok ([], 0)

/-- Read the digits before the point: a zero alone, or digits that do not start with one. -/
def scanWhole (offset : Nat) (text : List Text.Symbol) :
    Except Defect (List Nat) :=
  match digitRun text with
  | [] =>
      if text.isEmpty then .error (.cutNumber offset)
      else .error (.both .badNumber (offset + 1))
  | 0 :: _ :: _ => .error (.both .badNumber (offset + 2))
  | digits => .ok digits

/--
Read the spelling of a number that starts at `offset`, and give it with the
number of symbols that it takes.
-/
def scanNumber (offset : Nat) (text : List Text.Symbol) :
    Except Defect (Spelling × Nat) := do
  let negative := text.head?.any (isChar '-')
  let signs := if negative then 1 else 0
  let body := text.drop signs
  let whole ← scanWhole (offset + signs) body
  let taken := signs + whole.length
  let (fraction, points) ← scanFraction (offset + taken) (text.drop taken)
  let taken := taken + points
  let (exponent, marks) ← scanExponent (offset + taken) (text.drop taken)
  return (⟨negative, whole, fraction, exponent⟩, taken + marks)

/-- The largest number of 64 bits. -/
def largestWord : Nat := Nat.pow 2 64 - 1

/--
Append digits to a significand as long as it stays within 64 bits; the digits
that no longer fit are left.
-/
def gather (significand : Nat) : List Nat → Nat × List Nat
  | [] => (significand, [])
  | d :: rest =>
      if significand * 10 + d ≤ largestWord then gather (significand * 10 + d) rest
      else (significand, d :: rest)

/-- Divide by a power of ten, in steps that stay within the range of exponents. -/
def scaleDown (f : Float) (power : Nat) : Float :=
  if 308 < power then
    if f == 0.0 then f else scaleDown (f / Float.ofScientific 1 false 308) (power - 308)
  else f / Float.ofScientific 1 false power
termination_by power
decreasing_by omega

/-- A significand times a power of ten, unless that is too large for a number. -/
def scaled? (significand : Nat) (power : Int) : Option Float :=
  let f := (UInt64.ofNat significand).toFloat
  match power with
  | .ofNat p =>
      if p ≤ 308 then
        let product := f * Float.ofScientific 1 false p
        if product.isInf then none else some product
      else if significand = 0 then some f else none
  | .negSucc p => some (scaleDown f (p + 1))

/-- The number of digits up to the one that takes an exponent beyond 31 bits. -/
def exponentLimit (value : Nat) : List Nat → Option Nat
  | [] => none
  | d :: rest =>
      if Nat.pow 2 31 ≤ value * 10 + d then some 1
      else (exponentLimit (value * 10 + d) rest).map (· + 1)

/-- The value of decimal digits. -/
def digitsNat (ds : List Nat) : Nat :=
  ds.foldl (fun value d => value * 10 + d) 0

/-- The bits of a floating point number, with its sign put on. -/
def signedBits (negative : Bool) (f : Float) : UInt64 :=
  if negative then (-f).toBits else f.toBits

/--
The floating point number of a spelling that ends at `stop`. Digits of the
whole part that do not fit into 64 bits count as powers of ten; those of the
fraction are dropped.
-/
def Spelling.floating (s : Spelling) (stop : Nat) : Except Fault Number := do
  let (head, wholeLeft) := gather 0 s.whole
  let (significand, fractionLeft) := gather head s.fraction
  let shift : Int := (wholeLeft.length : Int) - (s.fraction.length - fractionLeft.length : Nat)
  let tooLarge : Except Fault Number := .error ⟨.numberTooLarge, stop⟩
  let finish (power : Int) : Except Fault Number :=
    match scaled? significand power with
    | some f => .ok (.floating (signedBits s.negative f))
    | none => tooLarge
  match s.exponent with
  | none => finish shift
  | some (negative, digits) =>
      match exponentLimit 0 digits with
      | none =>
          let power : Int := digitsNat digits
          finish (if negative then shift - power else shift + power)
      | some taken =>
          if significand ≠ 0 ∧ negative = false then
            .error ⟨.numberTooLarge, stop - digits.length + taken⟩
          else .ok (.floating (signedBits s.negative 0.0))

/-- The number of a spelling that ends at `stop`. -/
def Spelling.value (s : Spelling) (stop : Nat) : Except Fault Number :=
  if s.fraction.isEmpty && s.exponent.isNone then
    let magnitude := digitsNat s.whole
    if s.negative then
      if 0 < magnitude && magnitude ≤ Nat.pow 2 63 then .ok (.whole (-(magnitude : Int)))
      else s.floating stop
    else if magnitude ≤ largestWord then .ok (.whole magnitude)
    else s.floating stop
  else s.floating stop

end Notary.Json
