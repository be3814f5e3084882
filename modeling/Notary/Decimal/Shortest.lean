namespace Notary.Decimal

/-!
# The shortest decimal of a floating point number

Among all decimals that read back as a given number, the ones with the fewest
digits are shortest; of those the nearest to the number is taken. The search is
exact: a finite number is `mantissa · 2 ^ exponent`, the reals that round to it
form an interval around it, and for one, two, … seventeen digits the two
neighbours of the number on that decimal grid are tested.
-/

/-- A finite positive number as `mantissa · 2 ^ (exponent - 1074)`. -/
structure Binary where
  mantissa : Nat
  /-- The exponent of the last bit, counted from that of the smallest number. -/
  exponent : Nat
deriving Repr, DecidableEq

/-- The magnitude of a finite number, from its 64 bits. -/
def Binary.ofBits (bits : UInt64) : Binary :=
  let fraction := bits.toNat % Nat.pow 2 52
  let biased := bits.toNat / Nat.pow 2 52 % Nat.pow 2 11
  if biased = 0 then ⟨fraction, 0⟩ else ⟨Nat.pow 2 52 + fraction, biased - 1⟩

/-- A decimal: its digits, most significant first, and the power of ten of the last one. -/
structure Digits where
  digits : List Nat
  exponent : Int
deriving Repr, DecidableEq

/-- The decimal digits of a number, most significant first; none for zero. -/
def digitsOf (n : Nat) : List Nat :=
  if n = 0 then [] else digitsOf (n / 10) ++ [n % 10]
termination_by n
decreasing_by omega

/--
Four times the number over `4 · 2 ^ 1074`, with the same for the ends of its
interval: numerators of low end, number and high end, and whether the ends
themselves round to the number.
-/
structure Interval where
  low : Nat
  value : Nat
  high : Nat
  closed : Bool
deriving Repr, DecidableEq

/-- The denominator of an interval's three numerators. -/
def denominator : Nat := 4 * Nat.pow 2 1074

/-- The reals that round to a number. -/
def Binary.interval (b : Binary) : Interval :=
  let unit := Nat.pow 2 b.exponent
  let below := if b.mantissa = Nat.pow 2 52 ∧ 0 < b.exponent then 1 else 2
  { low := (4 * b.mantissa - below) * unit
    value := 4 * b.mantissa * unit
    high := (4 * b.mantissa + 2) * unit
    closed := b.mantissa % 2 = 0 }

/-- Whether `numerator / scale` lies in an interval, both over the same denominator. -/
def Interval.holds (i : Interval) (numerator scale : Nat) : Bool :=
  if i.closed then
    decide (i.low * scale ≤ numerator) && decide (numerator ≤ i.high * scale)
  else
    decide (i.low * scale < numerator) && decide (numerator < i.high * scale)

/--
The point of the grid of multiples of `10 ^ power` that is in the interval and
nearest to the number, if there is one; a tie goes to the even multiple.
-/
def Interval.onGrid? (i : Interval) (power : Int) : Option Nat :=
  let step := denominator * Nat.pow 10 power.toNat
  let scale := Nat.pow 10 (-power).toNat
  let count := i.value * scale / step
  let lower := i.holds (count * step) scale && decide (0 < count)
  let upper := i.holds ((count + 1) * step) scale
  let excess := 2 * (i.value * scale - count * step)
  if lower && upper then
    if excess < step || (excess = step && count % 2 = 0) then some count else some (count + 1)
  else if lower then some count
  else if upper then some (count + 1)
  else none

/-- The number of digits of a number before its decimal point, zero or less for a small one. -/
def Interval.magnitude (i : Interval) : Int :=
  let whole := i.value / denominator
  if 0 < whole then (digitsOf whole).length
  else
    let inverse := denominator / i.value
    1 - ((digitsOf inverse).length : Int)

/-- The first grid with a point in the interval, from `digits` significant digits on. -/
def Interval.search (i : Interval) (magnitude : Int) : Nat → Option (Nat × Int)
  | 0 => none
  | left + 1 =>
      let power := magnitude - (17 - left : Nat)
      match i.onGrid? power with
      | some count => some (count, power)
      | none => i.search magnitude left

/-- Move zeros at the end of the digits into the exponent. -/
def Digits.normalize (d : Digits) : Digits :=
  let kept := (d.digits.reverse.dropWhile (· == 0)).reverse
  ⟨kept, d.exponent + (d.digits.length - kept.length : Nat)⟩

/-- The shortest decimal of a finite positive number, given by its bits. -/
def shortest (bits : UInt64) : Digits :=
  let interval := (Binary.ofBits bits).interval
  match interval.search interval.magnitude 17 with
  | some (count, power) => (Digits.mk (digitsOf count) power).normalize
  | none => ⟨[], 0⟩

/-- A digit as a character. -/
def digitChar (d : Nat) : Char :=
  Char.ofNat (48 + d)

/-- Digits as text. -/
def digitText (ds : List Nat) : List Char :=
  ds.map digitChar

/-- Digits with the decimal point after the first `point` of them, or before them all. -/
def positional (ds : List Nat) (point : Int) : List Char :=
  if point ≤ 0 then
    "0.".toList ++ List.replicate (-point).toNat '0' ++ digitText ds
  else if (ds.length : Int) ≤ point then
    digitText ds ++ List.replicate (point - ds.length).toNat '0' ++ ".0".toList
  else
    digitText (ds.take point.toNat) ++ ['.'] ++ digitText (ds.drop point.toNat)

/-- Digits with the point after the first one, and a power of ten. -/
def scientific (ds : List Nat) (point : Int) : List Char :=
  let power := (toString (point - 1)).toList
  match ds with
  | [] => '0' :: 'e' :: power
  | [d] => digitChar d :: 'e' :: power
  | d :: rest => digitChar d :: '.' :: (digitText rest ++ 'e' :: power)

/-- Where a format leaves positional notation, and its names for the special values. -/
structure Format where
  /-- Smallest place of the point that is still written positionally. -/
  least : Int
  /-- Largest place of the point that is still written positionally. -/
  greatest : Int
  infinite : String
  undefined : String
deriving Repr

/-- The text of a number in a format. -/
def Format.render (format : Format) (bits : UInt64) : String :=
  let negative := decide (Nat.pow 2 63 ≤ bits.toNat)
  let sign := if negative then ['-'] else []
  let magnitude := UInt64.ofNat (bits.toNat % Nat.pow 2 63)
  if magnitude.toNat = 0 then String.ofList (sign ++ "0.0".toList)
  else if 0x7FF0000000000000 < magnitude.toNat then format.undefined
  else if magnitude.toNat = 0x7FF0000000000000 then
    String.ofList (sign ++ format.infinite.toList)
  else
    let decimal := shortest magnitude
    let point := (decimal.digits.length : Int) + decimal.exponent
    let body :=
      if format.least ≤ point && point ≤ format.greatest then positional decimal.digits point
      else scientific decimal.digits point
    String.ofList (sign ++ body)

end Notary.Decimal
