namespace Notary.Text

/-!
# Digits

Digits of a base up to sixteen, letters in either case, and the numbers that
they spell, highest digit first.
-/

/-- The value of a digit in a base. -/
def digit? (base : Nat) (c : Char) : Option Nat :=
  let value? :=
    if c.isDigit then some (c.toNat - 48)
    else if 'a' ≤ c && c ≤ 'f' then some (c.toNat - 87)
    else if 'A' ≤ c && c ≤ 'F' then some (c.toNat - 55)
    else none
  value?.filter (· < base)

/-- The number that digits spell in a base. -/
def valueOfDigits (base : Nat) (digits : List Nat) : Nat :=
  digits.foldl (fun value d => value * base + d) 0

/-- The number that a text of decimal digits spells. -/
def decimalValue (text : List Char) : Nat :=
  valueOfDigits 10 (text.filterMap (digit? 10))

/-- A text without the plus sign that may stand in front of a number. -/
def withoutPlus (text : List Char) : List Char :=
  if text.head? = some '+' then text.tail else text

end Notary.Text
