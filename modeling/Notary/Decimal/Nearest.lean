namespace Notary.Decimal

/-!
# The floating point number nearest to a decimal

Decimals far outside the range of floating point numbers are told apart by their
size, so that no power of ten grows without bound.
-/

/-- Digits without the zeros they start with. -/
def significant (ds : List Nat) : List Nat :=
  ds.dropWhile (· == 0)

/-- The number that is nearest to the digits times a power of ten. -/
def nearest (ds : List Nat) (exponent : Int) : Float :=
  let ds := significant ds
  let magnitude := exponent + ds.length
  if ds.isEmpty || magnitude < -400 then 0.0
  else if 400 < magnitude then 1.0 / 0.0
  else
    let value := ds.foldl (fun value d => value * 10 + d) 0
    Float.ofScientific value (decide (exponent < 0)) exponent.natAbs

end Notary.Decimal
