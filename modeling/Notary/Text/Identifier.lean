namespace Notary.Text

/-!
# Made-up identifiers

An identifier of sixteen random bytes, of which six bits tell that it is random.
It is written as five groups of hexadecimal digits.
-/

/-- The two hexadecimal digits of a byte. -/
def hexPair (b : UInt8) : List Char :=
  [Nat.digitChar (b.toNat / 16), Nat.digitChar (b.toNat % 16)]

/-- Bytes with the bits of a random identifier put in: the version 4 and the common variant. -/
def stamped (bytes : List UInt8) : List UInt8 :=
  (bytes.modify 6 fun b => b % 16 + 0x40).modify 8 fun b => b % 64 + 0x80

/-- The text of an identifier. -/
def identifier (bytes : List UInt8) : String :=
  let groups := [(0, 4), (4, 2), (6, 2), (8, 2), (10, 6)].map fun (start, count) =>
    String.ofList ((((stamped bytes).drop start).take count).flatMap hexPair)
  "-".intercalate groups

end Notary.Text
