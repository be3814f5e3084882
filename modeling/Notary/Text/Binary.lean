namespace Notary.Text

/-!
# Telling binary documents from text

A document is judged by its first bytes alone. Any byte below the tab makes it
binary; otherwise it is binary when more than 95 percent of the inspected bytes
are neither printable ASCII nor one of four layout characters.
-/

/-- How many bytes at the start of a document are inspected. -/
def sniffLimit : Nat := 1024

/-- The share of other bytes, in percent, that a text document may not exceed. -/
def binaryThreshold : Nat := 95

/-- Tab, line feed, form feed, carriage return and printable ASCII. -/
def isTextual (b : UInt8) : Bool :=
  b == 0x09 || b == 0x0A || b == 0x0C || b == 0x0D || (0x20 ≤ b && b ≤ 0x7E)

/-- How many bytes of either sort have been met. -/
structure Tally where
  textual : Nat
  other : Nat
deriving Repr, DecidableEq

namespace Tally

/-- Nothing met yet. -/
def start : Tally := ⟨0, 0⟩

/-- Count a byte. -/
def count (t : Tally) (b : UInt8) : Tally :=
  if isTextual b then { t with textual := t.textual + 1 }
  else { t with other := t.other + 1 }

/-- Count bytes one after another; a byte below the tab ends the count without a result. -/
def countAll? (t : Tally) : List UInt8 → Option Tally
  | [] => some t
  | b :: rest => if b < 0x09 then none else (t.count b).countAll? rest

/-- How many bytes have been met. -/
def total (t : Tally) : Nat :=
  t.textual + t.other

/-- Whether the other bytes exceed their share. -/
def exceeds (t : Tally) : Bool :=
  decide (0 < t.other) && decide (binaryThreshold < 100 * t.other / t.total)

end Tally

/-- Whether a document looks binary. -/
def isBinary (bytes : List UInt8) : Bool :=
  match Tally.start.countAll? (bytes.take sniffLimit) with
  | none => true
  | some tally => tally.exceeds

end Notary.Text
