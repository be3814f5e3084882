namespace Notary.Text

/-!
# Tables of characters

Encodings of several bytes a character number their characters, with gaps. A
table is put together from stretches, and its entry at a number is the character
of that number.
-/

/-- A part of a table. -/
inductive Stretch where
  /-- Characters one after another. -/
  | text (characters : String)
  /-- Characters whose code points follow each other. -/
  | ascending (first count : Nat)
  /-- Numbers without characters. -/
  | gap (count : Nat)
deriving Repr, DecidableEq

namespace Stretch

/-- The entries of a stretch. -/
def entries : Stretch → List (Option Char)
  | text characters => characters.toList.map some
  | ascending first count => (List.range count).map fun i => some (Char.ofNat (first + i))
  | gap count => List.replicate count none

end Stretch

/-- The table that stretches make, put one behind another. -/
def Table.ofStretches (stretches : List Stretch) : Array (Option Char) :=
  (stretches.flatMap Stretch.entries).toArray

/-- The character of a number. -/
def Table.look? (table : Array (Option Char)) (number : Nat) : Option Char :=
  (table[number]?).join

end Notary.Text
