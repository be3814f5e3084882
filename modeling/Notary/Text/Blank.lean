namespace Notary.Text

/-!
# White space

The characters of the Unicode property `White_Space`, and the three operations
that depend on them: trimming, the test for a blank text, and the split into
words. Everything here works on lists of characters; the versions on strings
are thin wrappers.
-/

/-- The characters with the Unicode property `White_Space`. -/
def isBlank (c : Char) : Bool :=
  let n := c.toNat
  (0x09 ≤ n && n ≤ 0x0D) || n == 0x20 || n == 0x85 || n == 0xA0 ||
    n == 0x1680 || (0x2000 ≤ n && n ≤ 0x200A) || n == 0x2028 ||
    n == 0x2029 || n == 0x202F || n == 0x205F || n == 0x3000

/-- Drop the blank characters at both ends. -/
def trim (cs : List Char) : List Char :=
  ((cs.dropWhile isBlank).reverse.dropWhile isBlank).reverse

/-- A text without any character but blank ones. -/
def allBlank (cs : List Char) : Bool :=
  cs.all isBlank

/--
The maximal runs of characters that are not blank, in order. `current` holds
the run being read, last character first.
-/
def wordsFrom (current : List Char) : List Char → List (List Char)
  | [] => if current.isEmpty then [] else [current.reverse]
  | c :: rest =>
      if isBlank c then
        if current.isEmpty then wordsFrom [] rest
        else current.reverse :: wordsFrom [] rest
      else wordsFrom (c :: current) rest

/-- The words of a text, in order; none of them is empty. -/
def words (cs : List Char) : List (List Char) :=
  wordsFrom [] cs

/-- A string without any character but blank ones. -/
def blank (s : String) : Bool :=
  allBlank s.toList

/-- The words of a string. -/
def wordsOf (s : String) : List String :=
  (words s.toList).map String.ofList

/-- Whether `needle` occurs in a text as a run of neighbouring characters. -/
def occurs (needle : List Char) : List Char → Bool
  | [] => needle.isEmpty
  | c :: rest => needle.isPrefixOf (c :: rest) || occurs needle rest

/-- A text occurs in another exactly when it is a part of it in one piece. -/
theorem occurs_iff
    (needle cs : List Char) :
    occurs needle cs = true ↔ needle <:+: cs := by
  induction cs with
  | nil =>
      simp [occurs]
  | cons c rest inductionHypothesis =>
      rw [occurs, Bool.or_eq_true, inductionHypothesis, List.isPrefixOf_iff_prefix,
        List.infix_cons_iff]

end Notary.Text
