import Mathlib.Tactic.IntervalCases
import Notary.Proofs.Json.Outline
import Notary.Proofs.Json.Tokens

namespace Notary.Json

/-!
# Numbers as a text spells them

A numeral is a number of a JSON text part by part. Wherever it stands in front of something
that ends a value, it is read as one token, and which number that is depends on the numeral
alone.
-/

/-- Digits, of which there is at least one. -/
structure Digits where
  first : Fin 10
  rest : List (Fin 10)

namespace Digits

variable (ds : Digits)

/-- The digits from left to right. -/
def values : List Nat :=
  (ds.first :: ds.rest).map Fin.val

/-- The digits as they are written. -/
def text : List Char :=
  (ds.first :: ds.rest).map fun d => Text.hexDigit d.val

end Digits

/-- The exponent of a numeral: its mark, its sign, and its digits. -/
structure Exponent where
  capital : Bool
  /-- Whether the exponent is negative, if it has a sign. -/
  sign : Option Bool
  digits : Digits

/-- The sign of an exponent as it is written. -/
def Exponent.signText (e : Exponent) : List Char :=
  match e.sign with
  | some true => ['-']
  | some false => ['+']
  | none => []

/-- An exponent as it is written. -/
def Exponent.text (e : Exponent) : List Char :=
  (if e.capital then 'E' else 'e') :: (e.signText ++ e.digits.text)

/-- The fraction of a numeral, if it has one, as it is written. -/
def fractionText : Option Digits → List Char
  | some ds => '.' :: ds.text
  | none => []

/-- The exponent of a numeral, if it has one, as it is written. -/
def exponentText : Option Exponent → List Char
  | some e => e.text
  | none => []

/-- A number of a JSON text; only the number zero starts with the digit zero. -/
structure Numeral where
  negative : Bool
  whole : Digits
  canonical : whole.first = 0 → whole.rest = []
  fraction : Option Digits
  exponent : Option Exponent

namespace Numeral

variable (n : Numeral)

/-- The sign of a numeral as it is written. -/
def signText : List Char :=
  if n.negative then ['-'] else []

/-- A numeral as it is written. -/
def text : List Char :=
  n.signText ++ (n.whole.text ++ (fractionText n.fraction ++ exponentText n.exponent))

/-- The parts of a numeral as they are read. -/
def spelling : Spelling where
  negative := n.negative
  whole := n.whole.values
  fraction := n.fraction.elim [] Digits.values
  exponent := n.exponent.map fun e => (e.sign = some true, e.digits.values)

/-- The number that a numeral means, if it can be held. -/
def value? : Option Number :=
  (n.spelling.value 0).toOption

end Numeral

/-- What is left of a text does not start with a digit. -/
def NoDigit (rest : List Text.Symbol) : Prop :=
  ∀ symbol ∈ rest.head?, digitValue? 10 symbol = none

theorem digitValue?_hexDigit_fin
    (d : Fin 10) :
    digitValue? 10 (.char (Text.hexDigit d.val)) = some d.val := by
  revert d
  decide

/-- A run of digits ends where no digit follows. -/
theorem digitRun_text
    (ds : Digits)
    {rest : List Text.Symbol}
    (noDigit : NoDigit rest) :
    digitRun (ds.text.map .char ++ rest) = ds.values := by
  rw [Digits.text, Digits.values]
  induction ds.first :: ds.rest with
  | nil =>
      cases rest with
      | nil =>
          rfl
      | cons symbol rest =>
          rw [List.map_nil, List.map_nil, List.nil_append, digitRun, noDigit symbol rfl]
          rfl
  | cons d digits inductionHypothesis =>
      rw [List.map_cons, List.map_cons, List.cons_append, digitRun, digitValue?_hexDigit_fin,
        List.map_cons, ← inductionHypothesis]

/-- The whole part of a numeral is scanned to its end. -/
theorem scanWhole_text
    (n : Numeral)
    (offset : Nat)
    {rest : List Text.Symbol}
    (noDigit : NoDigit rest) :
    scanWhole offset (n.whole.text.map .char ++ rest) = .ok n.whole.values := by
  rw [scanWhole, digitRun_text n.whole noDigit]
  obtain ⟨-, ⟨⟨first, small⟩, others⟩, canonical, -, -⟩ := n
  cases first with
  | zero =>
      obtain rfl : others = [] := canonical rfl
      rfl
  | succ first =>
      rfl

/-- Each digit has one value. -/
theorem length_values
    (ds : Digits) :
    ds.values.length = ds.text.length := by
  simp [Digits.values, Digits.text]

/-- The fraction that may follow, in front of something that continues none. -/
theorem scanFraction_text
    (fraction : Option Digits)
    (offset : Nat)
    {rest : List Text.Symbol}
    (noDigit : NoDigit rest)
    (noPoint : ∀ symbol ∈ rest.head?, isChar '.' symbol = false) :
    scanFraction offset ((fractionText fraction).map .char ++ rest) =
      .ok (fraction.elim [] Digits.values, (fractionText fraction).length) := by
  cases fraction with
  | none =>
      cases rest with
      | nil =>
          rfl
      | cons symbol rest =>
          simp [scanFraction, fractionText, noPoint symbol rfl]
  | some ds =>
      have run := digitRun_text ds noDigit
      have length := length_values ds
      have point : isChar '.' (.char '.') = true := rfl
      simp only [fractionText, List.map_cons, List.cons_append, scanFraction, point, if_true, run]
      simp only [Digits.values, List.map_cons] at length ⊢
      rw [length, List.length_cons, Nat.add_comm]
      rfl

/-- No digit is a sign. -/
theorem isChar_hexDigit_fin
    (d : Fin 10) :
    isChar '-' (.char (Text.hexDigit d.val)) = false ∧
      isChar '+' (.char (Text.hexDigit d.val)) = false := by
  revert d
  decide

/-- An exponent, in front of something that is no digit. -/
theorem scanExponent_mark
    (e : Exponent)
    (offset : Nat)
    {rest : List Text.Symbol}
    (noDigit : NoDigit rest) :
    scanExponent offset (e.text.map .char ++ rest) =
      .ok (some (e.sign = some true, e.digits.values), e.text.length) := by
  obtain ⟨capital, sign, digits⟩ := e
  have mark :
      (isChar 'e' (.char (if capital then 'E' else 'e')) ||
        isChar 'E' (.char (if capital then 'E' else 'e'))) = true := by
    cases capital <;> rfl
  have run := digitRun_text digits noDigit
  obtain ⟨first, others⟩ := digits
  simp only [Digits.text, Digits.values, List.map_cons, List.cons_append] at run
  -- Without a sign, the first digit is looked at in its place.
  rcases sign with _ | _ | _
  · simp only [Exponent.text, Exponent.signText, Digits.text, Digits.values, List.map_cons,
      List.nil_append, List.cons_append, scanExponent, mark, if_true, isChar_hexDigit_fin,
      Bool.false_eq_true, if_false, List.drop_zero, run]
    simp [Nat.add_comm]
  · have plus : isChar '-' (.char '+') = false ∧ isChar '+' (.char '+') = true := ⟨rfl, rfl⟩
    simp only [Exponent.text, Exponent.signText, Digits.text, Digits.values, List.map_cons,
      List.nil_append, List.cons_append, scanExponent, mark, if_true, plus, Bool.false_eq_true,
      if_false, List.drop_succ_cons, List.drop_zero, run]
    simp
    omega
  · have minus : isChar '-' (.char '-') = true := rfl
    simp only [Exponent.text, Exponent.signText, Digits.text, Digits.values, List.map_cons,
      List.nil_append, List.cons_append, scanExponent, mark, if_true, minus,
      List.drop_succ_cons, List.drop_zero, run]
    simp
    omega

/-- The exponent that may follow, in front of something that continues none. -/
theorem scanExponent_text
    (exponent : Option Exponent)
    (offset : Nat)
    {rest : List Text.Symbol}
    (noDigit : NoDigit rest)
    (noMark : ∀ symbol ∈ rest.head?, isChar 'e' symbol = false ∧ isChar 'E' symbol = false) :
    scanExponent offset ((exponentText exponent).map .char ++ rest) =
      .ok (exponent.map fun e => (e.sign = some true, e.digits.values),
        (exponentText exponent).length) := by
  cases exponent with
  | none =>
      cases rest with
      | nil =>
          rfl
      | cons symbol rest =>
          simp [scanExponent, exponentText, noMark symbol rfl]
  | some e =>
      exact scanExponent_mark e offset noDigit

/-! ## Numerals -/

section Scan

variable
    {rest : List Text.Symbol}

/-- What ends a value is no digit. -/
theorem Delimited.noDigit
    (delimited : Delimited rest) :
    NoDigit rest := by
  have ends : ∀ c ∈ delimiters, digitValue? 10 (.char c) = none :=
    forall_mem_delimiters_iff.mpr (by decide)
  intro symbol first
  obtain ⟨c, among, rfl⟩ := delimited symbol first
  exact ends c among

/-- What ends a value is one of the delimiters, or nothing. -/
theorem Delimited.isChar_eq_false
    (delimited : Delimited rest)
    {c : Char}
    (other : c ∉ delimiters) :
    ∀ symbol ∈ rest.head?, isChar c symbol = false := by
  intro symbol first
  obtain ⟨d, among, rfl⟩ := delimited symbol first
  have differs : d ≠ c := fun same => other (same ▸ among)
  simpa [isChar] using differs

/-- Behind a fraction, neither a digit nor a point follows. -/
theorem exponentText_append
    (delimited : Delimited rest)
    (exponent : Option Exponent) :
    NoDigit ((exponentText exponent).map .char ++ rest) ∧
      ∀ symbol ∈ ((exponentText exponent).map Text.Symbol.char ++ rest).head?,
        isChar '.' symbol = false := by
  cases exponent with
  | none =>
      exact ⟨delimited.noDigit, delimited.isChar_eq_false (by simp [delimiters])⟩
  | some e =>
      constructor <;> rintro symbol ⟨⟩ <;> cases e.capital <;> rfl

/-- Behind the digits before the point, no digit follows. -/
theorem fractionText_append
    (noDigit : NoDigit rest)
    (fraction : Option Digits) :
    NoDigit ((fractionText fraction).map .char ++ rest) := by
  cases fraction with
  | none =>
      exact noDigit
  | some ds =>
      rintro symbol ⟨⟩
      rfl

/-- A numeral begins with a minus sign if it is negative. -/
theorem any_isChar_signText
    (n : Numeral)
    (rest : List Text.Symbol) :
    (n.signText.map Text.Symbol.char ++
        (n.whole.text.map Text.Symbol.char ++ rest)).head?.any (isChar '-') =
      n.negative := by
  cases negative : n.negative with
  | true =>
      simp [Numeral.signText, negative]
      rfl
  | false =>
      simp [Numeral.signText, negative, Digits.text, isChar_hexDigit_fin]

/-- A numeral is read up to its end, in front of something that ends a value. -/
theorem scanNumber_text
    (n : Numeral)
    (offset : Nat)
    (delimited : Delimited rest) :
    scanNumber offset (n.text.map .char ++ rest) = .ok (n.spelling, n.text.length) := by
  let afterFraction : List Text.Symbol := (exponentText n.exponent).map .char ++ rest
  let afterWhole : List Text.Symbol := (fractionText n.fraction).map .char ++ afterFraction
  let text : List Text.Symbol := n.signText.map .char ++ (n.whole.text.map .char ++ afterWhole)
  have spelled : n.text.map Text.Symbol.char ++ rest = text := by
    simp [text, afterWhole, afterFraction, Numeral.text]
  obtain ⟨noDigit, noPoint⟩ := exponentText_append delimited n.exponent
  have negative : text.head?.any (isChar '-') = n.negative := any_isChar_signText n afterWhole
  have signs : (if n.negative = true then 1 else 0) = n.signText.length := by
    rw [Numeral.signText]
    split <;> rfl
  have body : text.drop n.signText.length = n.whole.text.map .char ++ afterWhole := by
    simp [text]
  have behindWhole : text.drop (n.signText.length + n.whole.values.length) = afterWhole := by
    rw [← List.drop_drop, body, length_values]
    simp
  have behindFraction :
      text.drop (n.signText.length + n.whole.values.length + (fractionText n.fraction).length) =
        afterFraction := by
    rw [← List.drop_drop, behindWhole]
    simp [afterWhole]
  have readsWhole (offset : Nat) :
      scanWhole offset (n.whole.text.map .char ++ afterWhole) = .ok n.whole.values :=
    scanWhole_text n offset (fractionText_append noDigit n.fraction)
  have readsFraction (offset : Nat) :
      scanFraction offset afterWhole =
        .ok (n.fraction.elim [] Digits.values, (fractionText n.fraction).length) :=
    scanFraction_text n.fraction offset noDigit noPoint
  have readsExponent (offset : Nat) :
      scanExponent offset afterFraction =
        .ok (n.exponent.map fun e => (e.sign = some true, e.digits.values),
          (exponentText n.exponent).length) :=
    scanExponent_text n.exponent offset delimited.noDigit fun symbol first =>
      ⟨delimited.isChar_eq_false (by simp [delimiters]) symbol first,
        delimited.isChar_eq_false (by simp [delimiters]) symbol first⟩
  have length :
      n.signText.length + n.whole.values.length + (fractionText n.fraction).length +
          (exponentText n.exponent).length =
        n.text.length := by
    simp [Numeral.text, length_values, Nat.add_assoc]
  rw [spelled]
  simp only [scanNumber, negative, signs, body, readsWhole, behindWhole, readsFraction,
    behindFraction, readsExponent, bind, Except.bind, length]
  rfl

/-- Where a number stops does not matter to its value. -/
theorem toOption_floating
    (s : Spelling)
    (stop stop' : Nat) :
    (s.floating stop).toOption = (s.floating stop').toOption := by
  simp only [Spelling.floating]
  split
  · split <;> rfl
  · split
    · split <;> rfl
    · split <;> rfl

/-- Where a numeral ends plays no part in the number that it means. -/
theorem toOption_value
    (s : Spelling)
    (stop stop' : Nat) :
    (s.value stop).toOption = (s.value stop').toOption := by
  have floating := toOption_floating s stop stop'
  simp only [Spelling.value]
  split
  · split
    · split
      · rfl
      · exact floating
    · split
      · rfl
      · exact floating
  · exact floating

/-- A digit begins a number. -/
theorem lexeme_of_digit
    (offset : Nat)
    (d : Fin 10)
    (rest : List Text.Symbol) :
    isSpace (Text.hexDigit d.val) = false ∧
      lexeme offset (Text.hexDigit d.val) rest =
        numberToken offset (.char (Text.hexDigit d.val) :: rest) := by
  obtain ⟨d, small⟩ := d
  interval_cases d <;> exact ⟨rfl, rfl⟩

/-- A numeral is one token, in front of something that ends a value. -/
theorem exists_lexemesFrom_numeral
    (n : Numeral)
    (offset : Nat)
    (delimited : Delimited rest) :
    ∃ value stop after,
      value.toOption = n.value? ∧
        lexemesFrom offset 0 (n.text.map .char ++ rest) =
          ⟨.number value, offset, stop⟩ :: lexemesFrom after 0 rest := by
  obtain ⟨c, others, written, notSpace, isNumber⟩ :
      ∃ c others, n.text = c :: others ∧ isSpace c = false ∧
        ∀ rest, lexeme offset c rest = numberToken offset (.char c :: rest) := by
    rw [Numeral.text, Numeral.signText]
    split
    · exact ⟨'-', _, rfl, rfl, fun _ => rfl⟩
    · refine ⟨Text.hexDigit n.whole.first.val, _, rfl, ?_, fun rest => ?_⟩
      · exact (lexeme_of_digit offset n.whole.first rest).1
      · exact (lexeme_of_digit offset n.whole.first rest).2
  let stop := offset + n.text.length
  have scans := scanNumber_text n offset delimited
  have token :
      lexeme offset c (others.map .char ++ rest) =
        (⟨.number (n.spelling.value stop), offset, stop⟩, others.length) := by
    have spelled : n.text.map Text.Symbol.char ++ rest = .char c :: (others.map .char ++ rest) := by
      rw [written]
      rfl
    rw [spelled] at scans
    rw [isNumber, numberToken, scans]
    simp [stop, written]
  obtain ⟨after, passed⟩ :=
    exists_lexemesFrom_skip (others.map .char) (offset + c.utf8Size) rest
  refine ⟨_, stop, after, toOption_value n.spelling stop 0, ?_⟩
  rw [written, List.map_cons, List.cons_append, lexemesFrom_of_lexeme notSpace token rfl]
  rw [List.length_map] at passed
  exact congrArg (List.cons _) passed

end Scan

end Notary.Json
