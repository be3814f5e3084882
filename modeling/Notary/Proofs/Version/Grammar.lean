import Mathlib.Data.List.Forall2
import Mathlib.Data.List.TakeWhile
import Notary.Proofs.Text.Pieces
import Notary.Version

namespace Notary.Version

/-!
# The grammar of version texts

A version text is a stem of three or four dotted numbers, and perhaps a suffix that a hyphen
or a plus sign introduces. The reader of a number would take a plus sign in front of it, but a
stem has none. What is written for a version is a stem of four numbers, so it is read as the
same version.
-/

/-- A text of ASCII digits, and the number that it denotes; zeros may come first. -/
structure Denotes
    (digits : List Char)
    (number : UInt32) : Prop where
  filled : digits ≠ []
  areDigits : ∀ c ∈ digits, '0' ≤ c ∧ c ≤ '9'
  value : Nat.ofDigitChars 10 digits 0 = number.toNat

theorem isDigit_iff
    (c : Char) :
    c.isDigit = true ↔ '0' ≤ c ∧ c ≤ '9' := by
  simp [Char.isDigit, Char.le_def]

/-- The value of digits is that of the decimal notation. -/
theorem decimalValue_eq
    {digits : List Char}
    (areDigits : ∀ c ∈ digits, '0' ≤ c ∧ c ≤ '9') :
    Text.decimalValue digits = Nat.ofDigitChars 10 digits 0 := by
  unfold Text.decimalValue Text.valueOfDigits
  generalize 0 = start
  induction digits generalizing start with
  | nil =>
      rfl
  | cons c rest inductionHypothesis =>
      obtain ⟨isDigit, areRest⟩ := List.forall_mem_cons.mp areDigits
      have small : c.toNat ≤ '9'.toNat := isDigit.2
      have here : Text.digit? 10 c = some (c.toNat - '0'.toNat) := by
        have under : c.toNat - '0'.toNat < 10 := by
          change c.toNat ≤ 57 at small
          change c.toNat - 48 < 10
          omega
        rw [Text.digit?, if_pos ((isDigit_iff c).mpr isDigit)]
        exact Option.filter_some_pos (decide_eq_true under)
      rw [List.filterMap_cons_some here, List.foldl_cons, Nat.ofDigitChars_cons,
        inductionHypothesis areRest, Nat.mul_comm]

/-- The number that a text of digits denotes, if it is not too large. -/
theorem part?_of_digits
    {digits : List Char}
    (filled : digits ≠ [])
    (areDigits : ∀ c ∈ digits, '0' ≤ c ∧ c ≤ '9') :
    part? digits =
      if Nat.ofDigitChars 10 digits 0 < Nat.pow 2 32 then
        some (UInt32.ofNat (Nat.ofDigitChars 10 digits 0))
      else none := by
  have noPlus : Text.withoutPlus digits = digits := by
    refine if_neg fun signed => ?_
    exact absurd (areDigits '+' (List.mem_of_head? signed)) (by decide)
  have accepted : ¬ (digits.isEmpty || !digits.all Char.isDigit) = true := by
    simpa [filled, isDigit_iff] using areDigits
  simp only [part?, noPlus]
  rw [if_neg accepted, decimalValue_eq areDigits]

/-- Without a plus sign, a text is read as the number that it denotes, or not at all. -/
theorem part?_eq_some_iff
    {text : List Char}
    (unsigned : '+' ∉ text)
    (number : UInt32) :
    part? text = some number ↔ Denotes text number := by
  constructor
  · intro read
    have noPlus : Text.withoutPlus text = text :=
      if_neg fun signed => unsigned (List.mem_of_head? signed)
    by_cases digits : text ≠ [] ∧ ∀ c ∈ text, '0' ≤ c ∧ c ≤ '9'
    · obtain ⟨filled, areDigits⟩ := digits
      rw [part?_of_digits filled areDigits] at read
      split at read
      · next small =>
          cases read
          exact ⟨filled, areDigits, (UInt32.toNat_ofNat_of_lt small).symm⟩
      · cases read
    · have refused : (text.isEmpty || !text.all Char.isDigit) = true := by
        rw [not_and_or, not_not] at digits
        simpa [isDigit_iff] using digits
      simp only [part?, noPlus, refused] at read
      cases read
  · rintro ⟨filled, areDigits, value⟩
    have small : number.toNat < Nat.pow 2 32 := number.toNat_lt
    rw [part?_of_digits filled areDigits, value, if_pos small, UInt32.ofNat_toNat]

/-- The decimal digits of a number denote it. -/
theorem denotes_toDigits
    (number : UInt32) :
    Denotes (Nat.toDigits 10 number.toNat) number where
  filled := Nat.toDigits_ne_nil
  areDigits c inside :=
    (isDigit_iff c).mp (Nat.isDigit_of_mem_toDigits (by decide) (by decide) inside)
  value := Nat.ofDigitChars_ten_toDigits

/-- Three or four numbers with single dots between them; a build that is left out is zero. -/
inductive Dotted : Version → List Char → Prop where
  | three
      {a b c : List Char}
      {major minor patch : UInt32} :
      Denotes a major →
      Denotes b minor →
      Denotes c patch →
      Dotted ⟨major, minor, patch, 0⟩ (['.'].intercalate [a, b, c])
  | four
      {a b c d : List Char}
      {major minor patch build : UInt32} :
      Denotes a major →
      Denotes b minor →
      Denotes c patch →
      Denotes d build →
      Dotted ⟨major, minor, patch, build⟩ (['.'].intercalate [a, b, c, d])

/-- The part of a text before its first hyphen or plus sign, or all of it if there is none. -/
structure IsStem
    (stem text : List Char) : Prop where
  unmarked : ∀ c ∈ stem, c ≠ '-' ∧ c ≠ '+'
  suffixed : ∃ suffix, text = stem ++ suffix ∧ ∀ mark ∈ suffix.head?, mark = '-' ∨ mark = '+'

/-- A text has one stem, the part in front of its first mark. -/
theorem isStem_iff
    {stem text : List Char} :
    IsStem stem text ↔ stem = core text := by
  constructor
  · rintro ⟨unmarked, suffix, rfl, marked⟩
    have kept : ∀ c ∈ stem, (c != '-' && c != '+') = true := by
      simpa using unmarked
    rw [core, List.takeWhile_append_of_pos kept]
    cases suffix with
    | nil =>
        simp
    | cons mark suffix =>
        rcases marked mark rfl with rfl | rfl <;> simp
  · rintro rfl
    refine ⟨fun c inside => ?_, text.dropWhile fun c => c != '-' && c != '+', ?_, ?_⟩
    · simpa using List.mem_takeWhile_imp inside
    · exact (List.takeWhile_append_dropWhile).symm
    · intro mark first
      have stops := List.head?_dropWhile_not (fun c => c != '-' && c != '+') text
      rw [Option.mem_def.mp first] at stops
      simpa [or_iff_not_imp_left] using stops

/-- No stem holds a plus. -/
theorem plus_not_mem_core
    (text : List Char) :
    '+' ∉ core text :=
  fun inside => ((isStem_iff.mpr rfl).unmarked '+' inside).2 rfl

/-- Texts without a plus sign are read together exactly if each denotes a number. -/
theorem mapM_part?_eq_some_iff
    {texts : List (List Char)}
    (unsigned : ∀ text ∈ texts, '+' ∉ text)
    (numbers : List UInt32) :
    texts.mapM part? = some numbers ↔ List.Forall₂ Denotes texts numbers := by
  induction texts generalizing numbers with
  | nil =>
      simp [eq_comm]
  | cons text rest inductionHypothesis =>
      obtain ⟨here, later⟩ := List.forall_mem_cons.mp unsigned
      rw [List.mapM_cons, List.forall₂_cons_left_iff]
      simp only [Option.bind_eq_bind, Option.bind_eq_some_iff, part?_eq_some_iff here,
        inductionHypothesis later, Option.pure_def, Option.some.injEq]
      constructor
      · rintro ⟨number, denotes, others, denoteOthers, rfl⟩
        exact ⟨number, others, denotes, denoteOthers, rfl⟩
      · rintro ⟨number, others, denotes, denoteOthers, rfl⟩
        exact ⟨number, denotes, others, denoteOthers, rfl⟩

/-- The digits of a number hold no mark. -/
theorem Denotes.not_mem
    {digits : List Char}
    {number : UInt32}
    (denotes : Denotes digits number)
    {mark : Char}
    (other : ¬ ('0' ≤ mark ∧ mark ≤ '9')) :
    mark ∉ digits :=
  fun inside => other (denotes.areDigits mark inside)

/-- Dotted numbers are what has numbers for its pieces, as many as a version has. -/
theorem dotted_iff
    (v : Version)
    (stem : List Char) :
    Dotted v stem ↔
      ∃ numbers, List.Forall₂ Denotes (stem.splitOn '.') numbers ∧ ofParts? numbers = some v := by
  have undotted {digits : List Char} {number : UInt32} (denotes : Denotes digits number) :
      '.' ∉ digits :=
    denotes.not_mem (by decide)
  constructor
  · intro dotted
    cases dotted with
    | three isMajor isMinor isPatch =>
        rw [List.splitOn_intercalate '.'
          (by simp [undotted isMajor, undotted isMinor, undotted isPatch]) (List.cons_ne_nil _ _)]
        exact ⟨_, .cons isMajor (.cons isMinor (.cons isPatch .nil)), rfl⟩
    | four isMajor isMinor isPatch isBuild =>
        rw [List.splitOn_intercalate '.'
          (by simp [undotted isMajor, undotted isMinor, undotted isPatch, undotted isBuild])
          (List.cons_ne_nil _ _)]
        exact ⟨_, .cons isMajor (.cons isMinor (.cons isPatch (.cons isBuild .nil))), rfl⟩
  · rintro ⟨numbers, denote, made⟩
    have rejoined : ['.'].intercalate (stem.splitOn '.') = stem := List.intercalate_splitOn '.'
    rw [← rejoined]
    generalize stem.splitOn '.' = parts at denote
    unfold ofParts? at made
    split at made
    · cases made
      obtain _ | ⟨isMajor, _ | ⟨isMinor, _ | ⟨isPatch, _ | _⟩⟩⟩ := denote
      exact .three isMajor isMinor isPatch
    · cases made
      obtain _ | ⟨isMajor, _ | ⟨isMinor, _ | ⟨isPatch, _ | ⟨isBuild, _ | _⟩⟩⟩⟩ := denote
      exact .four isMajor isMinor isPatch isBuild
    · cases made

/-- A text is read as a version exactly if its stem is the version in dotted numbers. -/
theorem parse?_eq_some_iff
    (s : String)
    (v : Version) :
    parse? s = some v ↔ Dotted v (core s.toList) := by
  have unsigned : ∀ part ∈ (core s.toList).splitOn '.', '+' ∉ part :=
    fun _ isPart signed =>
      plus_not_mem_core s.toList ((Text.pieces_iff.mpr rfl).subset isPart signed)
  rw [dotted_iff, parse?, Option.bind_eq_some_iff]
  simp only [mapM_part?_eq_some_iff unsigned]

/-- Dotted numbers are all of their stem. -/
theorem Dotted.isStem
    {v : Version}
    {stem : List Char}
    (dotted : Dotted v stem) :
    IsStem stem stem := by
  refine ⟨fun c inside => ?_, [], (List.append_nil stem).symm, nofun⟩
  obtain ⟨numbers, denote, -⟩ := (dotted_iff v stem).mp dotted
  have areDigits : ∀ part ∈ stem.splitOn '.', ∀ c ∈ part, '0' ≤ c ∧ c ≤ '9' :=
    ((List.forall₂_and_left _ _).mp (denote.imp fun _ _ here => ⟨here.areDigits, here⟩)).1
  have isSplit : Text.Pieces '.' (stem.splitOn '.') stem := Text.pieces_iff.mpr rfl
  rcases isSplit.eq_mark_or_mem_piece inside with rfl | ⟨part, isPart, inPart⟩
  · decide
  · have digit := areDigits part isPart c inPart
    constructor
    · rintro rfl
      exact absurd digit (by decide)
    · rintro rfl
      exact absurd digit (by decide)

/-- What is written for a version is the version in dotted numbers, and nothing else. -/
theorem dotted_text
    (v : Version) :
    Dotted v v.text.toList := by
  have written :
      v.text.toList =
        ['.'].intercalate
          [Nat.toDigits 10 v.major.toNat, Nat.toDigits 10 v.minor.toNat,
            Nat.toDigits 10 v.patch.toNat, Nat.toDigits 10 v.build.toNat] := by
    simp [text]
  rw [written]
  exact .four (denotes_toDigits v.major) (denotes_toDigits v.minor) (denotes_toDigits v.patch)
    (denotes_toDigits v.build)

/-- What is written for a version is read as the same version. -/
theorem parse?_text
    (v : Version) :
    parse? v.text = some v := by
  have dotted := dotted_text v
  rw [parse?_eq_some_iff, ← isStem_iff.mp dotted.isStem]
  exact dotted

/-- What a version text says, and what becomes of it, by its stem. -/
structure ReadByStem
    (s : String)
    (stem : List Char) : Prop where
  isStem : IsStem stem s.toList
  accepted_iff : (parse? s).isSome = true ↔ ∃ v, Dotted v stem
  value_iff : ∀ v, parse? s = some v ↔ Dotted v stem
  /-- The suffix makes no difference. -/
  unsuffixed : ∀ s' : String, IsStem stem s'.toList → parse? s' = parse? s
  written : ∀ v : Version, v.text = s → parse? s = some v
  /-- A build has the version of its text, or version 2.0.0.0 if the text has none. -/
  ofBuild_iff :
    ∀ v, ofBuild s = v ↔ Dotted v stem ∨ (¬ ∃ other, Dotted other stem) ∧ v = ⟨2, 0, 0, 0⟩

/-- Every text is read by its stem alone, and as the version that was written. -/
theorem readByStem
    (s : String) :
    ReadByStem s (core s.toList) where
  isStem := isStem_iff.mpr rfl
  accepted_iff := by
    rw [Option.isSome_iff_exists]
    exact exists_congr (parse?_eq_some_iff s)
  value_iff := parse?_eq_some_iff s
  unsuffixed s' isStem := by
    refine Option.ext fun v => ?_
    rw [parse?_eq_some_iff, parse?_eq_some_iff, ← isStem_iff.mp isStem]
  written v same := same ▸ parse?_text v
  ofBuild_iff v := by
    simp only [← parse?_eq_some_iff, ofBuild]
    cases parse? s with
    | none =>
        simp [fallback, eq_comm]
    | some read =>
        simp

/-- Zeros in front make no difference, and a plus sign is the beginning of a suffix. -/
example :
    parse? "01.002.0003+4" = some ⟨1, 2, 3, 0⟩ ∧ parse? "1.2.+3" = none ∧
      parse? "1.2.4294967296" = none := by
  decide +kernel

end Notary.Version
