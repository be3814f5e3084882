import Notary.Proofs.Text.Utf8

namespace Notary.Text

/-!
# Well-formed UTF-8

Bytes are well-formed when they are what some text is written as. A number is read from
bytes only where they start with the character of that number, so no overlong form, no
surrogate and no truncated character is read. Hence exactly the well-formed bytes are read
as UTF-8, and writing the text again gives them back.
-/

/-- Bytes that some text is written as. -/
def WellFormed (bytes : List UInt8) : Prop :=
  ∃ cs, encodeUtf8 cs = bytes

variable
    {v width : Nat}
    {first b₁ b₂ b₃ : UInt8}
    {rest bytes : List UInt8}

/-- The character of a scalar value has that value; the numbers left out are the surrogates. -/
theorem val_ofNat
    (isScalar : v < 0xD800 ∨ 0xE000 ≤ v ∧ v < 0x110000) :
    (Char.ofNat v).val.toNat = v := by
  have valid : v.isValidChar := isScalar
  rw [Char.ofNat, dif_pos valid]
  rfl

theorem utf8EncodeChar_one
    (small : v < 0x80)
    (isFirst : first.toNat = v) :
    String.utf8EncodeChar (Char.ofNat v) = [first] := by
  have number := val_ofNat (v := v) (.inl (by omega))
  have one : v ≤ 127 := by omega
  simp only [String.utf8EncodeChar, number]
  rw [if_pos one, ← isFirst, UInt8.ofNat_toNat]

theorem utf8EncodeChar_two
    (low : 0x80 ≤ v)
    (high : v < 0x800)
    (isFirst : first.toNat = v / 0x40 % 0x20 + 0xC0)
    (is₁ : b₁.toNat = v % 0x40 + 0x80) :
    String.utf8EncodeChar (Char.ofNat v) = [first, b₁] := by
  have number := val_ofNat (v := v) (.inl (by omega))
  have notOne : ¬ v ≤ 127 := by omega
  have two : v ≤ 2047 := by omega
  simp only [String.utf8EncodeChar, number]
  rw [if_neg notOne, if_pos two, ← isFirst, ← is₁]
  simp only [UInt8.ofNat_toNat]

theorem utf8EncodeChar_three
    (low : 0x800 ≤ v)
    (high : v < 0x10000)
    (isScalar : v < 0xD800 ∨ 0xE000 ≤ v)
    (isFirst : first.toNat = v / 0x1000 % 0x10 + 0xE0)
    (is₁ : b₁.toNat = v / 0x40 % 0x40 + 0x80)
    (is₂ : b₂.toNat = v % 0x40 + 0x80) :
    String.utf8EncodeChar (Char.ofNat v) = [first, b₁, b₂] := by
  have number := val_ofNat (v := v) (by omega)
  have notOne : ¬ v ≤ 127 := by omega
  have notTwo : ¬ v ≤ 2047 := by omega
  have three : v ≤ 65535 := by omega
  simp only [String.utf8EncodeChar, number]
  rw [if_neg notOne, if_neg notTwo, if_pos three, ← isFirst, ← is₁, ← is₂]
  simp only [UInt8.ofNat_toNat]

theorem utf8EncodeChar_four
    (low : 0x10000 ≤ v)
    (high : v < 0x110000)
    (isFirst : first.toNat = v / 0x40000 % 0x08 + 0xF0)
    (is₁ : b₁.toNat = v / 0x1000 % 0x40 + 0x80)
    (is₂ : b₂.toNat = v / 0x40 % 0x40 + 0x80)
    (is₃ : b₃.toNat = v % 0x40 + 0x80) :
    String.utf8EncodeChar (Char.ofNat v) = [first, b₁, b₂, b₃] := by
  have number := val_ofNat (v := v) (.inr (by omega))
  have notOne : ¬ v ≤ 127 := by omega
  have notTwo : ¬ v ≤ 2047 := by omega
  have notThree : ¬ v ≤ 65535 := by omega
  simp only [String.utf8EncodeChar, number]
  rw [if_neg notOne, if_neg notTwo, if_neg notThree, ← isFirst, ← is₁, ← is₂, ← is₃]
  simp only [UInt8.ofNat_toNat]

/-! ## What is read stands there -/

/-- Some bytes start with the character of a number, written in as many bytes as told. -/
def StartsWith (first : UInt8) (rest : List UInt8) (v width : Nat) : Prop :=
  String.utf8EncodeChar (Char.ofNat v) ++ rest.drop (width - 1) = first :: rest

/-- What is read after a leading byte of two is a well-formed start. -/
theorem startsWith_of_leadTwo
    (low : 0xC2 ≤ first.toNat)
    (high : first.toNat < 0xE0)
    (reads : leadTwo first rest = .scalar v width) :
    StartsWith first rest v width := by
  cases rest with
  | nil =>
      cases reads
  | cons b₁ more =>
      rw [leadTwo] at reads
      split at reads
      case isTrue continued =>
        rw [isContinuation_iff] at continued
        obtain ⟨rfl, rfl⟩ := Lead.scalar.inj reads
        have written :
            String.utf8EncodeChar
                (Char.ofNat ((first.toNat - 0xC0) * 0x40 + tailBits b₁)) = [first, b₁] := by
          simp only [tailBits_eq]
          exact utf8EncodeChar_two (by omega) (by omega) (by omega) (by omega)
        rw [StartsWith, written]
        rfl
      case isFalse =>
        cases reads

/-- The lower bound excludes overlong forms, and the upper one keeps out surrogates. -/
theorem startsWith_of_leadThree
    {lowest highest : UInt8}
    (low : 0xE0 ≤ first.toNat)
    (high : first.toNat < 0xF0)
    (tail : 0x80 ≤ lowest.toNat ∧ highest.toNat ≤ 0xBF)
    (notOverlong : first.toNat = 0xE0 → 0xA0 ≤ lowest.toNat)
    (notSurrogate : first.toNat = 0xED → highest.toNat ≤ 0x9F)
    (reads : leadThree first lowest highest rest = .scalar v width) :
    StartsWith first rest v width := by
  match rest with
  | [] =>
      cases reads
  | [b₁] =>
      rw [leadThree] at reads
      split at reads <;> cases reads
  | b₁ :: b₂ :: more =>
      rw [leadThree] at reads
      split at reads
      case isTrue inside =>
        simp only [Bool.and_eq_true, decide_eq_true_eq, UInt8.le_iff_toNat_le] at inside
        split at reads
        case isTrue continued =>
          rw [isContinuation_iff] at continued
          obtain ⟨rfl, rfl⟩ := Lead.scalar.inj reads
          have written :
              String.utf8EncodeChar
                  (Char.ofNat
                    ((first.toNat - 0xE0) * 0x1000 + tailBits b₁ * 0x40 + tailBits b₂)) =
                [first, b₁, b₂] := by
            simp only [tailBits_eq]
            exact utf8EncodeChar_three (by omega) (by omega) (by omega) (by omega) (by omega)
              (by omega)
          rw [StartsWith, written]
          rfl
        case isFalse =>
          cases reads
      case isFalse =>
        cases reads

/-- The bounds exclude overlong forms and numbers past the last character. -/
theorem startsWith_of_leadFour
    {lowest highest : UInt8}
    (low : 0xF0 ≤ first.toNat)
    (high : first.toNat ≤ 0xF4)
    (tail : 0x80 ≤ lowest.toNat ∧ highest.toNat ≤ 0xBF)
    (notOverlong : first.toNat = 0xF0 → 0x90 ≤ lowest.toNat)
    (notPast : first.toNat = 0xF4 → highest.toNat ≤ 0x8F)
    (reads : leadFour first lowest highest rest = .scalar v width) :
    StartsWith first rest v width := by
  match rest with
  | [] =>
      cases reads
  | [b₁] =>
      rw [leadFour] at reads
      split at reads <;> cases reads
  | [b₁, b₂] =>
      rw [leadFour] at reads
      split at reads
      · split at reads <;> cases reads
      · cases reads
  | b₁ :: b₂ :: b₃ :: more =>
      rw [leadFour] at reads
      split at reads
      case isTrue inside =>
        simp only [Bool.and_eq_true, decide_eq_true_eq, UInt8.le_iff_toNat_le] at inside
        split at reads
        case isTrue continued₂ =>
          rw [isContinuation_iff] at continued₂
          split at reads
          case isTrue continued₃ =>
            rw [isContinuation_iff] at continued₃
            obtain ⟨rfl, rfl⟩ := Lead.scalar.inj reads
            have written :
                String.utf8EncodeChar
                    (Char.ofNat
                      ((first.toNat - 0xF0) * 0x40000 + tailBits b₁ * 0x1000 +
                        tailBits b₂ * 0x40 + tailBits b₃)) =
                  [first, b₁, b₂, b₃] := by
              simp only [tailBits_eq]
              exact utf8EncodeChar_four (by omega) (by omega) (by omega) (by omega) (by omega)
                (by omega)
            rw [StartsWith, written]
            rfl
          case isFalse =>
            cases reads
        case isFalse =>
          cases reads
      case isFalse =>
        cases reads

/-- A number is read only where the bytes start with its character. -/
theorem startsWith_of_lead
    (reads : lead first rest = .scalar v width) :
    StartsWith first rest v width := by
  have byte := first.toNat_lt
  -- One case for each kind of first byte, in the order in which they are told apart.
  rw [lead_eq] at reads
  split at reads
  case isTrue ascii =>
    cases reads
    rw [StartsWith, utf8EncodeChar_one ascii rfl]
    rfl
  split at reads
  case isTrue => cases reads
  split at reads
  case isTrue two => exact startsWith_of_leadTwo (by omega) two reads
  split at reads
  case isTrue isFirst =>
    exact startsWith_of_leadThree (by omega) (by omega) (by decide) (fun _ => by decide) (by omega)
      reads
  split at reads
  case isTrue isFirst =>
    exact startsWith_of_leadThree (by omega) (by omega) (by decide) (by omega) (fun _ => by decide)
      reads
  split at reads
  case isTrue three =>
    exact startsWith_of_leadThree (by omega) three (by decide) (by omega) (by omega) reads
  split at reads
  case isTrue isFirst =>
    exact startsWith_of_leadFour (by omega) (by omega) (by decide) (fun _ => by decide) (by omega)
      reads
  split at reads
  case isTrue four =>
    exact startsWith_of_leadFour (by omega) (by omega) (by decide) (by omega) (by omega) reads
  split at reads
  case isTrue isFirst =>
    exact startsWith_of_leadFour (by omega) (by omega) (by decide) (by omega) (fun _ => by decide)
      reads
  case isFalse => cases reads

/-! ## What is read is written again -/

/-- A text that is read from bytes is written as just these bytes. -/
theorem encodeUtf8_of_decodeUtf8?
    {bytes : List UInt8}
    {cs : List Char}
    (reads : decodeUtf8? bytes = some cs) :
    encodeUtf8 cs = bytes := by
  induction lengthEq : bytes.length using Nat.strongRecOn generalizing bytes cs with
  | ind length inductionHypothesis =>
      cases bytes with
      | nil =>
          cases reads
          rfl
      | cons first rest =>
          rw [decodeUtf8?, symbols, symbolsFrom] at reads
          cases starts : lead first rest with
          | illFormed width =>
              simp only [starts, List.mapM_cons] at reads
              cases reads
          | scalar v width =>
              simp only [starts, symbolsFrom_eq, List.mapM_cons, Symbol.char?,
                Option.bind_eq_bind, Option.bind_some, Option.bind_eq_some_iff] at reads
              obtain ⟨later, readsLater, same⟩ := reads
              cases same
              have shorter : (rest.drop (width - 1)).length < length := by
                rw [List.length_drop, ← lengthEq, List.length_cons]
                omega
              have writtenLater : encodeUtf8 later = rest.drop (width - 1) :=
                inductionHypothesis _ shorter readsLater rfl
              calc
                encodeUtf8 (Char.ofNat v :: later) =
                    String.utf8EncodeChar (Char.ofNat v) ++ encodeUtf8 later := by
                  rw [encodeUtf8, List.flatMap_cons, encodeUtf8]
                _ = String.utf8EncodeChar (Char.ofNat v) ++ rest.drop (width - 1) := by
                  rw [writtenLater]
                _ = first :: rest := startsWith_of_lead starts

/-- Bytes are read as a text exactly if the text is written as these bytes. -/
theorem decodeUtf8?_eq_some_iff
    {cs : List Char} :
    decodeUtf8? bytes = some cs ↔ encodeUtf8 cs = bytes := by
  constructor
  · exact encodeUtf8_of_decodeUtf8?
  · intro written
    rw [← written, decodeUtf8?_encodeUtf8]

/-- Decoding fails exactly on bytes that are not well-formed. -/
theorem decodeUtf8?_eq_none_iff :
    decodeUtf8? bytes = none ↔ ¬ WellFormed bytes := by
  rw [Option.eq_none_iff_forall_ne_some, WellFormed, not_exists]
  exact forall_congr' fun cs => not_congr decodeUtf8?_eq_some_iff

/-- Overlong forms, surrogates, numbers past the last one and truncated characters. -/
example :
    ∀ bytes ∈ [[0xC0, 0x80], [0xE0, 0x9F, 0xBF], [0xED, 0xA0, 0x80], [0xF4, 0x90, 0x80, 0x80],
        [0xE2, 0x82]],
      decodeUtf8? bytes = none := by
  decide

/-! ## The byte order mark -/

/-- One mark is dropped from the bytes that start with it, and nothing from others. -/
theorem dropByteOrderMark_spec
    (bytes : List UInt8) :
    byteOrderMark ++ dropByteOrderMark bytes = bytes ∨
      ¬ byteOrderMark <+: bytes ∧ dropByteOrderMark bytes = bytes := by
  unfold dropByteOrderMark
  split
  case h_1 rest =>
    exact .inl rfl
  case h_2 unmarked =>
    refine .inr ⟨?_, rfl⟩
    rintro ⟨rest, rfl⟩
    exact unmarked rest rfl

theorem dropByteOrderMark_of_unmarked
    (unmarked : ¬ byteOrderMark <+: bytes) :
    dropByteOrderMark bytes = bytes := by
  rcases dropByteOrderMark_spec bytes with marked | ⟨_, same⟩
  · exact (unmarked ⟨_, marked⟩).elim
  · exact same

/-- Skipping bytes and then decoding is decoding what is left of them. -/
theorem decodeLossyFrom_eq
    (skip : Nat)
    (bytes : List UInt8) :
    decodeLossyFrom skip bytes = decodeLossy (bytes.drop skip) := by
  induction bytes generalizing skip with
  | nil =>
      rw [List.drop_nil]
      rfl
  | cons b rest inductionHypothesis =>
      cases skip with
      | zero =>
          rfl
      | succ skip =>
          exact inductionHypothesis skip

/-- Nothing is replaced in the bytes of a text. -/
theorem decodeLossy_encodeUtf8
    (cs : List Char) :
    decodeLossy (encodeUtf8 cs) = cs := by
  induction cs with
  | nil =>
      rfl
  | cons c cs inductionHypothesis =>
      obtain ⟨first, tail, written, reads⟩ := exists_lead_utf8EncodeChar c (encodeUtf8 cs)
      have writtenAll : encodeUtf8 (c :: cs) = first :: (tail ++ encodeUtf8 cs) := by
        rw [encodeUtf8, List.flatMap_cons, written, List.cons_append]
        rfl
      rw [writtenAll, decodeLossy, decodeLossyFrom, reads]
      simp only [Nat.add_sub_cancel, decodeLossyFrom_eq, List.drop_left, Char.ofNat_toNat,
        inductionHypothesis]

/-- In ISO 8859-1, there is one character for each byte, with the number of the byte. -/
theorem map_toNat_decodeLatin1
    (bytes : List UInt8) :
    (decodeLatin1 bytes).map Char.toNat = bytes.map UInt8.toNat := by
  rw [decodeLatin1, List.map_map]
  refine List.map_congr_left fun b _ => ?_
  have byte := b.toNat_lt
  exact val_ofNat (.inl (by omega))

end Notary.Text
