import Notary.Text.Utf8

namespace Notary.Text

/-!
# UTF-8 gives the text back

The bytes of a character are the six-bit pieces of its number, and how they start tells
their number. So a character is read from the bytes it is written as, whatever follows.
-/

variable
    {v : Nat}
    {first b₁ b₂ b₃ : UInt8}

theorem isContinuation_iff
    {b : UInt8} :
    isContinuation b = true ↔ 0x80 ≤ b.toNat ∧ b.toNat ≤ 0xBF := by
  simp [isContinuation, UInt8.le_iff_toNat_le]

theorem tailBits_eq
    (b : UInt8) :
    tailBits b = b.toNat - 0x80 :=
  rfl

/-- The kinds of first bytes, by their numbers. -/
theorem lead_eq
    (first : UInt8)
    (rest : List UInt8) :
    lead first rest =
      if first.toNat < 0x80 then .scalar first.toNat 1
      else if first.toNat < 0xC2 then .illFormed 1
      else if first.toNat < 0xE0 then leadTwo first rest
      else if first.toNat = 0xE0 then leadThree first 0xA0 0xBF rest
      else if first.toNat = 0xED then leadThree first 0x80 0x9F rest
      else if first.toNat < 0xF0 then leadThree first 0x80 0xBF rest
      else if first.toNat = 0xF0 then leadFour first 0x90 0xBF rest
      else if first.toNat < 0xF4 then leadFour first 0x80 0xBF rest
      else if first.toNat = 0xF4 then leadFour first 0x80 0x8F rest
      else .illFormed 1 := by
  simp only [lead, UInt8.lt_iff_toNat_lt, beq_iff_eq, ← UInt8.toNat_inj, UInt8.reduceToNat]

theorem lead_one
    (small : v < 0x80)
    (isFirst : first.toNat = v)
    (rest : List UInt8) :
    lead first rest = .scalar v 1 := by
  rw [lead_eq, isFirst, if_pos small]

/-- The two bytes written for a scalar below `0x800` are read as that scalar. -/
theorem lead_two
    (low : 0x80 ≤ v)
    (high : v < 0x800)
    (isFirst : first.toNat = v / 0x40 % 0x20 + 0xC0)
    (is₁ : b₁.toNat = v % 0x40 + 0x80)
    (rest : List UInt8) :
    lead first (b₁ :: rest) = .scalar v 2 := by
  have continued : isContinuation b₁ = true := by
    rw [isContinuation_iff]
    omega
  have reads : leadTwo first (b₁ :: rest) = .scalar v 2 := by
    have value : (first.toNat - 0xC0) * 0x40 + tailBits b₁ = v := by
      simp only [tailBits_eq]
      omega
    rw [leadTwo, if_pos continued, value]
  have notAscii : ¬ first.toNat < 0x80 := by omega
  have formed : ¬ first.toNat < 0xC2 := by omega
  have two : first.toNat < 0xE0 := by omega
  rw [lead_eq, if_neg notAscii, if_neg formed, if_pos two, reads]

/-- Three bytes are read if the second one lies between the bounds. -/
theorem leadThree_of_bounds
    (low high : UInt8)
    (small : v < 0x10000)
    (isFirst : first.toNat = v / 0x1000 % 0x10 + 0xE0)
    (is₁ : b₁.toNat = v / 0x40 % 0x40 + 0x80)
    (is₂ : b₂.toNat = v % 0x40 + 0x80)
    (bounded : low.toNat ≤ b₁.toNat ∧ b₁.toNat ≤ high.toNat)
    (rest : List UInt8) :
    leadThree first low high (b₁ :: b₂ :: rest) = .scalar v 3 := by
  have inside : (low ≤ b₁ && b₁ ≤ high) = true := by
    simpa [UInt8.le_iff_toNat_le] using bounded
  have continued : isContinuation b₂ = true := by
    rw [isContinuation_iff]
    omega
  have value :
      (first.toNat - 0xE0) * 0x1000 + tailBits b₁ * 0x40 + tailBits b₂ = v := by
    simp only [tailBits_eq]
    omega
  rw [leadThree, if_pos inside, if_pos continued, value]

theorem lead_three
    (low : 0x800 ≤ v)
    (high : v < 0x10000)
    (isScalar : v < 0xD800 ∨ 0xE000 ≤ v)
    (isFirst : first.toNat = v / 0x1000 % 0x10 + 0xE0)
    (is₁ : b₁.toNat = v / 0x40 % 0x40 + 0x80)
    (is₂ : b₂.toNat = v % 0x40 + 0x80)
    (rest : List UInt8) :
    lead first (b₁ :: b₂ :: rest) = .scalar v 3 := by
  have notAscii : ¬ first.toNat < 0x80 := by omega
  have formed : ¬ first.toNat < 0xC2 := by omega
  have notTwo : ¬ first.toNat < 0xE0 := by omega
  rw [lead_eq, if_neg notAscii, if_neg formed, if_neg notTwo]
  by_cases lowest : first.toNat = 0xE0
  · have bounded : 0xA0 ≤ b₁.toNat ∧ b₁.toNat ≤ 0xBF := by omega
    rw [if_pos lowest]
    exact leadThree_of_bounds 0xA0 0xBF high isFirst is₁ is₂ bounded rest
  · rw [if_neg lowest]
    by_cases nearSurrogates : first.toNat = 0xED
    · have bounded : 0x80 ≤ b₁.toNat ∧ b₁.toNat ≤ 0x9F := by omega
      rw [if_pos nearSurrogates]
      exact leadThree_of_bounds 0x80 0x9F high isFirst is₁ is₂ bounded rest
    · have bounded : 0x80 ≤ b₁.toNat ∧ b₁.toNat ≤ 0xBF := by omega
      have three : first.toNat < 0xF0 := by omega
      rw [if_neg nearSurrogates, if_pos three]
      exact leadThree_of_bounds 0x80 0xBF high isFirst is₁ is₂ bounded rest

/-- Four bytes are read if the second one lies between the bounds. -/
theorem leadFour_of_bounds
    (low high : UInt8)
    (small : v < 0x110000)
    (isFirst : first.toNat = v / 0x40000 % 0x08 + 0xF0)
    (is₁ : b₁.toNat = v / 0x1000 % 0x40 + 0x80)
    (is₂ : b₂.toNat = v / 0x40 % 0x40 + 0x80)
    (is₃ : b₃.toNat = v % 0x40 + 0x80)
    (bounded : low.toNat ≤ b₁.toNat ∧ b₁.toNat ≤ high.toNat)
    (rest : List UInt8) :
    leadFour first low high (b₁ :: b₂ :: b₃ :: rest) = .scalar v 4 := by
  have inside : (low ≤ b₁ && b₁ ≤ high) = true := by
    simpa [UInt8.le_iff_toNat_le] using bounded
  have continued₂ : isContinuation b₂ = true := by
    rw [isContinuation_iff]
    omega
  have continued₃ : isContinuation b₃ = true := by
    rw [isContinuation_iff]
    omega
  have value :
      (first.toNat - 0xF0) * 0x40000 + tailBits b₁ * 0x1000 + tailBits b₂ * 0x40 + tailBits b₃ =
        v := by
    simp only [tailBits_eq]
    omega
  rw [leadFour, if_pos inside, if_pos continued₂, if_pos continued₃, value]

/-- The four bytes written for a scalar from `0x10000` on are read as that scalar. -/
theorem lead_four
    (low : 0x10000 ≤ v)
    (high : v < 0x110000)
    (isFirst : first.toNat = v / 0x40000 % 0x08 + 0xF0)
    (is₁ : b₁.toNat = v / 0x1000 % 0x40 + 0x80)
    (is₂ : b₂.toNat = v / 0x40 % 0x40 + 0x80)
    (is₃ : b₃.toNat = v % 0x40 + 0x80)
    (rest : List UInt8) :
    lead first (b₁ :: b₂ :: b₃ :: rest) = .scalar v 4 := by
  have notAscii : ¬ first.toNat < 0x80 := by omega
  have formed : ¬ first.toNat < 0xC2 := by omega
  have notTwo : ¬ first.toNat < 0xE0 := by omega
  have notThree : first.toNat ≠ 0xE0 ∧ first.toNat ≠ 0xED ∧ ¬ first.toNat < 0xF0 := by omega
  rw [lead_eq, if_neg notAscii, if_neg formed, if_neg notTwo, if_neg notThree.1,
    if_neg notThree.2.1, if_neg notThree.2.2]
  by_cases lowest : first.toNat = 0xF0
  · have bounded : 0x90 ≤ b₁.toNat ∧ b₁.toNat ≤ 0xBF := by omega
    rw [if_pos lowest]
    exact leadFour_of_bounds 0x90 0xBF high isFirst is₁ is₂ is₃ bounded rest
  · rw [if_neg lowest]
    by_cases below : first.toNat < 0xF4
    · have bounded : 0x80 ≤ b₁.toNat ∧ b₁.toNat ≤ 0xBF := by omega
      rw [if_pos below]
      exact leadFour_of_bounds 0x80 0xBF high isFirst is₁ is₂ is₃ bounded rest
    · have bounded : 0x80 ≤ b₁.toNat ∧ b₁.toNat ≤ 0x8F := by omega
      have highest : first.toNat = 0xF4 := by omega
      rw [if_neg below, if_pos highest]
      exact leadFour_of_bounds 0x80 0x8F high isFirst is₁ is₂ is₃ bounded rest

theorem toNat_ofNat_of_lt
    {n : Nat}
    (isByte : n < 256) :
    (UInt8.ofNat n).toNat = n := by
  rw [UInt8.toNat_ofNat', Nat.mod_eq_of_lt isByte]

theorem toNat_isScalar
    (c : Char) :
    c.toNat < 0xD800 ∨ 0xE000 ≤ c.toNat ∧ c.toNat < 0x110000 := by
  rcases c.valid with low | ⟨high, last⟩
  · exact .inl low
  · exact .inr ⟨high, last⟩

/-- The bytes of a character start with its number, and take it up as a whole. -/
theorem exists_lead_utf8EncodeChar
    (c : Char)
    (rest : List UInt8) :
    ∃ first tail,
      String.utf8EncodeChar c = first :: tail ∧
        lead first (tail ++ rest) = .scalar c.toNat (tail.length + 1) := by
  have scalar := toNat_isScalar c
  have number : c.val.toNat = c.toNat := rfl
  simp only [String.utf8EncodeChar, number]
  generalize c.toNat = v at scalar
  split
  case isTrue one =>
    exact ⟨_, [], rfl, lead_one (by omega) (toNat_ofNat_of_lt (by omega)) rest⟩
  case isFalse notOne =>
    split
    case isTrue two =>
      exact ⟨_, [_], rfl,
        lead_two (by omega) (by omega) (toNat_ofNat_of_lt (by omega))
          (toNat_ofNat_of_lt (by omega)) rest⟩
    case isFalse notTwo =>
      split
      case isTrue three =>
        exact ⟨_, [_, _], rfl,
          lead_three (by omega) (by omega) (by omega) (toNat_ofNat_of_lt (by omega))
            (toNat_ofNat_of_lt (by omega)) (toNat_ofNat_of_lt (by omega)) rest⟩
      case isFalse notThree =>
        exact ⟨_, [_, _, _], rfl,
          lead_four (by omega) (by omega) (toNat_ofNat_of_lt (by omega))
            (toNat_ofNat_of_lt (by omega)) (toNat_ofNat_of_lt (by omega))
            (toNat_ofNat_of_lt (by omega)) rest⟩

/-- The bytes that are skipped do not matter. -/
theorem symbolsFrom_eq
    (skip : Nat)
    (bytes : List UInt8) :
    symbolsFrom skip bytes = symbols (bytes.drop skip) := by
  induction bytes generalizing skip with
  | nil =>
      rw [List.drop_nil]
      rfl
  | cons b rest inductionHypothesis =>
      cases skip with
      | zero =>
          rfl
      | succ skip =>
          exact inductionHypothesis skip

/-- The bytes of one character are read as that character, whatever follows. -/
theorem symbols_utf8EncodeChar_append
    (c : Char)
    (rest : List UInt8) :
    symbols (String.utf8EncodeChar c ++ rest) = .char c :: symbols rest := by
  obtain ⟨first, tail, written, reads⟩ := exists_lead_utf8EncodeChar c rest
  rw [written, List.cons_append, symbols, symbolsFrom, reads]
  simp only [Nat.add_sub_cancel, symbolsFrom_eq, List.drop_left, Char.ofNat_toNat]

/-- The symbols of a text in UTF-8 are its characters. -/
theorem symbols_encodeUtf8
    (cs : List Char) :
    symbols (encodeUtf8 cs) = cs.map .char := by
  induction cs with
  | nil =>
      rfl
  | cons c cs inductionHypothesis =>
      rw [encodeUtf8, List.flatMap_cons, symbols_utf8EncodeChar_append, List.map_cons,
        ← inductionHypothesis]
      rfl

/-- Text written as UTF-8 is read back. -/
theorem decodeUtf8?_encodeUtf8
    (cs : List Char) :
    decodeUtf8? (encodeUtf8 cs) = some cs := by
  rw [decodeUtf8?, symbols_encodeUtf8, List.mapM_map]
  exact List.mapM_pure.trans (congrArg some (List.map_id cs))

theorem toListLoop_eq
    (bytes : ByteArray)
    (i : Nat)
    (before : List UInt8) :
    ByteArray.toList.loop bytes i before = before.reverse ++ bytes.data.toList.drop i := by
  fun_induction ByteArray.toList.loop bytes i before with
  | case1 i before inside inductionHypothesis =>
      have listed : i < bytes.data.toList.length := by
        simpa using inside
      have here : bytes.get! i = bytes.data.toList[i] := by
        have indexed : bytes.get! i = bytes.data[i]! := by
          cases bytes
          rfl
        rw [indexed, getElem!_pos bytes.data i inside]
        rfl
      rw [inductionHypothesis, here, List.drop_eq_getElem_cons listed, List.reverse_cons,
        List.append_assoc]
      rfl
  | case2 i before outside =>
      have past : bytes.data.toList.length ≤ i := by
        simpa using outside
      rw [List.drop_eq_nil_of_le past, List.append_nil]

/-- The bytes a string is stored in are the UTF-8 of its characters. -/
theorem toList_toByteArray
    (s : String) :
    s.toByteArray.toList = encodeUtf8 s.toList := by
  rw [ByteArray.toList, toListLoop_eq, ← String.utf8Encode_toList, List.utf8Encode]
  exact List.toList_data_toByteArray

end Notary.Text
