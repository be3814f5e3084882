import Notary.Text.Base64

namespace Notary.Text.Base64

/-!
# Base64 gives the bytes back

Three bytes make four digits, and the values of the digits are the six-bit pieces of the
bytes. A shorter group at the end leaves no stray bits, so it is read as well.
-/

/-- Each of the 64 digits stands for its own value. -/
theorem value?_digit
    {value : Nat}
    (small : value < 64) :
    value? (digit value) = some value := by
  revert value
  decide

theorem digit_ne_pad
    {value : Nat}
    (small : value < 64) :
    digit value ≠ '=' := by
  intro same
  have known := value?_digit small
  rw [same] at known
  cases known

/-- The value of a sum of pieces of bytes, as a byte. -/
theorem toUInt8_eq
    {value : Nat}
    {byte : UInt8}
    (same : value = byte.toNat) :
    value.toUInt8 = byte := by
  rw [same]
  exact UInt8.ofNat_toNat

section Groups

variable (a b c : UInt8)

theorem first_lt :
    a.toNat / 4 < 64 := by
  have bound := a.toNat_lt
  omega

theorem second_lt :
    a.toNat % 4 * 16 + b.toNat / 16 < 64 := by
  have bound := b.toNat_lt
  omega

theorem third_lt :
    b.toNat % 16 * 4 + c.toNat / 64 < 64 := by
  have bound := c.toNat_lt
  omega

theorem fourth_lt :
    c.toNat % 64 < 64 :=
  Nat.mod_lt _ (by decide)

theorem second_last_lt :
    a.toNat % 4 * 16 < 64 := by
  omega

theorem third_last_lt :
    b.toNat % 16 * 4 < 64 := by
  omega

/-- The four digits of three bytes give the three bytes back. -/
theorem quad_eq :
    quad (a.toNat / 4) (a.toNat % 4 * 16 + b.toNat / 16) (b.toNat % 16 * 4 + c.toNat / 64)
        (c.toNat % 64) =
      [a, b, c] := by
  have boundB := b.toNat_lt
  have boundC := c.toNat_lt
  have first : (a.toNat / 4 * 4 + (a.toNat % 4 * 16 + b.toNat / 16) / 16).toUInt8 = a :=
    toUInt8_eq (by omega)
  have second :
      ((a.toNat % 4 * 16 + b.toNat / 16) % 16 * 16 +
        (b.toNat % 16 * 4 + c.toNat / 64) / 4).toUInt8 = b :=
    toUInt8_eq (by omega)
  have third :
      ((b.toNat % 16 * 4 + c.toNat / 64) % 4 * 64 + c.toNat % 64).toUInt8 = c :=
    toUInt8_eq (by omega)
  rw [quad, first, second, third]

theorem triple?_eq :
    triple? (a.toNat / 4) (a.toNat % 4 * 16 + b.toNat / 16) (b.toNat % 16 * 4) =
      some [a, b] := by
  have bound := b.toNat_lt
  have first : (a.toNat / 4 * 4 + (a.toNat % 4 * 16 + b.toNat / 16) / 16).toUInt8 = a :=
    toUInt8_eq (by omega)
  have second :
      ((a.toNat % 4 * 16 + b.toNat / 16) % 16 * 16 + b.toNat % 16 * 4 / 4).toUInt8 = b :=
    toUInt8_eq (by omega)
  rw [triple?, if_pos (by omega), first, second]

/-- The two digits of one last byte give it back, with no bits left over. -/
theorem pair?_eq :
    pair? (a.toNat / 4) (a.toNat % 4 * 16) = some [a] := by
  have first : (a.toNat / 4 * 4 + a.toNat % 4 * 16 / 16).toUInt8 = a :=
    toUInt8_eq (by omega)
  rw [pair?, if_pos (by omega), first]

end Groups

/-- Bytes written without padding are read back. -/
theorem decodeUnpadded?_encodeUnpadded
    (bytes : List UInt8) :
    decodeUnpadded? (encodeUnpadded bytes) = some bytes := by
  induction bytes using encodeUnpadded.induct with
  | case1 a b c rest inductionHypothesis =>
      simp only [encodeUnpadded, decodeUnpadded?, value?_digit (first_lt a),
        value?_digit (second_lt a b), value?_digit (third_lt b c), value?_digit (fourth_lt c),
        inductionHypothesis]
      exact congrArg (fun head => some (head ++ rest)) (quad_eq a b c)
  | case2 a b =>
      simp only [encodeUnpadded, decodeUnpadded?, value?_digit (first_lt a),
        value?_digit (second_lt a b), value?_digit (third_last_lt b)]
      exact triple?_eq a b
  | case3 a =>
      simp only [encodeUnpadded, decodeUnpadded?, value?_digit (first_lt a),
        value?_digit (second_last_lt a)]
      exact pair?_eq a
  | case4 =>
      rfl

/-- Bytes written with padding are read back. -/
theorem decode?_encode
    (bytes : List UInt8) :
    decode? (encode bytes) = some bytes := by
  induction bytes using encode.induct with
  | case1 a b c rest inductionHypothesis =>
      have noPad := digit_ne_pad (fourth_lt c)
      rw [encode, decode?, if_neg fun pad => noPad pad.1]
      simp only [value?_digit (first_lt a), value?_digit (second_lt a b),
        value?_digit (third_lt b c), value?_digit (fourth_lt c), inductionHypothesis]
      exact congrArg (fun head => some (head ++ rest)) (quad_eq a b c)
  | case2 a b =>
      have noPad := digit_ne_pad (third_last_lt b)
      rw [encode, decode?, if_pos ⟨rfl, rfl⟩, if_neg noPad]
      simp only [value?_digit (first_lt a), value?_digit (second_lt a b),
        value?_digit (third_last_lt b)]
      exact triple?_eq a b
  | case3 a =>
      rw [encode, decode?, if_pos ⟨rfl, rfl⟩, if_pos rfl]
      simp only [value?_digit (first_lt a), value?_digit (second_last_lt a)]
      exact pair?_eq a
  | case4 =>
      rfl

/-- Without padding, every three bytes make four digits, and each byte left one digit more. -/
theorem length_encodeUnpadded
    (bytes : List UInt8) :
    (encodeUnpadded bytes).length = (4 * bytes.length + 2) / 3 := by
  induction bytes using encodeUnpadded.induct with
  | case1 a b c rest inductionHypothesis =>
      simp only [encodeUnpadded, List.length_cons, inductionHypothesis]
      omega
  | case2 a b =>
      simp [encodeUnpadded]
  | case3 a =>
      simp [encodeUnpadded]
  | case4 =>
      simp [encodeUnpadded]

/-- With padding, every three bytes make four digits, as do the bytes left. -/
theorem length_encode
    (bytes : List UInt8) :
    (encode bytes).length = (bytes.length + 2) / 3 * 4 := by
  induction bytes using encode.induct with
  | case1 a b c rest inductionHypothesis =>
      simp only [encode, List.length_cons, inductionHypothesis]
      omega
  | case2 a b =>
      simp [encode]
  | case3 a =>
      simp [encode]
  | case4 =>
      simp [encode]

/-- What holds of all digits holds of all characters of a text without padding. -/
theorem forall_mem_encodeUnpadded
    {property : Char → Prop}
    (digits : ∀ value < 64, property (digit value))
    (bytes : List UInt8) :
    ∀ c ∈ encodeUnpadded bytes, property c := by
  induction bytes using encodeUnpadded.induct with
  | case1 a b c rest inductionHypothesis =>
      simp only [encodeUnpadded, List.forall_mem_cons]
      exact ⟨digits _ (first_lt a), digits _ (second_lt a b), digits _ (third_lt b c),
        digits _ (fourth_lt c), inductionHypothesis⟩
  | case2 a b =>
      simp only [encodeUnpadded, List.forall_mem_cons]
      exact ⟨digits _ (first_lt a), digits _ (second_lt a b), digits _ (third_last_lt b),
        fun _ inside => nomatch inside⟩
  | case3 a =>
      simp only [encodeUnpadded, List.forall_mem_cons]
      exact ⟨digits _ (first_lt a), digits _ (second_last_lt a), fun _ inside => nomatch inside⟩
  | case4 =>
      exact fun _ inside => nomatch inside

end Notary.Text.Base64
