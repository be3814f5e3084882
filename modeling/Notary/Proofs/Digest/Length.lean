import Notary.Digest.Argon2

namespace Notary.Digest

/-!
# The length of digests

A digest has the length that was asked for, whatever goes into it.
-/

/-- A word is eight bytes. -/
theorem length_flatMap_wordBytes
    (words : List UInt64) :
    (words.flatMap wordBytes).length = 8 * words.length := by
  induction words with
  | nil =>
      rfl
  | cons word words inductionHypothesis =>
      rw [List.flatMap_cons, List.length_append, inductionHypothesis, List.length_cons]
      have bytes : (wordBytes word).length = 8 := rfl
      omega

namespace Blake2b

variable
    {h : List UInt64}

/-- A block of the message leaves eight words. -/
theorem length_compress
    (eight : h.length = 8)
    (m : Words)
    (count : Nat)
    (last : Bool) :
    (compress h m count last).length = 8 := by
  simp [compress, Words.toList, eight]

/-- To absorb blocks keeps a state of eight words. -/
theorem length_absorb
    (eight : h.length = 8)
    (count left : Nat)
    (message : List UInt8) :
    (absorb h count left message).length = 8 := by
  induction left generalizing h count message with
  | zero =>
      exact length_compress eight _ _ _
  | succ left inductionHypothesis =>
      exact inductionHypothesis (length_compress eight _ _ _) _ _

/-- A digest is as long as was asked for, up to the eight words of the state. -/
theorem length_hash
    {size : Nat}
    (fits : size ≤ 64)
    (message : List UInt8) :
    (hash size message).length = size := by
  rw [hash, List.length_take, length_flatMap_wordBytes]
  simp only [initial]
  rw [length_absorb rfl]
  omega

end Blake2b

namespace Argon2

/-- Each further digest adds thirty-two bytes to a long one. -/
theorem length_stretch
    (left : Nat)
    {previous : List UInt8}
    (long : previous.length = 64) :
    (stretch left previous).length = 32 * left := by
  induction left generalizing previous with
  | zero =>
      rfl
  | succ left inductionHypothesis =>
      rw [stretch, List.length_append, List.length_take, long,
        inductionHypothesis (Blake2b.length_hash (by decide) previous)]
      omega

/-- A long digest is as long as was asked for, whatever the length. -/
theorem length_longHash
    (size : Nat)
    (message : List UInt8) :
    (longHash size message).length = size := by
  rw [longHash]
  split
  case isTrue short =>
    exact Blake2b.length_hash short _
  case isFalse long =>
    have first : (Blake2b.hash 64 (numberBytes size ++ message)).length = 64 :=
      Blake2b.length_hash (by decide) _
    rw [List.length_append, length_stretch _ first, Blake2b.length_hash (by omega)]
    omega

/-- A hash of a password is as long as its settings tell. -/
theorem length_hash
    (s : Settings)
    (password salt : List UInt8) :
    (hash s password salt).length = s.size :=
  length_longHash s.size _

end Argon2

end Notary.Digest
