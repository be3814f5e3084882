import Mathlib.Data.List.Perm.Basic
import Notary.Text.Binary

namespace Notary.Text

/-!
# What makes a document binary

Bytes are counted one after another, the count may end early, and the share of the other
bytes is rounded down. All the same the verdict says something exact about the inspected
bytes. Their order plays no part in it, and no document becomes a text by having a byte that
is not textual in the place of one that is.
-/

/-- Tab, line feed, form feed, carriage return, or a byte from the space to the tilde. -/
def IsTextual (b : UInt8) : Prop :=
  b ∈ [0x09, 0x0A, 0x0C, 0x0D] ∨ 0x20 ≤ b ∧ b ≤ 0x7E

instance (b : UInt8) : Decidable (IsTextual b) :=
  inferInstanceAs (Decidable (_ ∨ _))

/-- The table of textual bytes, as the ranges it covers. -/
theorem isTextual_iff
    (b : UInt8) :
    isTextual b = true ↔ IsTextual b := by
  simp [isTextual, IsTextual, or_assoc]

/-- How many bytes are not textual. -/
def others (bytes : List UInt8) : Nat :=
  bytes.countP fun b => ¬ IsTextual b

namespace Tally

/-- One byte adds one to the others exactly if it is not textual. -/
theorem other_count
    (t : Tally)
    (b : UInt8) :
    (t.count b).other = t.other + others [b] := by
  by_cases textual : IsTextual b
  · simp [count, others, (isTextual_iff b).mpr textual, textual]
  · simp [count, others, (isTextual_iff b).not.mpr textual, textual]

theorem total_count
    (t : Tally)
    (b : UInt8) :
    (t.count b).total = t.total + 1 := by
  unfold count total
  split <;> simp only <;> omega

/-- Counting gives up exactly at a byte below the tabulator. -/
theorem countAll?_eq_none_iff
    (t : Tally)
    (bytes : List UInt8) :
    t.countAll? bytes = none ↔ ∃ b ∈ bytes, b < 0x09 := by
  induction bytes generalizing t with
  | nil =>
      simp [countAll?]
  | cons b rest inductionHypothesis =>
      by_cases low : b < 0x09
      · simp [countAll?, low]
      · simp [countAll?, low, inductionHypothesis]

/-- A count that comes to its end has met all bytes, and the other ones among them. -/
theorem of_countAll?
    {t tally : Tally}
    {bytes : List UInt8}
    (counted : t.countAll? bytes = some tally) :
    tally.other = t.other + others bytes ∧ tally.total = t.total + bytes.length := by
  induction bytes generalizing t with
  | nil =>
      cases counted
      exact ⟨rfl, rfl⟩
  | cons b rest inductionHypothesis =>
      rw [countAll?] at counted
      split at counted
      · cases counted
      · obtain ⟨other, total⟩ := inductionHypothesis counted
        rw [other, total, other_count, total_count, List.length_cons]
        have apart : others ([b] ++ rest) = others [b] + others rest :=
          List.countP_append
        rw [List.singleton_append] at apart
        omega

/-- More than 95 percent, rounded down, are at least 96 percent. -/
theorem exceeds_iff
    (t : Tally) :
    t.exceeds = true ↔ 1 ≤ t.other ∧ 96 * t.total ≤ 100 * t.other := by
  rw [exceeds, Bool.and_eq_true, decide_eq_true_eq, decide_eq_true_eq]
  refine and_congr_right fun some => ?_
  have nonzero : 0 < t.total := Nat.add_pos_right t.textual some
  exact Nat.le_div_iff_mul_le nonzero

end Tally

/-- The verdict on a document, by what is among the inspected bytes and how often. -/
theorem isBinary_iff
    (bytes : List UInt8) :
    isBinary bytes = true ↔
      (∃ b ∈ bytes.take 1024, b < 0x09) ∨
        1 ≤ others (bytes.take 1024) ∧
          96 * (bytes.take 1024).length ≤ 100 * others (bytes.take 1024) := by
  unfold isBinary sniffLimit
  generalize bytes.take 1024 = head
  cases counted : Tally.start.countAll? head with
  | none =>
      have low := (Tally.countAll?_eq_none_iff _ _).mp counted
      simp [low]
  | some tally =>
      have noLow : ¬ ∃ b ∈ head, b < 0x09 := by
        rw [← Tally.countAll?_eq_none_iff .start, counted]
        exact Option.some_ne_none tally
      obtain ⟨other, total⟩ := Tally.of_countAll? counted
      have other : tally.other = others head := other.trans (Nat.zero_add _)
      have total : tally.total = head.length := total.trans (Nat.zero_add _)
      rw [or_iff_right noLow, Tally.exceeds_iff, other, total]

/-- Only which bytes stand among the first 1024 matters, not their order. -/
theorem isBinary_congr
    {bytes bytes' : List UInt8}
    (same : (bytes'.take 1024).Perm (bytes.take 1024)) :
    isBinary bytes' = isBinary bytes := by
  rw [Bool.eq_iff_iff, isBinary_iff, isBinary_iff, same.length_eq, others, others,
    same.countP_eq]
  simp only [same.mem_iff]

/-- Putting a byte that is not textual in the place of a textual one makes one more of them. -/
theorem others_set
    {bytes : List UInt8}
    {position : Nat}
    {b c : UInt8}
    (there : bytes[position]? = some b)
    (textual : IsTextual b)
    (other : ¬ IsTextual c) :
    others (bytes.set position c) = others bytes + 1 := by
  induction bytes generalizing position with
  | nil =>
      cases there
  | cons first rest inductionHypothesis =>
      cases position with
      | zero =>
          cases there
          simp [others, textual, other]
      | succ position =>
          have later := inductionHypothesis there
          simp only [others, List.set_cons_succ, List.countP_cons] at later ⊢
          omega

/-- A byte that is not textual never makes a text of a binary document. -/
theorem isBinary_set
    {bytes : List UInt8}
    {position : Nat}
    {b c : UInt8}
    (there : (bytes.take 1024)[position]? = some b)
    (textual : IsTextual b)
    (other : ¬ IsTextual c)
    (binary : isBinary bytes = true) :
    isBinary (bytes.set position c) = true := by
  rw [isBinary_iff] at binary ⊢
  rw [List.take_set]
  rcases binary with ⟨low, inside, isLow⟩ | ⟨some, enough⟩
  · have kept : low ∈ (bytes.take 1024).set position c := by
      obtain ⟨place, found⟩ := List.mem_iff_getElem?.mp inside
      have elsewhere : position ≠ place := by
        rintro rfl
        obtain rfl : b = low := Option.some.inj (there.symm.trans found)
        revert isLow
        rcases textual with listed | ⟨above, -⟩
        · simp only [List.mem_cons, List.not_mem_nil, or_false] at listed
          rcases listed with rfl | rfl | rfl | rfl <;> decide
        · exact UInt8.not_lt.mpr (UInt8.le_trans (by decide) above)
      rw [← List.getElem?_set_ne elsewhere] at found
      exact List.mem_of_getElem? found
    exact .inl ⟨low, kept, isLow⟩
  · right
    rw [others_set there textual other, List.length_set]
    omega

/-- What the verdict on a document says about its head, the bytes that are inspected. -/
structure JudgedByHead
    (bytes head : List UInt8) : Prop where
  /-- Only a byte below the tab or at least 96 percent of other bytes make a document binary. -/
  binary_iff :
    isBinary bytes = true ↔
      (∃ b ∈ head, b < 0x09) ∨ 1 ≤ others head ∧ 96 * head.length ≤ 100 * others head
  /-- Where a share is computed, it is one of the whole head, which then is not empty. -/
  divides :
    ∀ tally, Tally.start.countAll? head = some tally →
      tally.total = head.length ∧ (0 < tally.other → 0 < tally.total)
  /-- Neither the order of the head nor what follows it makes a difference. -/
  unordered :
    ∀ bytes' : List UInt8, (bytes'.take 1024).Perm head → isBinary bytes' = isBinary bytes
  replaced :
    ∀ position b c, head[position]? = some b → IsTextual b → ¬ IsTextual c →
      isBinary bytes = true → isBinary (bytes.set position c) = true

/-- Every document is judged by its first 1024 bytes, exactly and whatever their order. -/
theorem judgedByHead
    (bytes : List UInt8) :
    JudgedByHead bytes (bytes.take 1024) where
  binary_iff := isBinary_iff bytes
  divides tally counted := by
    obtain ⟨-, total⟩ := Tally.of_countAll? counted
    exact ⟨total.trans (Nat.zero_add _), fun some => Nat.add_pos_right tally.textual some⟩
  unordered _ same := isBinary_congr same
  replaced _ _ _ there textual other := isBinary_set there textual other

/-- A share of 95.9 percent is one of a text, whatever its order, and one of 96 percent is not. -/
example :
    isBinary (List.replicate 41 0x61 ++ List.replicate 959 0xC3) = false ∧
      isBinary (List.replicate 960 0xC3 ++ List.replicate 40 0x61) = true := by
  decide +kernel

end Notary.Text
