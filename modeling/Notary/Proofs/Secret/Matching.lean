import Mathlib.Logic.Basic
import Notary.Proofs.Text.Words
import Notary.Secret.Verify

namespace Notary.Secret

/-!
# What a configured secret decides

A configured secret decides about callers by the set of its tokens alone: whoever presents
nothing is rejected as soon as there is a token, and whoever presents something is rejected
if it matches none of them. Where tokens begin and end depends on white space only, and a
text is passed over as blank exactly when it has no token, so no configured hash is ever
ignored and no blank text locks anybody out. Nothing here depends on how hashes are read and
verified against.
-/

variable
    {Hash Fault : Type}

/-- A configured text holds a token. -/
def Holds (text token : String) : Prop :=
  Text.IsToken token.toList text.toList

/-- A token is read as a hash that a candidate is verified against. -/
def Verifier.Accepts (v : Verifier Hash Fault) (token candidate : String) : Prop :=
  ∃ hash, v.read token = .ok hash ∧ v.verifies hash candidate = true

/-- A token that accepts no candidate, because it cannot be read or for any other reason. -/
def Verifier.Unusable (v : Verifier Hash Fault) (token : String) : Prop :=
  ∀ candidate, ¬ v.Accepts token candidate

theorem mem_wordsOf_iff
    (token text : String) :
    token ∈ Text.wordsOf text ↔ Holds text token := by
  rw [Holds, ← Text.mem_words_iff, Text.wordsOf, List.mem_map]
  constructor
  · rintro ⟨word, inside, rfl⟩
    rwa [String.toList_ofList]
  · intro inside
    exact ⟨token.toList, inside, String.ofList_toList⟩

/-- A text is blank exactly when it holds no token. -/
theorem blank_iff
    (text : String) :
    Text.blank text = true ↔ ∀ token, ¬ Holds text token := by
  rw [Text.blank, ← Text.words_eq_nil_iff, ← List.map_eq_nil_iff (f := String.ofList),
    ← Text.wordsOf, List.eq_nil_iff_forall_not_mem]
  simp only [mem_wordsOf_iff]

/-- A text made of words holds these as its tokens. -/
theorem holds_iff_of_spaced
    {parts : List String}
    {text token : String}
    (areWords : ∀ part ∈ parts, Text.IsWord part.toList)
    (spaced : Text.Spaced (parts.map String.toList) text.toList) :
    Holds text token ↔ token ∈ parts := by
  have areLists : ∀ word ∈ parts.map String.toList, Text.IsWord word := by
    intro word inside
    obtain ⟨part, listed, rfl⟩ := List.mem_map.mp inside
    exact areWords part listed
  rw [← mem_wordsOf_iff, Text.wordsOf, spaced.words_eq areLists, List.map_map]
  simp

section Verdict

variable
    (v : Verifier Hash Fault)

/-- A candidate is rejected by tokens none of which accepts it. -/
theorem rejects_holdAgainst_iff
    (candidate : String)
    (tokens : List String) :
    (holdAgainst v candidate tokens).rejects = true ↔
      ∀ token ∈ tokens, ¬ v.Accepts token candidate := by
  induction tokens with
  | nil =>
      simp [holdAgainst]
  | cons token tokens inductionHypothesis =>
      rw [List.forall_mem_cons, ← inductionHypothesis, holdAgainst]
      cases read : v.read token with
      | error fault =>
          simp [Verifier.Accepts, read]
      | ok hash =>
          cases verified : v.verifies hash candidate <;>
            simp [Verifier.Accepts, read, verified]

theorem rejects_verdict_some_iff
    (text : String)
    (candidate : Option String) :
    (verdict v (some text) candidate).rejects = true ↔
      (∃ token, Holds text token) ∧
        ∀ presented, candidate = some presented →
          ∀ token, Holds text token → ¬ v.Accepts token presented := by
  cases blank : Text.blank text with
  | true =>
      have none := (blank_iff text).mp blank
      simp [verdict, blank, none]
  | false =>
      have held : ∃ token, Holds text token := by
        by_contra none
        rw [(blank_iff text).mpr (not_exists.mp none)] at blank
        cases blank
      cases candidate with
      | none =>
          simp [verdict, blank, held]
      | some candidate =>
          simp [verdict, blank, held, rejects_holdAgainst_iff, mem_wordsOf_iff]

/-- A caller is rejected when a secret is configured and the caller's one does not match. -/
theorem rejects_verdict_iff
    (configured candidate : Option String) :
    (verdict v configured candidate).rejects = true ↔
      ∃ text, configured = some text ∧ (∃ token, Holds text token) ∧
        ∀ presented, candidate = some presented →
          ∀ token, Holds text token → ¬ v.Accepts token presented := by
  cases configured with
  | none =>
      simp [verdict]
  | some text =>
      rw [rejects_verdict_some_iff]
      simp

variable {v}

/-- Texts that hold the same tokens reject the same callers. -/
theorem rejects_verdict_congr
    {text₁ text₂ : String}
    (same : ∀ token, Holds text₁ token ↔ Holds text₂ token)
    (candidate : Option String) :
    (verdict v (some text₁) candidate).rejects = (verdict v (some text₂) candidate).rejects := by
  rw [Bool.eq_iff_iff, rejects_verdict_some_iff, rejects_verdict_some_iff]
  simp only [same]

/-- A caller who is let through is not rejected for further tokens. -/
theorem rejects_verdict_of_more
    {text₁ text₂ : String}
    (held : ∃ token, Holds text₁ token)
    (more : ∀ token, Holds text₁ token → Holds text₂ token)
    {candidate : Option String}
    (passes : (verdict v (some text₁) candidate).rejects = false) :
    (verdict v (some text₂) candidate).rejects = false := by
  rw [Bool.eq_false_iff, Ne, rejects_verdict_some_iff] at passes ⊢
  rintro ⟨-, refused⟩
  exact passes ⟨held, fun presented given token inside =>
    refused presented given token (more token inside)⟩

end Verdict

/-- A verifier whose verdict about callers depends on the tokens of the configured text alone. -/
structure Verifier.DecidesByTokens (v : Verifier Hash Fault) : Prop where
  rejects_iff :
    ∀ configured candidate,
      (verdict v configured candidate).rejects = true ↔
        ∃ text, configured = some text ∧ (∃ token, Holds text token) ∧
          ∀ presented, candidate = some presented →
            ∀ token, Holds text token → ¬ v.Accepts token presented
  /-- The order of tokens, their repetition and the white space between them do not matter. -/
  rearranged :
    ∀ (parts₁ parts₂ : List String) (text₁ text₂ : String),
      (∀ part ∈ parts₁, Text.IsWord part.toList) →
      (∀ part, part ∈ parts₁ ↔ part ∈ parts₂) →
      Text.Spaced (parts₁.map String.toList) text₁.toList →
      Text.Spaced (parts₂.map String.toList) text₂.toList →
      ∀ candidate,
        (verdict v (some text₁) candidate).rejects = (verdict v (some text₂) candidate).rejects
  sameTokens :
    ∀ text₁ text₂, (∀ token, Holds text₁ token ↔ Holds text₂ token) →
      ∀ candidate,
        (verdict v (some text₁) candidate).rejects = (verdict v (some text₂) candidate).rejects
  moreTokens :
    ∀ text₁ text₂, (∃ token, Holds text₁ token) →
      (∀ token, Holds text₁ token → Holds text₂ token) →
      ∀ candidate,
        (verdict v (some text₁) candidate).rejects = false →
          (verdict v (some text₂) candidate).rejects = false
  /-- Tokens that are all of no use reject everybody. -/
  unusable :
    ∀ text, Text.trim text.toList ≠ [] → (∀ token, Holds text token → v.Unusable token) →
      ∀ candidate, (verdict v (some text) candidate).rejects = true
  tokenless :
    ∀ text, (∀ token, ¬ Holds text token) →
      ∀ candidate, (verdict v (some text) candidate).rejects = false
  /-- The two ways of finding that nothing is configured agree. -/
  trim_eq_nil_iff :
    ∀ text : String, Text.trim text.toList = [] ↔ ∀ token, ¬ Holds text token

/-- However hashes are read and verified against, a configured secret decides by its tokens. -/
theorem verdict_decidesByTokens
    (v : Verifier Hash Fault) :
    v.DecidesByTokens := by
  have trimmed (text : String) :
      Text.trim text.toList = [] ↔ ∀ token, ¬ Holds text token := by
    rw [Text.trim_eq_nil_iff]
    exact blank_iff text
  refine
    { rejects_iff := rejects_verdict_iff v
      rearranged := ?_
      sameTokens := fun _ _ same => rejects_verdict_congr same
      moreTokens := fun _ _ held more _ => rejects_verdict_of_more held more
      unusable := ?_
      tokenless := ?_
      trim_eq_nil_iff := trimmed }
  · intro parts₁ parts₂ text₁ text₂ areWords same spaced₁ spaced₂ candidate
    refine rejects_verdict_congr (fun token => ?_) candidate
    rw [holds_iff_of_spaced areWords spaced₁, same,
      holds_iff_of_spaced (fun part inside => areWords part ((same part).mpr inside)) spaced₂]
  · intro text filled useless candidate
    rw [Ne, trimmed, not_forall_not] at filled
    exact (rejects_verdict_some_iff v text candidate).mpr
      ⟨filled, fun presented _ token inside => useless token inside presented⟩
  · intro text none candidate
    rw [Bool.eq_false_iff, Ne, rejects_verdict_some_iff]
    rintro ⟨⟨token, inside⟩, -⟩
    exact none token inside

end Notary.Secret
