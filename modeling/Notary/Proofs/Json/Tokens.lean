import Notary.Json.Token

namespace Notary.Json

/-!
# Tokens in their places

The tokens of a text depend on what follows only where a number ends. So a text is cut token
by token: what a token takes is passed over, and so are the blanks between two tokens.
-/

/-- A token that starts here stands in front of the tokens behind it. -/
theorem lexemesFrom_of_lexeme
    {offset : Nat}
    {c : Char}
    {rest : List Text.Symbol}
    {found : Lexeme}
    {taken : Nat}
    (notSpace : isSpace c = false)
    (starts : lexeme offset c rest = (found, taken))
    (notLast : found.token.isLast = false) :
    lexemesFrom offset 0 (.char c :: rest) =
      found :: lexemesFrom (offset + c.utf8Size) taken rest := by
  rw [lexemesFrom]
  simp only [notSpace, starts, notLast, Bool.false_eq_true, if_false]
  rfl

/-- The symbols that belong to the token before are passed over. -/
theorem exists_lexemesFrom_skip
    (taken : List Text.Symbol)
    (offset : Nat)
    (rest : List Text.Symbol) :
    ∃ after, lexemesFrom offset taken.length (taken ++ rest) = lexemesFrom after 0 rest := by
  induction taken generalizing offset with
  | nil =>
      exact ⟨offset, rfl⟩
  | cons symbol taken inductionHypothesis =>
      exact inductionHypothesis (offset + symbol.width)

/-- Blanks between the tokens of a text. -/
def Blank (text : List Char) : Prop :=
  ∀ c ∈ text, isSpace c = true

/-- The characters that end a value. -/
def delimiters : List Char :=
  [' ', '\t', '\n', '\r', ',', ']', '}']

theorem forall_mem_delimiters_iff
    {p : Char → Prop} :
    (∀ c ∈ delimiters, p c) ↔
      p ' ' ∧ p '\t' ∧ p '\n' ∧ p '\r' ∧ p ',' ∧ p ']' ∧ p '}' := by
  simp [delimiters]

/-- What is left of a text is empty, or starts with something that ends a value. -/
def Delimited (rest : List Text.Symbol) : Prop :=
  ∀ symbol ∈ rest.head?, ∃ c ∈ delimiters, symbol = .char c

section Blank

variable
    {blank : List Char}
    {rest : List Text.Symbol}

theorem Blank.nil :
    Blank [] :=
  List.forall_mem_nil _

/-- Blanks make no tokens. -/
theorem Blank.exists_lexemesFrom
    (blanks : Blank blank)
    (offset : Nat)
    (rest : List Text.Symbol) :
    ∃ after, lexemesFrom offset 0 (blank.map .char ++ rest) = lexemesFrom after 0 rest := by
  induction blank generalizing offset with
  | nil =>
      exact ⟨offset, rfl⟩
  | cons c blank inductionHypothesis =>
      obtain ⟨space, blanks⟩ := List.forall_mem_cons.mp blanks
      obtain ⟨after, passed⟩ := inductionHypothesis blanks (offset + 1)
      refine ⟨after, ?_⟩
      rw [← passed, List.map_cons, List.cons_append, lexemesFrom]
      simp only [space, if_true]

/-- A value may end in front of blanks. -/
theorem Blank.delimited
    (blanks : Blank blank)
    (delimited : Delimited rest) :
    Delimited (blank.map .char ++ rest) := by
  cases blank with
  | nil =>
      exact delimited
  | cons c blank =>
      rintro symbol ⟨⟩
      have space := blanks c List.mem_cons_self
      simp only [isSpace, Bool.or_eq_true, beq_iff_eq] at space
      refine ⟨c, ?_, rfl⟩
      rcases space with ((rfl | rfl) | rfl) | rfl <;> decide

/-- A value may end in front of a character that ends it. -/
theorem delimited_cons
    {c : Char}
    (ends : c ∈ delimiters)
    (rest : List Text.Symbol) :
    Delimited (.char c :: rest) := by
  rintro symbol ⟨⟩
  exact ⟨c, ends, rfl⟩

end Blank

end Notary.Json
