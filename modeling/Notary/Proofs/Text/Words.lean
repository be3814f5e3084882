import Mathlib.Data.List.TakeWhile
import Notary.Text.Blank

namespace Notary.Text

/-!
# Words between white space

A text made of words with white space between them, and perhaps around them, has exactly
these words, whichever blank characters stand between them and however many. In every text
the words are the maximal runs of characters that are not blank, and a text that trimming
leaves nothing of is one without words.
-/

/-- A text that can be a word: not empty, and without blank characters. -/
structure IsWord (word : List Char) : Prop where
  filled : word ≠ []
  solid : ∀ c ∈ word, isBlank c = false

/-- Words in order, with white space between any two of them and perhaps around them all. -/
inductive Spaced : List (List Char) → List Char → Prop where
  | last
      {before word after : List Char} :
      allBlank before = true →
      allBlank after = true →
      Spaced [word] (before ++ (word ++ after))
  | next
      {before word text : List Char}
      {blank : Char}
      {rest : List (List Char)} :
      allBlank before = true →
      isBlank blank = true →
      Spaced rest text →
      Spaced (word :: rest) (before ++ (word ++ blank :: text))

theorem Spaced.single
    (word : List Char) :
    Spaced [word] word := by
  have alone : Spaced [word] ([] ++ (word ++ [])) := .last rfl rfl
  rwa [List.nil_append, List.append_nil] at alone

/-- Two words with one blank character between them. -/
theorem Spaced.pair
    {blank : Char}
    (isBlank : Text.isBlank blank = true)
    (first second : String) :
    Spaced [first.toList, second.toList]
      (first ++ String.singleton blank ++ second).toList := by
  have parts :
      (first ++ String.singleton blank ++ second).toList =
        [] ++ (first.toList ++ blank :: second.toList) := by
    simp
  rw [parts]
  exact .next rfl isBlank (.single second.toList)

/-- White space before the first word is passed over. -/
theorem wordsFrom_append_of_allBlank
    {before : List Char}
    (isGap : allBlank before = true)
    (cs : List Char) :
    wordsFrom [] (before ++ cs) = wordsFrom [] cs := by
  induction before with
  | nil =>
      rfl
  | cons c before inductionHypothesis =>
      rw [allBlank, List.all_cons, Bool.and_eq_true] at isGap
      obtain ⟨isBlank, isRest⟩ := isGap
      rw [List.cons_append, wordsFrom, if_pos isBlank]
      exact inductionHypothesis isRest

/-- A word is read to its end. -/
theorem wordsFrom_append_of_solid
    {word : List Char}
    (solid : ∀ c ∈ word, isBlank c = false)
    (current cs : List Char) :
    wordsFrom current (word ++ cs) = wordsFrom (word.reverse ++ current) cs := by
  induction word generalizing current with
  | nil =>
      rfl
  | cons c word inductionHypothesis =>
      obtain ⟨solidHere, solidRest⟩ := List.forall_mem_cons.mp solid
      rw [List.cons_append, wordsFrom, solidHere, if_neg Bool.false_ne_true,
        inductionHypothesis solidRest, List.reverse_cons, List.append_assoc]
      rfl

theorem words_of_allBlank
    {cs : List Char}
    (isGap : allBlank cs = true) :
    words cs = [] := by
  have passed := wordsFrom_append_of_allBlank isGap []
  rw [List.append_nil] at passed
  exact passed

namespace IsWord

variable
    {word : List Char}
    (isWord : IsWord word)

include isWord

/-- A word ends at the first blank character behind it. -/
theorem words_append_blank
    {blank : Char}
    (isBlank : Text.isBlank blank = true)
    (text : List Char) :
    words (word ++ blank :: text) = word :: words text := by
  have filled : word.reverse.isEmpty = false := by
    simpa using isWord.filled
  rw [words, wordsFrom_append_of_solid isWord.solid, List.append_nil, wordsFrom, if_pos isBlank,
    filled, if_neg Bool.false_ne_true, List.reverse_reverse]
  rfl

/-- One word with blanks behind it is that word. -/
theorem words_append_of_allBlank
    {after : List Char}
    (isGap : allBlank after = true) :
    words (word ++ after) = [word] := by
  cases after with
  | nil =>
      have filled : word.reverse.isEmpty = false := by
        simpa using isWord.filled
      rw [words, wordsFrom_append_of_solid isWord.solid, List.append_nil, wordsFrom, filled,
        if_neg Bool.false_ne_true, List.reverse_reverse]
  | cons blank after =>
      rw [allBlank, List.all_cons, Bool.and_eq_true] at isGap
      rw [isWord.words_append_blank isGap.1, words_of_allBlank isGap.2]

end IsWord

/-- A text has the words it is made of. -/
theorem Spaced.words_eq
    {parts : List (List Char)}
    {text : List Char}
    (spaced : Spaced parts text)
    (areWords : ∀ word ∈ parts, IsWord word) :
    words text = parts := by
  induction spaced with
  | @last before word after isBefore isAfter =>
      have isWord := areWords word (List.mem_singleton_self word)
      rw [words, wordsFrom_append_of_allBlank isBefore]
      exact isWord.words_append_of_allBlank isAfter
  | @next before word text blank rest isBefore isBlank spacedRest inductionHypothesis =>
      obtain ⟨isWord, areRest⟩ := List.forall_mem_cons.mp areWords
      rw [words, wordsFrom_append_of_allBlank isBefore]
      rw [← words, isWord.words_append_blank isBlank, inductionHypothesis areRest]

/-- A spaced text has at least one part. -/
theorem Spaced.ne_nil
    {parts : List (List Char)}
    {text : List Char}
    (spaced : Spaced parts text) :
    parts ≠ [] := by
  cases spaced <;> exact List.cons_ne_nil _ _

/-- A text made of words is not blank. -/
theorem Spaced.allBlank_eq_false
    {parts : List (List Char)}
    {text : List Char}
    (spaced : Spaced parts text)
    (areWords : ∀ word ∈ parts, IsWord word) :
    allBlank text = false := by
  rw [Bool.eq_false_iff]
  intro isGap
  have none := words_of_allBlank isGap
  rw [spaced.words_eq areWords] at none
  exact spaced.ne_nil none

/-- Words split at a blank character. -/
theorem wordsFrom_append_blank
    {blank : Char}
    (isBlank : Text.isBlank blank = true)
    (current before after : List Char) :
    wordsFrom current (before ++ blank :: after) = wordsFrom current before ++ words after := by
  induction before generalizing current with
  | nil =>
      rw [List.nil_append, wordsFrom, wordsFrom, if_pos isBlank, ← words]
      cases current.isEmpty <;> rfl
  | cons c before inductionHypothesis =>
      rw [List.cons_append, wordsFrom, wordsFrom]
      simp only [inductionHypothesis]
      cases Text.isBlank c <;> cases current.isEmpty <;> rfl

/-- A maximal run of characters that are not blank. -/
structure IsToken (word text : List Char) : Prop where
  isWord : IsWord word
  placed :
    ∃ before after,
      text = before ++ (word ++ after) ∧
        (∀ c ∈ before.getLast?, isBlank c = true) ∧ ∀ c ∈ after.head?, isBlank c = true

namespace IsToken

variable
    {word after : List Char}

/-- A word that ends at a blank or at the end of the text is a token of the text it starts. -/
theorem first
    (isWord : IsWord word)
    (ends : ∀ c ∈ after.head?, isBlank c = true) :
    IsToken word (word ++ after) :=
  ⟨isWord, [], after, rfl, nofun, ends⟩

/-- A token stays one behind a blank character. -/
theorem behind
    (token : IsToken word after)
    {blank : Char}
    (isBlank : Text.isBlank blank = true)
    (front : List Char) :
    IsToken word (front ++ blank :: after) := by
  obtain ⟨isWord, before, after, rfl, starts, ends⟩ := token
  refine ⟨isWord, front ++ blank :: before, after, by simp, ?_, ends⟩
  rcases List.eq_nil_or_concat before with rfl | ⟨earlier, last, rfl⟩
  · simpa using isBlank
  · simpa [List.getLast?_cons] using starts

end IsToken

/-- What has been read of a word and the rest of a text make up a text with the word in it. -/
theorem isToken_of_mem_wordsFrom
    {word current cs : List Char}
    (solid : ∀ c ∈ current, isBlank c = false)
    (inside : word ∈ wordsFrom current cs) :
    IsToken word (current.reverse ++ cs) := by
  have isWord (filled : ¬ current.isEmpty = true) : IsWord current.reverse :=
    ⟨by simpa using filled, fun c read => solid c (List.mem_reverse.mp read)⟩
  induction cs generalizing current with
  | nil =>
      rw [wordsFrom] at inside
      split at inside
      · cases inside
      · next filled =>
          obtain rfl := List.mem_singleton.mp inside
          exact .first (isWord filled) nofun
  | cons c rest inductionHypothesis =>
      rw [wordsFrom] at inside
      split at inside
      · next blank =>
          have behind (later : word ∈ wordsFrom [] rest) :
              IsToken word (current.reverse ++ c :: rest) := by
            have found :=
              inductionHypothesis (List.forall_mem_nil _) later fun filled => absurd rfl filled
            exact found.behind blank _
          split at inside
          · exact behind inside
          · next filled =>
              rcases List.mem_cons.mp inside with rfl | later
              · exact .first (isWord filled) (by simpa using blank)
              · exact behind later
      · next solidHere =>
          have solidAll : ∀ read ∈ c :: current, isBlank read = false :=
            List.forall_mem_cons.mpr ⟨by simpa using solidHere, solid⟩
          have found := inductionHypothesis solidAll inside fun filled =>
            ⟨by simp, fun read member => solidAll read (List.mem_reverse.mp member)⟩
          simpa using found

/-- The words of a text are its maximal runs of characters that are not blank. -/
theorem mem_words_iff
    (word text : List Char) :
    word ∈ words text ↔ IsToken word text := by
  constructor
  · intro inside
    exact isToken_of_mem_wordsFrom (List.forall_mem_nil _) inside
  · rintro ⟨isWord, before, after, rfl, starts, ends⟩
    have first : word ∈ words (word ++ after) := by
      cases after with
      | nil =>
          rw [isWord.words_append_of_allBlank rfl]
          exact List.mem_singleton_self word
      | cons blank after =>
          rw [isWord.words_append_blank (ends blank rfl)]
          exact List.mem_cons_self
    rcases List.eq_nil_or_concat before with rfl | ⟨earlier, blank, rfl⟩
    · exact first
    · have isBlank : Text.isBlank blank = true := starts blank (by simp)
      rw [List.concat_eq_append, List.append_assoc, List.singleton_append, words,
        wordsFrom_append_blank isBlank]
      exact List.mem_append_right _ first

/-- No word comes out only if none was begun and the rest is blank. -/
theorem wordsFrom_eq_nil_iff
    (current cs : List Char) :
    wordsFrom current cs = [] ↔ current = [] ∧ allBlank cs = true := by
  induction cs generalizing current with
  | nil =>
      cases current <;> simp [wordsFrom, allBlank]
  | cons c rest inductionHypothesis =>
      cases blank : isBlank c <;> cases current <;>
        simp [wordsFrom, allBlank, blank, inductionHypothesis]

/-- A text has no words exactly when it is blank. -/
theorem words_eq_nil_iff
    (cs : List Char) :
    words cs = [] ↔ allBlank cs = true := by
  rw [words, wordsFrom_eq_nil_iff]
  exact and_iff_right rfl

/-- Trimming leaves nothing of a text exactly when it is blank. -/
theorem trim_eq_nil_iff
    (cs : List Char) :
    trim cs = [] ↔ allBlank cs = true := by
  rw [trim, List.reverse_eq_nil_iff, List.dropWhile_eq_nil_iff, allBlank, List.all_eq_true]
  simp only [List.mem_reverse]
  constructor
  · intro restBlank c inside
    rw [← List.takeWhile_append_dropWhile (p := isBlank) (l := cs)] at inside
    rcases List.mem_append.mp inside with front | rest
    · exact List.mem_takeWhile_imp front
    · exact restBlank c rest
  · intro allBlank c rest
    exact allBlank c (List.dropWhile_subset _ rest)

end Notary.Text
