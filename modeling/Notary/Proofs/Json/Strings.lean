import Mathlib.Tactic.IntervalCases
import Mathlib.Tactic.SplitIfs
import Notary.Json.Printer
import Notary.Proofs.Json.Outline
import Notary.Proofs.Json.Tokens

namespace Notary.Json

/-!
# Strings as a text spells them

The body of a string of a JSON text, fragment by fragment. Wherever it stands, it is read as
one token, and which text it is depends on the fragments alone. A string that was written is
a string of fragments, one for each character, and its text is that string.
-/

/-- A hexadecimal digit as it is written. -/
abbrev HexDigit := { c : Char // (digitValue? 16 (.char c)).isSome = true }

/-- The value of a hexadecimal digit. -/
def HexDigit.value (d : HexDigit) : Nat :=
  (digitValue? 16 (.char d.val)).get d.property

/-- A part of a string's body: a character, an escaped one, or a 16-bit unit in four digits. -/
inductive Fragment where
  | plain
      (c : Char)
      (notQuote : c ≠ '"')
      (notBackslash : c ≠ '\\')
      (visible : 0x20 ≤ c.toNat)
  | escaped
      (letter c : Char)
      (known : escapedChar? letter = some c)
  | unit
      (a b c d : HexDigit)

namespace Fragment

/-- A fragment as it is written. -/
def text : Fragment → List Char
  | plain c _ _ _ => [c]
  | escaped letter _ _ => ['\\', letter]
  | unit a b c d => ['\\', 'u', a.val, b.val, c.val, d.val]

/-- The piece that a fragment is read as, if it ends at `stop`. -/
def piece (stop : Nat) : Fragment → Piece
  | plain c _ _ _ => .plain (.char c)
  | escaped _ c _ => .escaped c
  | unit a b c d => .unit (a.value * 4096 + b.value * 256 + c.value * 16 + d.value) stop

end Fragment

/-- A string as it is written, in its quotes. -/
def quotedText (fragments : List Fragment) : List Char :=
  '"' :: (fragments.flatMap Fragment.text ++ ['"'])

/-- The text of a string, if its fragments make one that can be held. -/
def textOf? (fragments : List Fragment) : Option String :=
  (joinPieces (.quote 0) none true (fragments.map (·.piece 0))).toOption.map String.ofList

/-- Pieces that were read of fragments, wherever these ended. -/
abbrev Pieces (pieces : List Piece) (fragments : List Fragment) : Prop :=
  List.Forall₂ (fun piece fragment => ∃ stop, piece = Fragment.piece stop fragment) pieces fragments

theorem toOption_consChar
    (c : Char)
    (text : Except Fault (List Char)) :
    (consChar c text).toOption = text.toOption.map (c :: ·) :=
  toOption_map _ _

/-- Where the fragments ended plays no part in the text that they make. -/
theorem toOption_joinPieces
    {pieces : List Piece}
    {fragments : List Fragment}
    (read : Pieces pieces fragments)
    (stop stop' : Nat)
    {half half' : Option Half}
    (same : half.map Half.value = half'.map Half.value) :
    (joinPieces (.quote stop) half true pieces).toOption =
      (joinPieces (.quote stop') half' true (fragments.map (·.piece 0))).toOption := by
  -- Of a first half that waits, where it ended shows in faults alone.
  induction read generalizing half half' with
  | nil =>
      cases half <;> cases half' <;> first | rfl | cases same
  | @cons piece fragment pieces fragments readsHere readsRest inductionHypothesis =>
      obtain ⟨end', rfl⟩ := readsHere
      have cons (c : Char) :
          (consChar c (joinPieces (.quote stop) none true pieces)).toOption =
            (consChar c (joinPieces (.quote stop') none true
              (fragments.map (·.piece 0)))).toOption := by
        rw [toOption_consChar, toOption_consChar, inductionHypothesis rfl]
      rw [List.map_cons]
      cases half with
      | none =>
          obtain rfl : half' = none := Option.map_eq_none_iff.mp same.symm
          cases fragment with
          | plain c | escaped letter c =>
              exact cons c
          | unit a b c d =>
              rw [Fragment.piece, Fragment.piece, joinPieces, joinPieces]
              split
              · rfl
              · split
                · exact inductionHypothesis rfl
                · exact cons _
      | some h =>
          obtain ⟨h', rfl, sameValue⟩ := Option.map_eq_some_iff.mp same.symm
          cases fragment with
          | plain | escaped =>
              rfl
          | unit a b c d =>
              rw [Fragment.piece, Fragment.piece, joinPieces, joinPieces]
              rw [sameValue]
              split
              · exact cons _
              · rfl

/-- A body that was read of fragments, and takes them and its quote. -/
structure Body.Reads (body : Body) (fragments : List Fragment) (length : Nat) : Prop where
  closed : ∃ stop, body.close = .quote stop
  pieces : Pieces body.pieces fragments
  taken : body.taken = length

/-- One more fragment in front is read in front of the others. -/
theorem Body.Reads.push
    {body : Body}
    {fragments : List Fragment}
    {length : Nat}
    (reads : body.Reads fragments length)
    (fragment : Fragment)
    (stop : Nat) :
    (body.push (fragment.piece stop) fragment.text.length).Reads (fragment :: fragments)
      (length + fragment.text.length) where
  closed := reads.closed
  pieces := .cons ⟨stop, rfl⟩ reads.pieces
  taken := congrArg (· + fragment.text.length) reads.taken

/-! A body is read fragment by fragment, whatever follows. -/

/-- A backslash and a known letter are scanned as the character they stand for. -/
theorem scanBody_escaped
    {letter c : Char}
    (known : escapedChar? letter = some c)
    (offset : Nat)
    (rest : List Text.Symbol) :
    scanBody offset (.char '\\' :: .char letter :: rest) =
      (scanBody (offset + 2) rest).push (.escaped c) 2 := by
  have notUnit : letter ≠ 'u' := by
    rintro rfl
    cases known
  rw [scanBody.eq_6 offset letter rest (fun _ _ _ _ _ _ => notUnit) notUnit, known]

/-- A visible character other than a quote or a backslash is scanned as itself. -/
theorem scanBody_plain
    {c : Char}
    (notQuote : c ≠ '"')
    (notBackslash : c ≠ '\\')
    (visible : 0x20 ≤ c.toNat)
    (offset : Nat)
    (rest : List Text.Symbol) :
    scanBody offset (.char c :: rest) =
      (scanBody (offset + c.utf8Size) rest).push (.plain (.char c)) 1 := by
  rw [scanBody.eq_8 offset c rest notQuote (fun _ => notBackslash)
    (fun _ _ _ _ _ _ => notBackslash) (fun _ _ => notBackslash) (fun _ _ _ => notBackslash)
    (fun _ _ _ => notBackslash), if_neg (Nat.not_lt.mpr visible)]

/-- Each fragment is scanned as one piece, wherever it stands and whatever follows. -/
theorem Fragment.scanBody_text
    (fragment : Fragment)
    (offset : Nat)
    (rest : List Text.Symbol) :
    ∃ stop after,
      scanBody offset (fragment.text.map .char ++ rest) =
        (scanBody after rest).push (fragment.piece stop) fragment.text.length := by
  cases fragment with
  | plain c notQuote notBackslash visible =>
      exact ⟨0, _, scanBody_plain notQuote notBackslash visible offset rest⟩
  | escaped letter c known =>
      exact ⟨0, _, scanBody_escaped known offset rest⟩
  | unit a b c d =>
      refine ⟨offset + 6, offset + 6, ?_⟩
      have value (digit : HexDigit) :
          digitValue? 16 (.char digit.val) = some digit.value :=
        (Option.some_get digit.property).symm
      simp only [text, List.map_cons, List.map_nil, List.cons_append, List.nil_append]
      rw [scanBody.eq_4]
      simp only [value]
      rfl

/-- The fragments of a string are scanned one by one up to the closing quote. -/
theorem scanBody_fragments
    (fragments : List Fragment)
    (offset : Nat)
    (rest : List Text.Symbol) :
    (scanBody offset ((fragments.flatMap Fragment.text).map .char ++ .char '"' :: rest)).Reads
      fragments ((fragments.flatMap Fragment.text).length + 1) := by
  induction fragments generalizing offset with
  | nil =>
      change (scanBody offset (.char '"' :: rest)).Reads [] 1
      rw [scanBody.eq_2]
      exact ⟨⟨offset + 1, rfl⟩, .nil, rfl⟩
  | cons fragment fragments inductionHypothesis =>
      obtain ⟨stop, after, scanned⟩ :=
        fragment.scanBody_text offset
          ((fragments.flatMap Fragment.text).map .char ++ .char '"' :: rest)
      rw [List.flatMap_cons, List.map_append, List.append_assoc, scanned, List.length_append,
        Nat.add_comm fragment.text.length, Nat.add_right_comm]
      exact (inductionHypothesis after).push fragment stop

/-- A quoted string is one token. -/
theorem exists_lexemesFrom_quoted
    (fragments : List Fragment)
    (offset : Nat)
    (rest : List Text.Symbol) :
    ∃ value stop after,
      value.toOption = textOf? fragments ∧
        lexemesFrom offset 0 ((quotedText fragments).map .char ++ rest) =
          ⟨.string value, offset, stop⟩ :: lexemesFrom after 0 rest := by
  let body : List Text.Symbol := (fragments.flatMap Fragment.text).map .char ++ [.char '"']
  have written :
      (quotedText fragments).map Text.Symbol.char ++ rest = .char '"' :: (body ++ rest) := by
    simp [quotedText, body]
  have reads : (scanBody (offset + 1) (body ++ rest)).Reads fragments body.length := by
    simpa [body] using scanBody_fragments fragments (offset + 1) rest
  obtain ⟨stop, closed⟩ := reads.closed
  have text : (scanBody (offset + 1) (body ++ rest)).text.toOption = textOf? fragments := by
    rw [Body.text, toOption_map, closed, toOption_joinPieces reads.pieces stop 0 rfl, textOf?]
  have starts :
      lexeme offset '"' (body ++ rest) =
        (⟨.string (scanBody (offset + 1) (body ++ rest)).text, offset, stop⟩, body.length) := by
    change stringToken offset (body ++ rest) = _
    simp only [stringToken, Body.skip, closed, reads.taken]
  obtain ⟨after, passed⟩ := exists_lexemesFrom_skip body (offset + 1) rest
  refine ⟨_, stop, after, text, ?_⟩
  rw [written, lexemesFrom_of_lexeme rfl starts rfl]
  exact congrArg (List.cons _) passed

/-- The value of a digit is read back from its letter. -/
theorem digitValue?_hexDigit
    {n : Nat}
    (small : n < 16) :
    digitValue? 16 (.char (Text.hexDigit n)) = some n := by
  interval_cases n <;> decide

/-- A character is written with a letter of its own, by its number, or as itself. -/
theorem escapeChar_cases
    (c : Char) :
    (∃ letter, escapedChar? letter = some c ∧ escapeChar c = ['\\', letter]) ∨
      (c.toNat < 0x20 ∧ escapeChar c = spellControl c.toNat) ∨
      (c ≠ '"' ∧ c ≠ '\\' ∧ 0x20 ≤ c.toNat ∧ escapeChar c = [c]) := by
  simp only [escapeChar, beq_iff_eq]
  split_ifs with quote backslash backspace feed newline carriage tab control
  iterate 7
    · subst c
      exact .inl ⟨_, rfl, rfl⟩
  · exact .inr (.inl ⟨control, rfl⟩)
  · exact .inr (.inr ⟨quote, backslash, Nat.le_of_not_lt control, rfl⟩)

/-- A character is written as a fragment that is read as that character. -/
theorem exists_fragment_escapeChar
    (c : Char) :
    ∃ fragment : Fragment, fragment.text = escapeChar c ∧
      ∀ close clean pieces,
        joinPieces close none clean (fragment.piece 0 :: pieces) =
          consChar c (joinPieces close none clean pieces) := by
  rcases escapeChar_cases c with
      ⟨letter, known, written⟩ | ⟨control, written⟩ | ⟨notQuote, notBackslash, visible, written⟩
  · exact ⟨.escaped letter c known, written.symm, fun _ _ _ => rfl⟩
  · let digit (n : Nat) (small : n < 16) : HexDigit :=
      ⟨Text.hexDigit n, by rw [digitValue?_hexDigit small]; rfl⟩
    have value (n : Nat) (small : n < 16) : (digit n small).value = n :=
      Option.get_of_eq_some _ (digitValue?_hexDigit small)
    refine ⟨.unit (digit 0 (by decide)) (digit 0 (by decide)) (digit (c.toNat / 16) (by omega))
      (digit (c.toNat % 16) (by omega)), written.symm, fun close clean pieces => ?_⟩
    have number : 0 * 4096 + 0 * 256 + c.toNat / 16 * 16 + c.toNat % 16 = c.toNat := by omega
    have notLow : ¬ 0xDC00 ≤ c.toNat := by omega
    have notHigh : ¬ 0xD800 ≤ c.toNat := by omega
    simp only [Fragment.piece, joinPieces, value, number, notLow, notHigh, decide_false,
      Bool.false_and, Bool.false_eq_true, if_false, Char.ofNat_toNat]
  · exact ⟨.plain c notQuote notBackslash visible, written.symm, fun _ _ _ => rfl⟩

/-- A written string is a string of fragments, and its text is that string. -/
theorem exists_fragments_writeString
    (s : String) :
    ∃ fragments, quotedText fragments = writeString s ∧ textOf? fragments = some s := by
  have body (text : List Char) :
      ∃ fragments : List Fragment,
        fragments.flatMap Fragment.text = text.flatMap escapeChar ∧
          joinPieces (.quote 0) none true (fragments.map (·.piece 0)) = .ok text := by
    induction text with
    | nil =>
        exact ⟨[], rfl, rfl⟩
    | cons c text inductionHypothesis =>
        obtain ⟨fragments, written, joined⟩ := inductionHypothesis
        obtain ⟨fragment, writtenHere, reads⟩ := exists_fragment_escapeChar c
        refine ⟨fragment :: fragments, ?_, ?_⟩
        · rw [List.flatMap_cons, List.flatMap_cons, written, writtenHere]
        · rw [List.map_cons, reads, joined]
          rfl
  obtain ⟨fragments, written, joined⟩ := body s.toList
  refine ⟨fragments, ?_, ?_⟩
  · rw [quotedText, writeString, written]
  · rw [textOf?, joined]
    exact congrArg some String.ofList_toList

end Notary.Json
