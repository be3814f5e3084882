import Notary.Engine.Charset
import Notary.Proofs.Text.Utf8

namespace Notary.Charset

/-!
# Detecting UTF-8

A text that is written in UTF-8 is detected as that, so it comes back as it was, less one
byte order mark in front.
-/

/-- The byte order mark as a character. -/
def mark : Char :=
  Char.ofNat 0xFEFF

/-- A text without one byte order mark in front. -/
def withoutMark : List Char → List Char
  | [] => []
  | c :: cs => if c = mark then cs else c :: cs

/-- Taking the mark away changes nothing if there is none. -/
theorem withoutMark_eq_iff
    (cs : List Char) :
    withoutMark cs = cs ↔ cs.head? ≠ some mark := by
  cases cs with
  | nil =>
      simp [withoutMark]
  | cons c cs =>
      by_cases isMark : c = mark
      · simp [withoutMark, isMark]
      · simp [withoutMark, isMark]

/-- A string without one byte order mark in front. -/
def unmarked (text : String) : String :=
  String.ofList (withoutMark text.toList)

/-- A text is its own without the mark if it does not begin with one. -/
theorem unmarked_eq_iff
    (text : String) :
    unmarked text = text ↔ text.toList.head? ≠ some mark := by
  rw [← withoutMark_eq_iff, unmarked, ← String.toList_inj, String.toList_ofList]

/-- Dropping the mark from the bytes of a text is dropping it from the text. -/
theorem dropByteOrderMark_encodeUtf8
    (cs : List Char) :
    Text.dropByteOrderMark (Text.encodeUtf8 cs) = Text.encodeUtf8 (withoutMark cs) := by
  have markWritten : String.utf8EncodeChar mark = [0xEF, 0xBB, 0xBF] := by
    decide
  cases cs with
  | nil =>
      rfl
  | cons c cs =>
      by_cases isMark : c = mark
      · rw [withoutMark, if_pos isMark, isMark, Text.encodeUtf8, List.flatMap_cons, markWritten]
        rfl
      · rw [withoutMark, if_neg isMark]
        unfold Text.dropByteOrderMark
        split
        case h_1 rest starts =>
          -- The first character that these bytes are read as is the mark.
          have read := Text.symbols_encodeUtf8 (c :: cs)
          have startsMarked : Text.encodeUtf8 (c :: cs) = String.utf8EncodeChar mark ++ rest := by
            rw [markWritten]
            exact starts
          rw [startsMarked, Text.symbols_utf8EncodeChar_append, List.map_cons] at read
          injection (List.cons_eq_cons.mp read).1 with same
          exact absurd same.symm isMark
        case h_2 =>
          rfl

/-- A text in UTF-8 comes back, less one byte order mark in front. -/
theorem decode_encodeUtf8
    (cs : List Char) :
    decode (Text.encodeUtf8 cs) = withoutMark cs := by
  rw [decode, dropByteOrderMark_encodeUtf8, Text.decodeUtf8?_encodeUtf8]
  rfl

end Notary.Charset
