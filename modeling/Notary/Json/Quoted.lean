import Notary.Json.Number

namespace Notary.Json

/-!
# Strings in a JSON text

The body of a string is cut into pieces first, up to the quote that closes it or
to a defect. Joining the pieces gives the text of the string; it fails where
escaped surrogates do not form pairs or where bytes belong to no character, and
that is asked only of strings whose text is needed.
-/

/-- The character that a letter after a backslash stands for. -/
def escapedChar? (c : Char) : Option Char :=
  match c with
  | '"' => some '"'
  | '\\' => some '\\'
  | '/' => some '/'
  | 'b' => some '\x08'
  | 'f' => some '\x0c'
  | 'n' => some '\n'
  | 'r' => some '\r'
  | 't' => some '\t'
  | _ => none

/-- A piece of a string's body. -/
inductive Piece where
  /-- A symbol that stands for itself. -/
  | plain (symbol : Text.Symbol)
  /-- A backslash and a letter. -/
  | escaped (c : Char)
  /-- A 16-bit unit in hexadecimal digits, which end at `stop`. -/
  | unit (value : Nat) (stop : Nat)
deriving Repr, DecidableEq

/-- What ends a string's body. -/
inductive Close where
  /-- The closing quote, which ends at `stop`. -/
  | quote (stop : Nat)
  /-- The end of the text, or one inside an escape. -/
  | endOfText (offset : Nat)
  /-- A control character at `offset`. -/
  | control (offset : Nat)
  /-- A backslash and something else than an escape letter, read up to `offset`. -/
  | escape (offset : Nat)
  /-- Four bytes that are not hexadecimal digits, read up to `offset`. -/
  | digits (offset : Nat)
deriving Repr, DecidableEq

/-- The body of a string: its pieces, what ends it, and the symbols it takes. -/
structure Body where
  pieces : List Piece
  close : Close
  taken : Nat
deriving Repr, DecidableEq

/-- Put a piece of `taken` symbols in front of a body. -/
def Body.push (piece : Piece) (taken : Nat) (body : Body) : Body :=
  ⟨piece :: body.pieces, body.close, body.taken + taken⟩

/-- Read the body of a string from `offset` on. -/
def scanBody (offset : Nat) : List Text.Symbol → Body
  | [] => ⟨[], .endOfText offset, 0⟩
  | .char '"' :: _ => ⟨[], .quote (offset + 1), 1⟩
  | [.char '\\'] => ⟨[], .endOfText (offset + 1), 1⟩
  | .char '\\' :: .char 'u' :: a :: b :: c :: d :: rest =>
      match digitValue? 16 a, digitValue? 16 b, digitValue? 16 c, digitValue? 16 d with
      | some a, some b, some c, some d =>
          (scanBody (offset + 6) rest).push
            (.unit (a * 4096 + b * 256 + c * 16 + d) (offset + 6)) 6
      | _, _, _, _ => ⟨[], .digits (offset + 6), 2⟩
  | .char '\\' :: .char 'u' :: rest =>
      if 4 ≤ widthOf rest then ⟨[], .digits (offset + 6), 2⟩
      else ⟨[], .endOfText (offset + 2 + widthOf rest), 2⟩
  | .char '\\' :: .char letter :: rest =>
      match escapedChar? letter with
      | some c => (scanBody (offset + 2) rest).push (.escaped c) 2
      | none => ⟨[], .escape (offset + 2), 1⟩
  | .char '\\' :: .stray _ :: _ => ⟨[], .escape (offset + 2), 1⟩
  | .char c :: rest =>
      if c.toNat < 0x20 then ⟨[], .control offset, 0⟩
      else (scanBody (offset + c.utf8Size) rest).push (.plain (.char c)) 1
  | .stray b :: rest => (scanBody (offset + 1) rest).push (.plain (.stray b)) 1

/-- The first half of a surrogate pair: its value, and where its digits end. -/
structure Half where
  value : Nat
  stop : Nat
deriving Repr, DecidableEq

/-- The character of a surrogate pair. -/
def pairChar (high low : Nat) : Char :=
  Char.ofNat (0x10000 + (high - 0xD800) * 0x400 + (low - 0xDC00))

/-- Put a character in front of a text, unless the text is defective. -/
def consChar (c : Char) (text : Except Fault (List Char)) : Except Fault (List Char) :=
  text.map (c :: ·)

/--
Join the pieces of a string that ends as `close` says. `half` is a first half
that waits for its second one, `clean` tells that all bytes so far belonged to
characters.
-/
def joinPieces (close : Close) (half : Option Half) (clean : Bool) :
    List Piece → Except Fault (List Char)
  | [] =>
      match half, close with
      | some h, .quote _ | some h, .control _ => .error ⟨.surrogateUnpaired, h.stop + 1⟩
      | some h, .escape _ => .error ⟨.surrogateUnpaired, h.stop + 2⟩
      | none, .quote stop => if clean then .ok [] else .error ⟨.notUnicode, stop⟩
      | none, .control offset => .error ⟨.controlCharacter, offset + 1⟩
      | none, .escape offset => .error ⟨.badEscape, offset⟩
      | _, .digits offset => .error ⟨.badEscape, offset⟩
      | _, .endOfText offset => .error ⟨.endInString, offset⟩
  | .plain symbol :: rest =>
      match half, symbol with
      | some h, _ => .error ⟨.surrogateUnpaired, h.stop + 1⟩
      | none, .char c => consChar c (joinPieces close none clean rest)
      | none, .stray _ => joinPieces close none false rest
  | .escaped c :: rest =>
      match half with
      | some h => .error ⟨.surrogateUnpaired, h.stop + 2⟩
      | none => consChar c (joinPieces close none clean rest)
  | .unit value stop :: rest =>
      match half with
      | some h =>
          if 0xDC00 ≤ value && value ≤ 0xDFFF then
            consChar (pairChar h.value value) (joinPieces close none clean rest)
          else .error ⟨.loneSurrogate, stop⟩
      | none =>
          if 0xDC00 ≤ value && value ≤ 0xDFFF then .error ⟨.loneSurrogate, stop⟩
          else if 0xD800 ≤ value && value ≤ 0xDBFF then
            joinPieces close (some ⟨value, stop⟩) clean rest
          else consChar (Char.ofNat value) (joinPieces close none clean rest)

/-- The text of a string's body. -/
def Body.text (body : Body) : Except Fault String :=
  (joinPieces body.close none true body.pieces).map String.ofList

/-- Where the closing quote of a body ends, or the defect met when skipping the string. -/
def Body.skip (body : Body) : Except Fault Nat :=
  match body.close with
  | .quote stop => .ok stop
  | .endOfText offset => .error ⟨.endInString, offset⟩
  | .control offset => .error ⟨.controlCharacter, offset⟩
  | .escape offset | .digits offset => .error ⟨.badEscape, offset⟩

end Notary.Json
