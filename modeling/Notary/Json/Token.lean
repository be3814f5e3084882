import Notary.Json.Quoted

namespace Notary.Json

/-!
# Tokens of a JSON text

The text is cut into tokens from left to right, with the bytes before and after
each. Cutting stops at the end of the text and at the first place that starts no
token or a defective one; that place is the last token of the list. What a
string or a number means is kept beside it, defects included, because a value
that is only skipped need not mean anything.
-/

/-- A token. -/
inductive Token where
  | openArray
  | closeArray
  | openObject
  | closeObject
  | comma
  | colon
  | null
  | bool (value : Bool)
  | number (value : Except Fault Number)
  | string (value : Except Fault String)
  /-- A string whose body is defective. -/
  | brokenString (defect : Defect)
  /-- A defective number or word. -/
  | brokenValue (defect : Defect)
  /-- A symbol that starts no token. -/
  | stray
  | endOfText

/-- A token with the bytes before its start and before its end. -/
structure Lexeme where
  token : Token
  start : Nat
  stop : Nat

/-- The blank characters between tokens. -/
def isSpace (c : Char) : Bool :=
  c == ' ' || c == '\t' || c == '\n' || c == '\r'

/--
Compare a text at `offset` with a word; the result is where the word ends, or
the defect.
-/
def scanWord (offset : Nat) : List Char → List Text.Symbol → Except Defect Nat
  | [], _ => .ok offset
  | _ :: _, [] => .error (.both .endInValue offset)
  | c :: word, symbol :: rest =>
      if isChar c symbol then scanWord (offset + 1) word rest
      else .error (.both .wordExpected (offset + 1))

/-- The token of a word after its first letter, and the symbols after that letter. -/
def wordToken (token : Token) (offset : Nat) (word : List Char) (rest : List Text.Symbol) :
    Lexeme × Nat :=
  match scanWord (offset + 1) word rest with
  | .ok stop => (⟨token, offset, stop⟩, word.length)
  | .error defect => (⟨.brokenValue defect, offset, offset⟩, 0)

/-- The token of a string after its opening quote, and the symbols after that quote. -/
def stringToken (offset : Nat) (rest : List Text.Symbol) : Lexeme × Nat :=
  let body := scanBody (offset + 1) rest
  match body.skip, body.text with
  | .ok stop, text => (⟨.string text, offset, stop⟩, body.taken)
  | .error skipped, .error needed => (⟨.brokenString ⟨needed, skipped⟩, offset, offset⟩, 0)
  | .error skipped, .ok _ => (⟨.brokenString ⟨skipped, skipped⟩, offset, offset⟩, 0)

/-- The token of a number, and the symbols after its first one. -/
def numberToken (offset : Nat) (text : List Text.Symbol) : Lexeme × Nat :=
  match scanNumber offset text with
  | .ok (spelling, taken) =>
      let stop := offset + taken
      (⟨.number (spelling.value stop), offset, stop⟩, taken - 1)
  | .error defect => (⟨.brokenValue defect, offset, offset⟩, 0)

/-- A token of one character. -/
def mark (token : Token) (offset : Nat) : Lexeme × Nat :=
  (⟨token, offset, offset + 1⟩, 0)

/--
The token that starts at `offset` with a character that is no space, and the
number of symbols it takes after that character.
-/
def lexeme (offset : Nat) (c : Char) (rest : List Text.Symbol) : Lexeme × Nat :=
  match c with
  | '[' => mark .openArray offset
  | ']' => mark .closeArray offset
  | '{' => mark .openObject offset
  | '}' => mark .closeObject offset
  | ',' => mark .comma offset
  | ':' => mark .colon offset
  | '"' => stringToken offset rest
  | 'n' => wordToken .null offset ['u', 'l', 'l'] rest
  | 't' => wordToken (.bool true) offset ['r', 'u', 'e'] rest
  | 'f' => wordToken (.bool false) offset ['a', 'l', 's', 'e'] rest
  | _ =>
      if c == '-' || c.isDigit then numberToken offset (.char c :: rest)
      else (⟨.stray, offset, offset + 1⟩, 0)

/-- Whether no token follows this one. -/
def Token.isLast : Token → Bool
  | .brokenString _ | .brokenValue _ | .stray | .endOfText => true
  | _ => false

/--
The tokens of a text from `offset` on. `skip` counts the symbols that belong to
the token read before, so that the recursion walks the text symbol by symbol.
-/
def lexemesFrom (offset skip : Nat) : List Text.Symbol → List Lexeme
  | [] => [⟨.endOfText, offset, offset⟩]
  | symbol :: rest =>
      match skip with
      | left + 1 => lexemesFrom (offset + symbol.width) left rest
      | 0 =>
          match symbol with
          | .stray _ => [⟨.stray, offset, offset + 1⟩]
          | .char c =>
              if isSpace c then lexemesFrom (offset + 1) 0 rest
              else
                let (found, taken) := lexeme offset c rest
                if found.token.isLast then [found]
                else found :: lexemesFrom (offset + symbol.width) taken rest

/-- The tokens of a text; the last one, and no other, ends the list. -/
def lexemes (text : List Text.Symbol) : List Lexeme :=
  lexemesFrom 0 0 text

end Notary.Json
