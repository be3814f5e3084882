import Notary.Json.Tree
import Notary.Proofs.Json.Numerals
import Notary.Proofs.Json.Strings

namespace Notary.Json

/-!
# Texts of values

The grammar of JSON texts, with blanks wherever it has them, each text beside the outline of
what it says. The reader is complete for it: every text of the grammar is read as a tree
without defects that has this outline, and nothing is left behind it.
-/

mutual

/-- A text that says a value, from its first token to its last. -/
inductive Written : Outline → List Char → Prop where
  | null :
      Written .null ['n', 'u', 'l', 'l']
  | bool
      (value : Bool) :
      Written (.bool value) (writeBool value)
  | number
      (numeral : Numeral) :
      Written (.number numeral.value?) numeral.text
  | string
      (fragments : List Fragment) :
      Written (.string (textOf? fragments)) (quotedText fragments)
  | emptyArray
      {blank : List Char} :
      Blank blank →
      Written (.array []) ('[' :: (blank ++ [']']))
  | array
      {items : List Outline}
      {text : List Char} :
      ItemsWritten items text →
      Written (.array items) ('[' :: (text ++ [']']))
  | emptyObject
      {blank : List Char} :
      Blank blank →
      Written (.object []) ('{' :: (blank ++ ['}']))
  | object
      {members : List Member}
      {text : List Char} :
      MembersWritten members text →
      Written (.object members) ('{' :: (text ++ ['}']))

/-- A text of a value with blanks around it. -/
inductive Padded : Outline → List Char → Prop where
  | mk
      {o : Outline}
      {before text after : List Char} :
      Blank before →
      Written o text →
      Blank after →
      Padded o (before ++ (text ++ after))

/-- A text of items with commas between them. -/
inductive ItemsWritten : List Outline → List Char → Prop where
  | one
      {item : Outline}
      {text : List Char} :
      Padded item text →
      ItemsWritten [item] text
  | more
      {item : Outline}
      {text : List Char}
      {items : List Outline}
      {others : List Char} :
      Padded item text →
      ItemsWritten items others →
      ItemsWritten (item :: items) (text ++ ',' :: others)

/-- A text of a member: its name, a colon, and its value. -/
inductive MemberWritten : Member → List Char → Prop where
  | mk
      {before : List Char}
      {fragments : List Fragment}
      {after : List Char}
      {value : Outline}
      {text : List Char} :
      Blank before →
      Blank after →
      Padded value text →
      MemberWritten (textOf? fragments, value)
        (before ++ (quotedText fragments ++ (after ++ ':' :: text)))

/-- A text of members with commas between them. -/
inductive MembersWritten : List Member → List Char → Prop where
  | one
      {member : Member}
      {text : List Char} :
      MemberWritten member text →
      MembersWritten [member] text
  | more
      {member : Member}
      {text : List Char}
      {members : List Member}
      {others : List Char} :
      MemberWritten member text →
      MembersWritten members others →
      MembersWritten (member :: members) (text ++ ',' :: others)

end

/-- A text without blanks around it is one with as many as none. -/
theorem Written.padded
    {o : Outline}
    {text : List Char}
    (written : Written o text) :
    Padded o text := by
  have padded := Padded.mk Blank.nil written Blank.nil
  rwa [List.nil_append, List.append_nil] at padded

/-- A written string says that string. -/
theorem written_writeString
    (s : String) :
    Written (.string (some s)) (writeString s) := by
  obtain ⟨fragments, written, text⟩ := exists_fragments_writeString s
  rw [← written, ← text]
  exact .string fragments

/-- A written string names a member. -/
theorem memberWritten_writeString
    {before after : List Char}
    {value : Outline}
    {text : List Char}
    (blankBefore : Blank before)
    (name : String)
    (blankAfter : Blank after)
    (padded : Padded value text) :
    MemberWritten (some name, value)
      (before ++ (writeString name ++ (after ++ ':' :: text))) := by
  obtain ⟨fragments, written, named⟩ := exists_fragments_writeString name
  rw [← written, ← named]
  exact .mk blankBefore blankAfter padded

/-- How reading goes on after a move, with the tokens that are left. -/
def Move.resume (left : List Lexeme) : Move → Reading
  | .go stack expect => build stack expect left
  | .finish root => ⟨root, trailing? left⟩
  | .stop reading => reading

/-- One more lexeme is one more move, and the rest goes on from where that leads. -/
theorem build_cons
    (l : Lexeme)
    (left : List Lexeme)
    (stack : List Frame)
    (expect : Expect) :
    build stack expect (l :: left) = (move l expect stack).resume left := by
  rw [build]
  cases move l expect stack <;> rfl

/-- A value that is one token is delivered where a value is expected. -/
theorem move_scalar
    {l : Lexeme}
    {tree : Tree}
    {expect : Expect}
    (scalar : l.scalar? = some tree)
    (awaited : expect.isValue = true)
    (stack : List Frame) :
    move l expect stack = deliver tree stack := by
  obtain ⟨token, start, stop⟩ := l
  cases token <;> cases scalar <;> cases expect <;> first | rfl | cases awaited

/-- Where a value is awaited, an opening bracket begins an array. -/
theorem build_openArray
    {expect : Expect}
    (awaited : expect.isValue = true)
    (offset : Nat)
    (rest : List Text.Symbol)
    (stack : List Frame) :
    build stack expect (lexemesFrom offset 0 (.char '[' :: rest)) =
      build (.array offset [] :: stack) .firstItem (lexemesFrom (offset + 1) 0 rest) := by
  cases expect <;> first | rfl | cases awaited

/-- Where a value is awaited, an opening brace begins an object. -/
theorem build_openObject
    {expect : Expect}
    (awaited : expect.isValue = true)
    (offset : Nat)
    (rest : List Text.Symbol)
    (stack : List Frame) :
    build stack expect (lexemesFrom offset 0 (.char '{' :: rest)) =
      build (.object offset [] none :: stack) .firstName (lexemesFrom (offset + 1) 0 rest) := by
  cases expect <;> first | rfl | cases awaited

/-! ## Reading -/

/-- Wherever a value may stand and end, a text is read as a tree of an outline. -/
def Reads (o : Outline) (text : List Char) : Prop :=
  ∀ (stack : List Frame) (expect : Expect) (offset : Nat) (rest : List Text.Symbol),
    expect.isValue = true →
      Delimited rest →
        ∃ tree after,
          tree.Depicts o ∧
            build stack expect (lexemesFrom offset 0 (text.map .char ++ rest)) =
              (deliver tree stack).resume (lexemesFrom after 0 rest)

/-- Wherever an item may stand, a text is read as items to the end of their array. -/
def ItemsRead (items : List Outline) (text : List Char) : Prop :=
  ∀ (start : Nat) (before : List Tree) (stack : List Frame) (expect : Expect) (offset : Nat)
    (rest : List Text.Symbol),
    expect.isValue = true →
      ∃ trees stop after,
        ItemsDepict trees items ∧
          build (.array start before :: stack) expect
              (lexemesFrom offset 0 (text.map .char ++ .char ']' :: rest)) =
            (deliver (.array (before.reverse ++ trees) ⟨start, stop⟩) stack).resume
              (lexemesFrom after 0 rest)

/-- Wherever a name may stand, a text is read as a member. -/
def MemberReads (member : Member) (text : List Char) : Prop :=
  ∀ (start : Nat) (before : List (Name × Tree)) (stack : List Frame) (expect : Expect)
    (offset : Nat) (rest : List Text.Symbol),
    expect.isName = true →
      Delimited rest →
        ∃ tree after,
          MembersDepict [tree] [member] ∧
            build (.object start before none :: stack) expect
                (lexemesFrom offset 0 (text.map .char ++ rest)) =
              build (.object start (tree :: before) none :: stack) .memberEnd
                (lexemesFrom after 0 rest)

/-- Wherever a name may stand, a text is read as members to the end of their object. -/
def MembersRead (members : List Member) (text : List Char) : Prop :=
  ∀ (start : Nat) (before : List (Name × Tree)) (stack : List Frame) (expect : Expect)
    (offset : Nat) (rest : List Text.Symbol),
    expect.isName = true →
      ∃ trees stop after,
        MembersDepict trees members ∧
          build (.object start before none :: stack) expect
              (lexemesFrom offset 0 (text.map .char ++ .char '}' :: rest)) =
            (deliver (.object (before.reverse ++ trees) ⟨start, stop⟩) stack).resume
              (lexemesFrom after 0 rest)

namespace Reads

theorem null :
    Reads .null ['n', 'u', 'l', 'l'] := by
  intro stack expect offset rest awaited _
  refine ⟨.null ⟨offset, offset + 4⟩, offset + 4, .null _, ?_⟩
  rw [← move_scalar (l := ⟨.null, offset, offset + 4⟩) rfl awaited, ← build_cons]
  rfl

theorem bool
    (value : Bool) :
    Reads (.bool value) (writeBool value) := by
  intro stack expect offset rest awaited _
  let stop := offset + (writeBool value).length
  refine ⟨.bool value ⟨offset, stop⟩, stop, .bool value _, ?_⟩
  rw [← move_scalar (l := ⟨.bool value, offset, stop⟩) rfl awaited, ← build_cons]
  cases value <;> rfl

theorem number
    (numeral : Numeral) :
    Reads (.number numeral.value?) numeral.text := by
  intro stack expect offset rest awaited delimited
  obtain ⟨value, stop, after, same, token⟩ := exists_lexemesFrom_numeral numeral offset delimited
  refine ⟨.number value ⟨offset, stop⟩, after, same ▸ .number value _, ?_⟩
  rw [token, build_cons, move_scalar rfl awaited]

theorem string
    (fragments : List Fragment) :
    Reads (.string (textOf? fragments)) (quotedText fragments) := by
  intro stack expect offset rest awaited _
  obtain ⟨value, stop, after, same, token⟩ := exists_lexemesFrom_quoted fragments offset rest
  refine ⟨.string value ⟨offset, stop⟩, after, same ▸ .string value _, ?_⟩
  rw [token, build_cons, move_scalar rfl awaited]

/-- Blanks around a text make no difference to how it is read. -/
theorem padded
    {o : Outline}
    {before text after : List Char}
    (blankBefore : Blank before)
    (reads : Reads o text)
    (blankAfter : Blank after) :
    Reads o (before ++ (text ++ after)) := by
  intro stack expect offset rest awaited delimited
  obtain ⟨start, passedBefore⟩ :=
    blankBefore.exists_lexemesFrom offset (text.map .char ++ (after.map .char ++ rest))
  obtain ⟨tree, stop, depicts, built⟩ :=
    reads stack expect start (after.map .char ++ rest) awaited (blankAfter.delimited delimited)
  obtain ⟨last, passedAfter⟩ := blankAfter.exists_lexemesFrom stop rest
  refine ⟨tree, last, depicts, ?_⟩
  have spelled :
      (before ++ (text ++ after)).map Text.Symbol.char ++ rest =
        before.map .char ++ (text.map .char ++ (after.map .char ++ rest)) := by
    simp
  rw [spelled, passedBefore, built, passedAfter]

theorem emptyArray
    {blank : List Char}
    (blanks : Blank blank) :
    Reads (.array []) ('[' :: (blank ++ [']'])) := by
  intro stack expect offset rest awaited _
  obtain ⟨stop, passed⟩ := blanks.exists_lexemesFrom (offset + 1) (.char ']' :: rest)
  refine ⟨.array [] ⟨offset, stop + 1⟩, stop + 1, .array _ .nil, ?_⟩
  have spelled :
      ('[' :: (blank ++ [']'])).map Text.Symbol.char ++ rest =
        .char '[' :: (blank.map .char ++ .char ']' :: rest) := by
    simp
  rw [spelled, build_openArray awaited, passed]
  rfl

/-- The items are read inside the array, and the closing bracket completes it. -/
theorem array
    {items : List Outline}
    {text : List Char}
    (read : ItemsRead items text) :
    Reads (.array items) ('[' :: (text ++ [']'])) := by
  intro stack expect offset rest awaited _
  obtain ⟨trees, stop, after, depict, built⟩ :=
    read offset [] stack .firstItem (offset + 1) rest rfl
  refine ⟨.array trees ⟨offset, stop⟩, after, .array _ depict, ?_⟩
  have spelled :
      ('[' :: (text ++ [']'])).map Text.Symbol.char ++ rest =
        .char '[' :: (text.map .char ++ .char ']' :: rest) := by
    simp
  rw [spelled, build_openArray awaited]
  exact built

theorem emptyObject
    {blank : List Char}
    (blanks : Blank blank) :
    Reads (.object []) ('{' :: (blank ++ ['}'])) := by
  intro stack expect offset rest awaited _
  obtain ⟨stop, passed⟩ := blanks.exists_lexemesFrom (offset + 1) (.char '}' :: rest)
  refine ⟨.object [] ⟨offset, stop + 1⟩, stop + 1, .object _ .nil, ?_⟩
  have spelled :
      ('{' :: (blank ++ ['}'])).map Text.Symbol.char ++ rest =
        .char '{' :: (blank.map .char ++ .char '}' :: rest) := by
    simp
  rw [spelled, build_openObject awaited, passed]
  rfl

/-- The members are read inside the object, and the closing brace completes it. -/
theorem object
    {members : List Member}
    {text : List Char}
    (read : MembersRead members text) :
    Reads (.object members) ('{' :: (text ++ ['}'])) := by
  intro stack expect offset rest awaited _
  obtain ⟨trees, stop, after, depict, built⟩ :=
    read offset [] stack .firstName (offset + 1) rest rfl
  refine ⟨.object trees ⟨offset, stop⟩, after, .object _ depict, ?_⟩
  have spelled :
      ('{' :: (text ++ ['}'])).map Text.Symbol.char ++ rest =
        .char '{' :: (text.map .char ++ .char '}' :: rest) := by
    simp
  rw [spelled, build_openObject awaited]
  exact built

end Reads

namespace ItemsRead

theorem one
    {item : Outline}
    {text : List Char}
    (reads : Reads item text) :
    ItemsRead [item] text := by
  intro start before stack expect offset rest awaited
  obtain ⟨tree, stop, depicts, built⟩ :=
    reads (.array start before :: stack) expect offset (.char ']' :: rest) awaited
      (delimited_cons (by decide) rest)
  refine ⟨[tree], stop + 1, stop + 1, .cons depicts .nil, ?_⟩
  rw [built, ← List.reverse_cons]
  rfl

/-- After a comma, an array goes on with the items that follow. -/
theorem more
    {item : Outline}
    {text : List Char}
    {items : List Outline}
    {others : List Char}
    (reads : Reads item text)
    (read : ItemsRead items others) :
    ItemsRead (item :: items) (text ++ ',' :: others) := by
  intro start before stack expect offset rest awaited
  let behind : List Text.Symbol := others.map .char ++ .char ']' :: rest
  obtain ⟨tree, comma, depicts, built⟩ :=
    reads (.array start before :: stack) expect offset (.char ',' :: behind) awaited
      (delimited_cons (by decide) _)
  obtain ⟨trees, stop, after, depict, builtOthers⟩ :=
    read start (tree :: before) stack .nextItem (comma + 1) rest rfl
  refine ⟨tree :: trees, stop, after, .cons depicts depict, ?_⟩
  have spelled :
      (text ++ ',' :: others).map Text.Symbol.char ++ .char ']' :: rest =
        text.map .char ++ .char ',' :: behind := by
    simp [behind]
  have reversed : before.reverse ++ tree :: trees = (tree :: before).reverse ++ trees := by
    simp
  rw [spelled, built, reversed]
  exact builtOthers

end ItemsRead

/-- A member is read once its name, the colon and its value are. -/
theorem MemberReads.mk
    {before : List Char}
    {fragments : List Fragment}
    {after : List Char}
    {value : Outline}
    {text : List Char}
    (blankBefore : Blank before)
    (blankAfter : Blank after)
    (reads : Reads value text) :
    MemberReads (textOf? fragments, value)
      (before ++ (quotedText fragments ++ (after ++ ':' :: text))) := by
  intro start members stack expect offset rest awaited delimited
  let behindName : List Text.Symbol := after.map .char ++ .char ':' :: (text.map .char ++ rest)
  obtain ⟨quote, passedBefore⟩ :=
    blankBefore.exists_lexemesFrom offset ((quotedText fragments).map .char ++ behindName)
  obtain ⟨name, stop, behind, sameName, token⟩ :=
    exists_lexemesFrom_quoted fragments quote behindName
  obtain ⟨colon, passedAfter⟩ :=
    blankAfter.exists_lexemesFrom behind (.char ':' :: (text.map .char ++ rest))
  let named : Name := ⟨name, none, colon⟩
  obtain ⟨tree, last, depicts, built⟩ :=
    reads (.object start members (some named) :: stack) .memberValue (colon + 1) rest rfl delimited
  have member : MembersDepict [(named, tree)] [(textOf? fragments, value)] :=
    sameName ▸ .cons rfl depicts .nil
  refine ⟨(named, tree), last, member, ?_⟩
  have spelled :
      (before ++ (quotedText fragments ++ (after ++ ':' :: text))).map Text.Symbol.char ++ rest =
        before.map .char ++ ((quotedText fragments).map .char ++ behindName) := by
    simp [behindName]
  have nameMoves :
      move ⟨.string name, quote, stop⟩ expect (.object start members none :: stack) =
        .go (.object start members (some ⟨name, none, 0⟩) :: stack) .colon := by
    cases expect <;> first | rfl | cases awaited
  rw [spelled, passedBefore, token, build_cons, nameMoves, passedAfter]
  exact built

namespace MembersRead

theorem one
    {member : Member}
    {text : List Char}
    (reads : MemberReads member text) :
    MembersRead [member] text := by
  intro start before stack expect offset rest awaited
  obtain ⟨tree, stop, depicts, built⟩ :=
    reads start before stack expect offset (.char '}' :: rest) awaited
      (delimited_cons (by decide) rest)
  refine ⟨[tree], stop + 1, stop + 1, depicts, ?_⟩
  rw [built, ← List.reverse_cons]
  rfl

/-- After a comma, an object goes on with the members that follow. -/
theorem more
    {member : Member}
    {text : List Char}
    {members : List Member}
    {others : List Char}
    (reads : MemberReads member text)
    (read : MembersRead members others) :
    MembersRead (member :: members) (text ++ ',' :: others) := by
  intro start before stack expect offset rest awaited
  let behind : List Text.Symbol := others.map .char ++ .char '}' :: rest
  obtain ⟨tree, comma, depicts, built⟩ :=
    reads start before stack expect offset (.char ',' :: behind) awaited
      (delimited_cons (by decide) _)
  obtain ⟨trees, stop, after, depict, builtOthers⟩ :=
    read start (tree :: before) stack .nextName (comma + 1) rest rfl
  obtain _ | ⟨clean, depicts, -⟩ := depicts
  refine ⟨_ :: trees, stop, after, .cons clean depicts depict, ?_⟩
  have spelled :
      (text ++ ',' :: others).map Text.Symbol.char ++ .char '}' :: rest =
        text.map .char ++ .char ',' :: behind := by
    simp [behind]
  rw [spelled, built, List.append_cons, ← List.reverse_cons]
  exact builtOthers

end MembersRead

mutual

/-- Whatever is written by the grammar is read, by the production that wrote it. -/
theorem Written.reads : ∀ {o : Outline} {text : List Char}, Written o text → Reads o text
  | _, _, .null => .null
  | _, _, .bool value => .bool value
  | _, _, .number numeral => .number numeral
  | _, _, .string fragments => .string fragments
  | _, _, .emptyArray blanks => .emptyArray blanks
  | _, _, .array written => .array written.read
  | _, _, .emptyObject blanks => .emptyObject blanks
  | _, _, .object written => .object written.read

/-- So it is with blanks around it. -/
theorem Padded.reads : ∀ {o : Outline} {text : List Char}, Padded o text → Reads o text
  | _, _, .mk before written after => .padded before written.reads after

theorem ItemsWritten.read : ∀ {items : List Outline} {text : List Char},
    ItemsWritten items text → ItemsRead items text
  | _, _, .one padded => .one padded.reads
  | _, _, .more padded written => .more padded.reads written.read

theorem MemberWritten.reads : ∀ {member : Member} {text : List Char},
    MemberWritten member text → MemberReads member text
  | _, _, .mk before after padded => .mk before after padded.reads

theorem MembersWritten.read : ∀ {members : List Member} {text : List Char},
    MembersWritten members text → MembersRead members text
  | _, _, .one member => .one member.reads
  | _, _, .more member written => .more member.reads written.read

end

/-- A text of the grammar is read as a tree that has its outline, with nothing behind it. -/
theorem Padded.exists_readTree
    {o : Outline}
    {text : List Char}
    (padded : Padded o text) :
    ∃ tree, tree.Depicts o ∧ readTree (text.map .char) = ⟨tree, none⟩ := by
  have delimited : Delimited [] := nofun
  obtain ⟨tree, after, depicts, reads⟩ := padded.reads [] .document 0 [] rfl delimited
  refine ⟨tree, depicts, ?_⟩
  rw [List.append_nil] at reads
  exact reads

end Notary.Json
