import Mathlib.Data.List.Basic
import Notary.Settings.Load

namespace Notary.Settings

/-!
# Reading tables of settings

A table is read member by member, in any order. A member whose value is of the right type
settles one part of the structure whatever has been settled before, and members with unknown
names settle nothing. So reading succeeds, and each part is as the table tells, or as it was.
-/

open Toml (Node Table)

/-- The text that a value is. -/
def text? : Node → Option String
  | .scalar _ (.text value) => some value
  | _ => none

/-- The truth value that a value is. -/
def flag? : Node → Option Bool
  | .scalar _ (.bool value) => some value
  | _ => none

/-- The number that a value is, if it is not negative. -/
def count? : Node → Option Nat
  | .scalar _ (.integer value) => if 0 ≤ value then some value.toNat else none
  | _ => none

/-- An array or a table that holds nothing. -/
def isHollow : Node → Bool
  | .array _ [] | .table _ _ [] | .tables [] => true
  | _ => false

/-- The log format that a value names, as a text or by its only member. -/
def format? : Node → Option LogFormat
  | .scalar _ (.text name) => LogFormat.ofName? name
  | .table _ _ [(key, inner)] => if isHollow inner then LogFormat.ofName? key.name else none
  | _ => none

/-- The members of a table. -/
def members? : Node → Option Table
  | .table _ _ members => some members
  | _ => none

section Views

variable
    {node : Node}

theorem readText_of_text?
    {value : String}
    (isText : text? node = some value)
    (wanted : String) :
    readText wanted (.ofNode node) = .ok value := by
  unfold text? at isText
  split at isText
  · cases isText
    rfl
  · cases isText

theorem readFlag_of_flag?
    {value : Bool}
    (isFlag : flag? node = some value) :
    readFlag (.ofNode node) = .ok value := by
  unfold flag? at isFlag
  split at isFlag
  · cases isFlag
    rfl
  · cases isFlag

theorem readCount_of_count?
    {value : Nat}
    (isCount : count? node = some value)
    (wanted : String) :
    readCount wanted (.ofNode node) = .ok value := by
  unfold count? at isCount
  split at isCount
  · split at isCount
    · next natural =>
        cases isCount
        exact if_pos natural
    · cases isCount
  · cases isCount

/-- A hollow value is accepted under the name of a log format, where nothing is expected. -/
theorem checkNothing_of_isHollow
    (hollow : isHollow node = true) :
    checkNothing .toml (.ofNode node) = .ok () := by
  unfold isHollow at hollow
  split at hollow
  · rfl
  · rfl
  · rfl
  · cases hollow

theorem formatNamed_of_ofName?
    {name : String}
    {format : LogFormat}
    (named : LogFormat.ofName? name = some format) :
    formatNamed name = .ok format := by
  rw [formatNamed, named]

/-- A node that names a format of the log is read as that format. -/
theorem readFormat_of_format?
    {format : LogFormat}
    (isFormat : format? node = some format) :
    readFormat .toml (.ofNode node) = .ok format := by
  unfold format? at isFormat
  split at isFormat
  · exact formatNamed_of_ofName? isFormat
  · next key inner =>
      split at isFormat
      · next hollow =>
          have named := formatNamed_of_ofName? isFormat
          have nothing := checkNothing_of_isHollow hollow
          simp only [Datum.ofNode, Datum.ofEntries, readFormat, named, nothing]
          rfl
      · cases isFormat
  · cases isFormat

end Views

/-- What a table tells under a name: a value of the right type, or nothing. -/
structure Tells {α : Type}
    (table : Table)
    (name : String)
    (view? : Node → Option α)
    (value : Option α) : Prop where
  only :
    ∀ member ∈ table, member.1.name = name →
      (view? member.2).isSome = true ∧ view? member.2 = value
  nothing : (∀ member ∈ table, member.1.name ≠ name) → value = none

instance {α : Type} [DecidableEq α] (table : Table) (name : String) (view? : Node → Option α)
    (value : Option α) : Decidable (Tells table name view? value) :=
  decidable_of_iff
    ((∀ member ∈ table, member.1.name = name →
        (view? member.2).isSome = true ∧ view? member.2 = value) ∧
      ((∀ member ∈ table, member.1.name ≠ name) → value = none))
    ⟨fun both => ⟨both.1, both.2⟩, fun tells => ⟨tells.only, tells.nothing⟩⟩

/-- What a table tells under a name: tables of a kind, or nothing. -/
structure Nests
    (table : Table)
    (name : String)
    (kind : Table → Prop)
    (isEmpty : Prop) : Prop where
  only : ∀ member ∈ table, member.1.name = name → ∃ inner ∈ members? member.2, kind inner
  nothing : (∀ member ∈ table, member.1.name ≠ name) → isEmpty

instance (table : Table) (name : String) (kind : Table → Prop) (isEmpty : Prop)
    [DecidablePred kind] [Decidable isEmpty] : Decidable (Nests table name kind isEmpty) :=
  decidable_of_iff
    ((∀ member ∈ table, member.1.name = name → ∃ inner ∈ members? member.2, kind inner) ∧
      ((∀ member ∈ table, member.1.name ≠ name) → isEmpty))
    ⟨fun both => ⟨both.1, both.2⟩, fun nests => ⟨nests.only, nests.nothing⟩⟩

/-- The names under which a table has members. -/
def namesOf (table : Table) : List String :=
  table.map (·.1.name)

/-- The part of a structure that a name stands for, once members with the given names are read. -/
def settle {α : Type} (name : String) (names : List String) (value : Option α) (start : α) : α :=
  if name ∈ names then value.getD start else start

section Settling

variable
    {α : Type}
    {name : String}
    {table : Table}
    {view? : Node → Option α}
    {value : Option α}

@[simp] theorem settle_nil
    (name : String)
    (value : Option α)
    (start : α) :
    settle name [] value start = start :=
  if_neg List.not_mem_nil

/--
Two settlings of one name, the first for a single entry, are one settling for the longer list of
entries.
-/
theorem settle_settle
    (name other : String)
    (names : List String)
    (value : Option α)
    (start : α) :
    settle name names value (settle name [other] value start) =
      settle name (other :: names) value start := by
  unfold settle
  cases value <;> by_cases here : name = other <;> by_cases later : name ∈ names <;>
    simp [here, later]

theorem settle_of_ne
    {other : String}
    (differ : name ≠ other)
    (value : Option α)
    (start : α) :
    settle name [other] value start = start :=
  if_neg (by simpa using differ)

/--
A table that tells the value of a name settles the member of that name to it, and leaves the
starting value where it tells nothing.
-/
theorem Tells.settle_eq
    (tells : Tells table name view? value)
    (start : α) :
    settle name (namesOf table) value start = value.getD start := by
  unfold settle namesOf
  split
  · rfl
  · next unnamed =>
      have none : value = none :=
        tells.nothing fun member inside same =>
          unnamed (List.mem_map.mpr ⟨member, inside, same⟩)
      rw [none, Option.getD_none]

/--
A table that nests a section settles the member to what the section says; `alike` covers the table
without the section.
-/
theorem Nests.settle_eq
    {kind : Table → Prop}
    {isEmpty : Prop}
    (nests : Nests table name kind isEmpty)
    {content start : α}
    (alike : isEmpty → content = start) :
    settle name (namesOf table) (some content) start = content := by
  unfold settle namesOf
  split
  · rfl
  · next unnamed =>
      exact (alike (nests.nothing fun member inside same =>
        unnamed (List.mem_map.mpr ⟨member, inside, same⟩))).symm

end Settling

@[simp] theorem Member.of_name {α β : Type}
    (name : String)
    (read : Datum → Except Difference β)
    (put : α → β → α) :
    (Member.of name read put).name = name :=
  rfl

/-- Reading a member that a table tells settles the part of the structure that it is put into. -/
theorem Tells.read_eq {α β : Type}
    {table : Table}
    {name : String}
    {view? : Node → Option β}
    {value : Option β}
    {read : Datum → Except Difference β}
    {put : α → β → α}
    {settled : α → α}
    (tells : Tells table name view? value)
    (reads : ∀ {node content}, view? node = some content → read (.ofNode node) = .ok content)
    (get : α → β)
    (puts : ∀ start, put start (settle name [name] value (get start)) = settled start) :
    ∀ member ∈ table, member.1.name = name →
      ∀ place start,
        (Member.of name read put).read place (.ofNode member.2) start = .ok (settled start) := by
  intro member inside same place start
  obtain ⟨isSome, shown⟩ := tells.only member inside same
  obtain ⟨content, isContent⟩ := Option.isSome_iff_exists.mp isSome
  have settles : settle name [name] value (get start) = content := by
    rw [settle, if_pos (List.mem_singleton_self name), ← shown, isContent, Option.getD_some]
  rw [← puts, settles]
  simp only [Member.of, reads isContent]

/-- A node that is a table is read member by member, wherever it came from. -/
theorem readStructure_of_members? {α : Type}
    {node : Node}
    {inner : Table}
    (isTable : inner ∈ members? node)
    (origin : Origin)
    (wanted : String)
    (known : List (Member α))
    (start : α)
    (place : Nat) :
    readStructure origin wanted known start place (.ofNode node) =
      readByName known start (Datum.ofEntries inner) := by
  unfold members? at isTable
  split at isTable
  · cases isTable
    rfl
  · cases isTable

section Members

variable
    {α : Type}
    {known : List (Member α)}
    {settled : List String → α → α}

/--
If each member of a table settles what its name stands for, and nothing if its name is
unknown, then reading the table settles what its names stand for.
-/
theorem readByName_ofEntries
    {table : Table}
    (settles_nil : ∀ start, settled [] start = start)
    (settles_cons :
      ∀ name names start, settled names (settled [name] start) = settled (name :: names) start)
    (reads :
      ∀ m ∈ known, ∀ member ∈ table, member.1.name = m.name →
        ∀ place start, m.read place (.ofNode member.2) start = .ok (settled [m.name] start))
    (skips : ∀ name, (∀ m ∈ known, m.name ≠ name) → ∀ start, settled [name] start = start)
    (start : α) :
    readByName known start (Datum.ofEntries table) = .ok (settled (namesOf table) start) := by
  induction table generalizing start with
  | nil =>
      rw [Datum.ofEntries, readByName, namesOf, List.map_nil, settles_nil]
  | cons member rest inductionHypothesis =>
      have readsRest := inductionHypothesis fun m isKnown later inside =>
        reads m isKnown later (List.mem_cons_of_mem _ inside)
      obtain ⟨key, node⟩ := member
      rw [namesOf, List.map_cons, ← settles_cons, Datum.ofEntries, readByName]
      cases found : known.find? (·.name = key.name) with
      | some m =>
          have isKnown := List.mem_of_find?_eq_some found
          have same : m.name = key.name := by
            simpa using List.find?_some found
          have read := reads m isKnown (key, node) List.mem_cons_self same.symm
          change
            (do readByName known (← m.read _ (.ofNode node) start) (Datum.ofEntries rest)) = _
          rw [← same, read]
          exact readsRest (settled [m.name] start)
      | none =>
          have unknown : ∀ m ∈ known, m.name ≠ key.name := by
            simpa using List.find?_eq_none.mp found
          rw [skips key.name unknown]
          exact readsRest start

end Members

end Notary.Settings
