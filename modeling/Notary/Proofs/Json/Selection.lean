import Mathlib.Data.List.Nodup
import Mathlib.Data.List.Perm.Basic
import Mathlib.Data.Option.Basic
import Notary.Json.Members
import Notary.Proofs.Json.Outline

namespace Notary.Json

/-!
# Members are selected by name

Reading an object picks the members whose names are known. That succeeds when each of them
can be read and no known name repeats; where a member stands and which others there are plays
no part in what is found for a name.
-/

variable
    {α β : Type}
    {look : String → Option (β → Option α)}
    {seen : List String}
    {members : List (String × β)}

/-- Read the members with known names in order; no name may repeat, or be one seen before. -/
def select (look : String → Option (β → Option α)) :
    (seen : List String) → List (String × β) → Option (List (String × α))
  | _, [] => some []
  | seen, (name, item) :: rest =>
      match look name with
      | some read =>
          if name ∈ seen then none
          else do
            let content ← read item
            return (name, content) :: (← select look (name :: seen) rest)
      | none => select look seen rest

/-- What is read of a member, if its name is known. -/
def taken (look : String → Option (β → Option α)) (member : String × β) : Option (String × α) :=
  (look member.1).bind fun read => (read member.2).map (member.1, ·)

/-- Whether a member can be read if its name is known. -/
def Readable (look : String → Option (β → Option α)) (member : String × β) : Prop :=
  ∀ read, look member.1 = some read → (read member.2).isSome = true

/-- The known names of members. -/
def knownNames (look : String → Option (β → Option α)) (members : List (String × β)) :
    List String :=
  (members.map (·.1)).filter fun name => (look name).isSome

/-- One more name is new exactly if it is, and the names after it are new after it too. -/
theorem fresh_cons_iff
    {name : String}
    {names : List String} :
    (name :: names).Nodup ∧ (∀ other ∈ name :: names, other ∉ seen) ↔
      name ∉ seen ∧ names.Nodup ∧ ∀ other ∈ names, other ∉ name :: seen := by
  rw [List.nodup_cons, List.forall_mem_cons]
  simp only [List.mem_cons, not_or]
  constructor
  · rintro ⟨⟨differs, distinct⟩, fresh, freshRest⟩
    exact ⟨fresh, distinct, fun other inside =>
      ⟨fun same => differs (same ▸ inside), freshRest other inside⟩⟩
  · rintro ⟨fresh, distinct, freshRest⟩
    exact ⟨⟨fun inside => (freshRest name inside).1 rfl, distinct⟩, fresh,
      fun other inside => (freshRest other inside).2⟩

/-- Members are selected when each can be read, and the known names are different and new. -/
theorem select_eq_some_iff
    {found : List (String × α)} :
    select look seen members = some found ↔
      (∀ member ∈ members, Readable look member) ∧
        ((knownNames look members).Nodup ∧ ∀ name ∈ knownNames look members, name ∉ seen) ∧
        members.filterMap (taken look) = found := by
  -- Each known name is seen by the members behind it, so the names seen are general.
  induction members generalizing seen found with
  | nil =>
      simp [select, knownNames]
  | cons member rest inductionHypothesis =>
      obtain ⟨name, item⟩ := member
      cases known : look name with
      | none =>
          have skipped : knownNames look ((name, item) :: rest) = knownNames look rest := by
            simp [knownNames, known]
          have readable : Readable look (name, item) := by
            simp [Readable, known]
          have nothing : taken look (name, item) = none := by
            simp [taken, known]
          rw [select, known, skipped, List.forall_mem_cons, List.filterMap_cons_none nothing]
          simp only [inductionHypothesis, readable, true_and]
      | some read =>
          have listed : knownNames look ((name, item) :: rest) = name :: knownNames look rest := by
            simp [knownNames, known]
          rw [select, known, listed, List.forall_mem_cons, fresh_cons_iff]
          cases content : read item with
          | none =>
              have unreadable : ¬ Readable look (name, item) := by
                simp [Readable, known, content]
              simp [content, unreadable]
          | some a =>
              have readable : Readable look (name, item) := by
                simp [Readable, known, content]
              have here : taken look (name, item) = some (name, a) := by
                simp [taken, known, content]
              rw [List.filterMap_cons_some here]
              by_cases repeated : name ∈ seen
              · simp [repeated]
              · simp only [repeated, content, if_false, bind, Option.bind_some,
                  Option.bind_eq_some_iff]
                constructor
                · rintro ⟨others, selected, made⟩
                  obtain rfl := Option.some.inj made
                  obtain ⟨readableRest, fresh, rfl⟩ := inductionHypothesis.mp selected
                  exact ⟨⟨readable, readableRest⟩, ⟨not_false, fresh⟩, rfl⟩
                · rintro ⟨⟨-, readableRest⟩, ⟨-, fresh⟩, rfl⟩
                  exact ⟨_, inductionHypothesis.mpr ⟨readableRest, fresh, rfl⟩, rfl⟩

/-- A member with an unknown name is passed over. -/
theorem select_cons_of_unknown
    {member : String × β}
    (unknown : look member.1 = none) :
    select look seen (member :: members) = select look seen members := by
  rw [select, unknown]

/-- Nothing is selected from members with unknown names only. -/
theorem select_of_all_unknown
    (unknown : ∀ member ∈ members, look member.1 = none) :
    select look seen members = some [] := by
  induction members with
  | nil =>
      rfl
  | cons member members inductionHypothesis =>
      obtain ⟨unknownHere, unknownRest⟩ := List.forall_mem_cons.mp unknown
      rw [select_cons_of_unknown unknownHere]
      exact inductionHypothesis unknownRest

/-- A name that no member has might as well not have been seen. -/
theorem select_seen_of_new
    {name : String}
    (new : name ∉ members.map (·.1)) :
    select look (name :: seen) members = select look seen members := by
  have differs : ∀ other ∈ knownNames look members, other ≠ name := by
    rintro other inside rfl
    exact new (List.mem_of_mem_filter inside)
  have fresh :
      (∀ other ∈ knownNames look members, other ∉ name :: seen) ↔
        ∀ other ∈ knownNames look members, other ∉ seen :=
    forall₂_congr fun other inside => by simp [differs other inside]
  ext found
  rw [select_eq_some_iff, select_eq_some_iff, fresh]

/-- The member of a name that was not there is selected beside the others. -/
theorem select_cons_of_new
    {name : String}
    {item : β}
    {read : β → Option α}
    {content : α}
    (known : look name = some read)
    (reads : read item = some content)
    (new : name ∉ members.map (·.1)) :
    select look [] ((name, item) :: members) =
      (select look [] members).map ((name, content) :: ·) := by
  rw [select, known]
  simp only [List.not_mem_nil, if_false, reads, select_seen_of_new new]
  cases select look [] members <;> rfl

/-- Nothing is selected where a known name repeats. -/
theorem select_eq_none_of_repeated
    (repeated : ¬ (knownNames look members).Nodup) :
    select look seen members = none := by
  cases selected : select look seen members with
  | none =>
      rfl
  | some found =>
      exact (repeated (select_eq_some_iff.mp selected).2.1.1).elim

theorem mem_of_mem_filterMap_taken
    {name : String}
    {content : α}
    (inside : (name, content) ∈ members.filterMap (taken look)) :
    name ∈ members.map (·.1) := by
  obtain ⟨member, listed, takes⟩ := List.mem_filterMap.mp inside
  obtain ⟨read, -, reads⟩ := Option.bind_eq_some_iff.mp takes
  obtain ⟨found, -, same⟩ := Option.map_eq_some_iff.mp reads
  cases same
  exact List.mem_map_of_mem listed

/-- Where every member is readable, what is taken carries the known names in their order. -/
theorem map_fst_filterMap_taken
    (readable : ∀ member ∈ members, Readable look member) :
    (members.filterMap (taken look)).map (·.1) = knownNames look members := by
  induction members with
  | nil =>
      rfl
  | cons member members inductionHypothesis =>
      obtain ⟨readableHere, readableRest⟩ := List.forall_mem_cons.mp readable
      have names := inductionHypothesis readableRest
      rw [knownNames] at names ⊢
      cases known : look member.1 with
      | none =>
          simpa [taken, known] using names
      | some read =>
          obtain ⟨content, reads⟩ := Option.isSome_iff_exists.mp (readableHere read known)
          simpa [taken, known, reads] using names

/-- What is selected has different names. -/
theorem nodup_of_select
    {found : List (String × α)}
    (selected : select look seen members = some found) :
    (found.map (·.1)).Nodup := by
  obtain ⟨readable, ⟨distinct, -⟩, rfl⟩ := select_eq_some_iff.mp selected
  rw [map_fst_filterMap_taken readable]
  exact distinct

/-- A selection succeeds in any order of the members, with the same content. -/
theorem exists_select_perm
    {others : List (String × β)}
    (same : members.Perm others)
    {found : List (String × α)}
    (selected : select look [] members = some found) :
    ∃ found', select look [] others = some found' ∧ found.Perm found' := by
  obtain ⟨readable, ⟨distinct, -⟩, rfl⟩ := select_eq_some_iff.mp selected
  have names : (knownNames look members).Perm (knownNames look others) :=
    (same.map _).filter _
  refine ⟨others.filterMap (taken look), select_eq_some_iff.mpr ⟨?_, ⟨?_, ?_⟩, rfl⟩,
    same.filterMap _⟩
  · exact fun member inside => readable member (same.mem_iff.mpr inside)
  · exact names.nodup_iff.mp distinct
  · exact fun _ _ => List.not_mem_nil

/-- What is selected of members in another order is the same in another order. -/
theorem select_perm
    {others : List (String × β)}
    (same : members.Perm others) :
    Option.Rel List.Perm (select look [] members) (select look [] others) := by
  cases selected : select look [] members with
  | none =>
      cases selectedThere : select look [] others with
      | none =>
          exact .none
      | some found =>
          obtain ⟨found', selectedHere, -⟩ := exists_select_perm same.symm selectedThere
          rw [selected] at selectedHere
          cases selectedHere
  | some found =>
      obtain ⟨found', selectedThere, samePerm⟩ := exists_select_perm same selected
      rw [selectedThere]
      exact .some samePerm

section Lookup

variable
    {name : String}
    {content : α}
    {found : List (String × α)}

theorem mem_of_mem_select
    (selected : select look seen members = some found)
    (inside : name ∈ found.map (·.1)) :
    name ∈ members.map (·.1) := by
  obtain ⟨-, -, rfl⟩ := select_eq_some_iff.mp selected
  obtain ⟨⟨name, held⟩, listed, rfl⟩ := List.mem_map.mp inside
  exact mem_of_mem_filterMap_taken listed

theorem lookup?_cons
    (name other : String)
    (content : α)
    (found : List (String × α)) :
    lookup? other ((name, content) :: found) =
      if name = other then some content else lookup? other found := by
  by_cases same : name = other <;> simp [lookup?, same]

theorem lookup?_eq_none_iff :
    lookup? name found = none ↔ name ∉ found.map (·.1) := by
  simp only [lookup?, Option.map_eq_none_iff, List.find?_eq_none, decide_eq_true_eq,
    List.mem_map, not_exists, not_and]

theorem mem_of_lookup?
    (finds : lookup? name found = some content) :
    (name, content) ∈ found := by
  obtain ⟨⟨other, held⟩, search, rfl⟩ := Option.map_eq_some_iff.mp finds
  have same : other = name := by
    simpa using List.find?_some search
  exact same ▸ List.mem_of_find?_eq_some search

/-- Under different names, a name finds what stands under it. -/
theorem lookup?_eq_some_iff
    (distinct : (found.map (·.1)).Nodup) :
    lookup? name found = some content ↔ (name, content) ∈ found := by
  refine ⟨mem_of_lookup?, fun inside => ?_⟩
  cases finds : lookup? name found with
  | none =>
      exact (lookup?_eq_none_iff.mp finds (List.mem_map_of_mem inside)).elim
  | some other =>
      have same := List.inj_on_of_nodup_map distinct (mem_of_lookup? finds) inside rfl
      exact congrArg some (congrArg Prod.snd same)

/-- Different names are found wherever their members stand. -/
theorem lookup?_perm
    {found' : List (String × α)}
    (same : found.Perm found')
    (distinct : (found.map (·.1)).Nodup)
    (name : String) :
    lookup? name found = lookup? name found' := by
  ext content
  rw [lookup?_eq_some_iff distinct, lookup?_eq_some_iff ((same.map _).nodup_iff.mp distinct),
    same.mem_iff]

end Lookup

/-! ## Objects -/

/-- The members with the texts of their names, if all names can be held. -/
def named? (members : List (Option String × β)) : Option (List (String × β)) :=
  if members.all (·.1.isSome) then
    some (members.filterMap fun member => member.1.map (·, member.2))
  else none

theorem named?_cons_none
    (item : β)
    (members : List (Option String × β)) :
    named? ((none, item) :: members) = none := by
  simp [named?]

theorem named?_cons_some
    (name : String)
    (item : β)
    (members : List (Option String × β)) :
    named? ((some name, item) :: members) = (named? members).map ((name, item) :: ·) := by
  simp only [named?, List.all_cons, Option.isSome_some, Bool.true_and]
  split <;> simp

theorem mem_of_named?
    {members : List (Option String × β)}
    {named : List (String × β)}
    (names : named? members = some named)
    {name : String}
    {item : β}
    (listed : (some name, item) ∈ members) :
    (name, item) ∈ named := by
  rw [named?, Option.ite_none_right_eq_some] at names
  obtain rfl := Option.some.inj names.2
  exact List.mem_filterMap.mpr ⟨_, listed, rfl⟩

/-- Members in another order have the same names in another order. -/
theorem named?_perm
    {members others : List (Option String × β)}
    (same : members.Perm others) :
    Option.Rel List.Perm (named? members) (named? others) := by
  rw [named?, named?, same.all_eq]
  split
  · exact .some (same.filterMap _)
  · exact .none

/-- Keep what is to be kept of the members with unknown names. -/
def keepOthers
    (knows : String → Bool)
    (kept : β → Option (Option Value)) :
    List (String × β) → Option (List (String × Value))
  | [] => some []
  | (name, item) :: rest =>
      if knows name then keepOthers knows kept rest
      else do
        let value ← kept item
        return (value.map (name, ·)).toList ++ (← keepOthers knows kept rest)

/-- Picking members of a value is the selection by their readers, up to what a failure says. -/
theorem toOption_pickMembers
    (read : String → Option (Value → Except Mismatch α))
    (seen : List String)
    (values : List (String × Value)) :
    (pickMembers read seen values).toOption =
      select (fun name => (read name).map fun reader value => (reader value).toOption)
        seen values := by
  induction values generalizing seen with
  | nil =>
      rfl
  | cons member values inductionHypothesis =>
      obtain ⟨name, value⟩ := member
      rw [pickMembers, select]
      cases read name with
      | none =>
          exact inductionHypothesis seen
      | some reader =>
          simp only [Option.map_some]
          split
          · rfl
          · simp only [toOption_bind, inductionHypothesis]
            rfl

/-- Nothing is kept of members whose values are passed over. -/
theorem keepOthers_passing
    (knows : String → Bool)
    (members : List (String × β)) :
    keepOthers knows (fun _ => some none) members = some [] := by
  induction members with
  | nil =>
      rfl
  | cons member members inductionHypothesis =>
      rw [keepOthers, inductionHypothesis]
      split <;> rfl

/-- The members with other names are kept exactly if each of them can be. -/
theorem isSome_keepOthers_iff
    {knows : String → Bool}
    {kept : β → Option (Option Value)} :
    (keepOthers knows kept members).isSome = true ↔
      ∀ member ∈ members, knows member.1 = false → (kept member.2).isSome = true := by
  induction members with
  | nil =>
      simp [keepOthers]
  | cons member members inductionHypothesis =>
      rw [keepOthers, List.forall_mem_cons, ← inductionHypothesis]
      cases known : knows member.1 with
      | true =>
          simp
      | false =>
          cases kept member.2 <;> cases keepOthers knows kept members <;> simp

/-- Of the values that were kept, those with known names are selected as if from the members. -/
theorem select_keepOthers
    {knows : String → Bool}
    {read : String → Option (Value → Option α)}
    (apart : ∀ name, knows name = true → read name = none)
    {depth : Nat}
    {members : List (String × Outline)}
    {foreign : List (String × Value)}
    (kept : keepOthers knows (fun o => (o.value? depth).map some) members = some foreign)
    (seen : List String) :
    select read seen foreign =
      select (fun name => (read name).map fun reader o => (o.value? depth).bind reader)
        seen members := by
  induction members generalizing foreign seen with
  | nil =>
      cases kept
      rfl
  | cons member members inductionHypothesis =>
      obtain ⟨name, item⟩ := member
      rw [keepOthers] at kept
      cases known : knows name with
      | true =>
          rw [known, if_pos rfl] at kept
          rw [select_cons_of_unknown (by simp [apart name known])]
          exact inductionHypothesis kept seen
      | false =>
          simp only [known, Bool.false_eq_true, if_false, bind, Option.bind_eq_some_iff,
            Option.map_eq_some_iff] at kept
          obtain ⟨value, ⟨value, hasValue, rfl⟩, others, keptRest, made⟩ := kept
          obtain rfl := Option.some.inj made
          rw [Option.map_some, Option.toList_some, List.singleton_append, select, select]
          cases read name with
          | none =>
              exact inductionHypothesis keptRest seen
          | some reader =>
              simp only [Option.map_some, hasValue, Option.bind_some, inductionHypothesis keptRest]

/-- What named members make: those with known names as they are read, and what is kept of others. -/
def gather?
    (look : String → Option (Outline → Option α))
    (kept : Outline → Option (Option Value))
    (seen : List String)
    (named : List (String × Outline)) : Option (Members α) := do
  let foreign ← keepOthers (fun name => (look name).isSome) kept named
  let known ← select look seen named
  return ⟨known, foreign⟩

section Gather

variable
    {look : String → Option (Outline → Option α)}
    {kept : Outline → Option (Option Value)}
    {name : String}
    {item : Outline}
    {named : List (String × Outline)}

/-- A member with an unknown name is kept as a foreign one. -/
theorem gather?_cons_of_unknown
    (unknown : look name = none) :
    gather? look kept seen ((name, item) :: named) =
      (kept item).bind fun value =>
        (gather? look kept seen named).bind fun rest => some (rest.pushForeign name value) := by
  simp only [gather?, keepOthers, select, unknown, Option.isSome_none, Bool.false_eq_true,
    if_false, bind]
  cases kept item with
  | none =>
      rfl
  | some value =>
      cases keepOthers (fun name => (look name).isSome) kept named <;>
        cases select look seen named <;> rfl

/-- A member whose name has been seen before ends the gathering. -/
theorem gather?_cons_of_seen
    (known : (look name).isSome = true)
    (repeated : name ∈ seen) :
    gather? look kept seen ((name, item) :: named) = none := by
  obtain ⟨read, known⟩ := Option.isSome_iff_exists.mp known
  simp only [gather?, select, known, if_pos repeated, bind, Option.bind_none,
    Option.bind_fun_none]

/-- A member with a known name is read when it is seen for the first time. -/
theorem gather?_cons_of_new
    {read : Outline → Option α}
    (known : look name = some read)
    (new : name ∉ seen) :
    gather? look kept seen ((name, item) :: named) =
      (read item).bind fun content =>
        (gather? look kept (name :: seen) named).bind fun rest =>
          some (rest.pushKnown name content) := by
  simp only [gather?, keepOthers, select, known, Option.isSome_some, if_true, if_neg new, bind]
  cases read item with
  | none =>
      exact Option.bind_fun_none _
  | some content =>
      cases keepOthers (fun name => (look name).isSome) kept named <;>
        cases select look (name :: seen) named <;> rfl

end Gather

/-- An object is read when all of its names can be held, as its members with these names make. -/
theorem toOption_readMembers
    {look : String → Option (Outline → Option α)}
    {read : String → Option (Tree → Except Flaw α)}
    {keep : Tree → Except Flaw (Option Value)}
    {kept : Outline → Option (Option Value)}
    (reads : ∀ name (tree : Tree) o, tree.Depicts o →
      (read name).map (fun reader => (reader tree).toOption) =
        (look name).map fun reader => reader o)
    (keeps : ∀ (tree : Tree) o, tree.Depicts o → (keep tree).toOption = kept o)
    {trees : List (Name × Tree)}
    {members : List Member}
    (depicted : MembersDepict trees members)
    (seen : List String) :
    (readMembers read keep seen trees).toOption =
      (named? members).bind (gather? look kept seen) := by
  induction members generalizing seen trees with
  | nil =>
      cases depicted
      rfl
  | cons member members inductionHypothesis =>
      cases depicted with
      | @cons name tree value trees _ clean depicts depictedRest =>
          rw [readMembers, toOption_bind, toOption_mapError]
          cases name.text with
          | error fault =>
              simp [named?_cons_none]
          | ok text =>
              have readsHere := reads text tree value depicts
              have keepsHere := keeps tree value depicts
              have rest := fun seen => inductionHypothesis depictedRest seen
              simp only [toOption_ok, Option.bind_some, named?_cons_some, Option.bind_map]
              cases known : look text with
              | none =>
                  rw [known, Option.map_none, Option.map_eq_none_iff] at readsHere
                  simp only [readsHere, toOption_bind, keepsHere, rest]
                  cases named? members with
                  | none =>
                      exact Option.bind_fun_none _
                  | some named =>
                      exact (gather?_cons_of_unknown known).symm
              | some content =>
                  rw [known, Option.map_some, Option.map_eq_some_iff] at readsHere
                  obtain ⟨reader, readsText, readsTree⟩ := readsHere
                  simp only [readsText]
                  split
                  · next repeated =>
                      have known : (look text).isSome = true := Option.isSome_of_eq_some known
                      symm
                      exact Option.bind_eq_none_iff.mpr fun named _ =>
                        gather?_cons_of_seen known repeated
                  · next new =>
                      simp only [toOption_bind, readsTree, rest]
                      cases named? members with
                      | none =>
                          exact Option.bind_fun_none _
                      | some named =>
                          exact (gather?_cons_of_new known new).symm

end Notary.Json
