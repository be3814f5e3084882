import Notary.Proofs.Json.Grammar

namespace Notary.Json

/-!
# Values are read as they were written

What is written of a value without numbers is a text of the grammar, and says the value's
outline. So it is read as a tree of that outline, which shows the value.
-/

mutual

/-- A value without numbers whose containers stay within `depth`. -/
def Value.Plain (depth : Nat) : Value → Prop
  | .null | .bool _ | .string _ => True
  | .number _ => False
  | .array items => 1 < depth ∧ PlainItems (depth - 1) items
  | .object members => 1 < depth ∧ PlainMembers (depth - 1) members

/-- Items that are plain one by one. -/
def PlainItems (depth : Nat) : List Value → Prop
  | [] => True
  | item :: rest => item.Plain depth ∧ PlainItems depth rest

/-- Members whose values are plain one by one. -/
def PlainMembers (depth : Nat) : List (String × Value) → Prop
  | [] => True
  | member :: rest => member.2.Plain depth ∧ PlainMembers depth rest

end

theorem plainItems_iff
    {depth : Nat}
    {items : List Value} :
    PlainItems depth items ↔ ∀ item ∈ items, item.Plain depth := by
  induction items with
  | nil =>
      simp [PlainItems]
  | cons item items inductionHypothesis =>
      rw [PlainItems, inductionHypothesis, List.forall_mem_cons]

theorem plainMembers_iff
    {depth : Nat}
    {members : List (String × Value)} :
    PlainMembers depth members ↔ ∀ member ∈ members, member.2.Plain depth := by
  induction members with
  | nil =>
      simp [PlainMembers]
  | cons member members inductionHypothesis =>
      rw [PlainMembers, inductionHypothesis, List.forall_mem_cons]

/-- Values that are plain one by one make a plain array. -/
theorem plain_array_map
    {α : Type}
    {depth : Nat}
    {encode : α → Value}
    (deep : 1 < depth)
    (plain : ∀ item, (encode item).Plain (depth - 1))
    (items : List α) :
    (Value.array (items.map encode)).Plain depth := by
  refine ⟨deep, plainItems_iff.mpr ?_⟩
  intro value listed
  obtain ⟨item, -, rfl⟩ := List.mem_map.mp listed
  exact plain item

mutual

/-- What a text of a value says. -/
def Value.outline : Value → Outline
  | .null => .null
  | .bool value => .bool value
  | .number value => .number (some value)
  | .string value => .string (some value)
  | .array items => .array (itemOutlines items)
  | .object members => .object (memberOutlines members)

/-- What texts of items say. -/
def itemOutlines : List Value → List Outline
  | [] => []
  | item :: rest => item.outline :: itemOutlines rest

/-- What texts of members say. -/
def memberOutlines : List (String × Value) → List Member
  | [] => []
  | (name, value) :: rest => (some name, value.outline) :: memberOutlines rest

end

/-- Written items are items in brackets. -/
theorem exists_itemsWritten
    {item : Value}
    {items : List Value}
    (written : ∀ value ∈ item :: items, Written value.outline (write value)) :
    ∃ text, ItemsWritten (itemOutlines (item :: items)) text ∧
      write item ++ writeItems items = text ++ [']'] := by
  induction items generalizing item with
  | nil =>
      have only := written item List.mem_cons_self
      exact ⟨write item, .one only.padded, rfl⟩
  | cons next items inductionHypothesis =>
      obtain ⟨first, others⟩ := List.forall_mem_cons.mp written
      obtain ⟨text, writtenOthers, spelled⟩ := inductionHypothesis others
      refine ⟨write item ++ ',' :: text, .more first.padded writtenOthers, ?_⟩
      rw [writeItems, spelled, List.append_assoc]
      rfl

/-- Written members are members in braces. -/
theorem exists_membersWritten
    {name : String}
    {value : Value}
    {members : List (String × Value)}
    (written : ∀ member ∈ (name, value) :: members, Written member.2.outline (write member.2)) :
    ∃ text, MembersWritten (memberOutlines ((name, value) :: members)) text ∧
      writeString name ++ ':' :: (write value ++ writeMembers members) = text ++ ['}'] := by
  induction members generalizing name value with
  | nil =>
      have only := written _ List.mem_cons_self
      refine ⟨_, .one (memberWritten_writeString Blank.nil name Blank.nil only.padded), ?_⟩
      simp [writeMembers]
  | cons next members inductionHypothesis =>
      obtain ⟨first, others⟩ := List.forall_mem_cons.mp written
      obtain ⟨text, writtenOthers, spelled⟩ := inductionHypothesis others
      have here := memberWritten_writeString Blank.nil name Blank.nil first.padded
      refine ⟨_, .more here writtenOthers, ?_⟩
      rw [writeMembers, spelled]
      simp

mutual

/-- What is written of a plain value says the value. -/
theorem Value.Plain.written : ∀ {v : Value} {depth : Nat}, v.Plain depth →
    Written v.outline (write v)
  | .null, _, _ => .null
  | .bool value, _, _ => .bool value
  | .string value, _, _ => written_writeString value
  | .array [], _, _ => .emptyArray Blank.nil
  | .object [], _, _ => .emptyObject Blank.nil
  | .array (_ :: _), _, plain => by
      obtain ⟨text, written, spelled⟩ := exists_itemsWritten plain.2.written
      rw [write, spelled]
      exact .array written
  | .object ((_, _) :: _), _, plain => by
      obtain ⟨text, written, spelled⟩ := exists_membersWritten plain.2.written
      rw [write, spelled]
      exact .object written

/-- The items of a plain list are written as their outlines. -/
theorem PlainItems.written :
    ∀ {items : List Value} {depth : Nat}, PlainItems depth items →
      ∀ item ∈ items, Written item.outline (write item)
  | [], _, _ => fun _ member => nomatch member
  | _ :: _, _, plain => List.forall_mem_cons.mpr ⟨plain.1.written, plain.2.written⟩

theorem PlainMembers.written :
    ∀ {members : List (String × Value)} {depth : Nat}, PlainMembers depth members →
      ∀ member ∈ members, Written member.2.outline (write member.2)
  | [], _, _ => fun _ member => nomatch member
  | _ :: _, _, plain => List.forall_mem_cons.mpr ⟨plain.1.written, plain.2.written⟩

end

mutual

/-- A tree without defects that shows a value, wherever it stands in a text. -/
inductive Tree.Shows : Tree → Value → Prop where
  | null
      (span : Span) :
      Tree.Shows (.null span) .null
  | bool
      (value : Bool)
      (span : Span) :
      Tree.Shows (.bool value span) (.bool value)
  | string
      (value : String)
      (span : Span) :
      Tree.Shows (.string (.ok value) span) (.string value)
  | array
      {trees : List Tree}
      {values : List Value}
      (span : Span) :
      ItemsShow trees values →
      Tree.Shows (.array trees span) (.array values)
  | object
      {members : List (Name × Tree)}
      {values : List (String × Value)}
      (span : Span) :
      MembersShow members values →
      Tree.Shows (.object members span) (.object values)

/-- Trees that show values one by one. -/
inductive ItemsShow : List Tree → List Value → Prop where
  | nil :
      ItemsShow [] []
  | cons
      {tree : Tree}
      {value : Value}
      {trees : List Tree}
      {values : List Value} :
      tree.Shows value →
      ItemsShow trees values →
      ItemsShow (tree :: trees) (value :: values)

/-- Members that show names and values one by one. -/
inductive MembersShow : List (Name × Tree) → List (String × Value) → Prop where
  | nil :
      MembersShow [] []
  | cons
      {name : Name}
      {tree : Tree}
      {text : String}
      {value : Value}
      {members : List (Name × Tree)}
      {values : List (String × Value)} :
      name.text = .ok text →
      tree.Shows value →
      MembersShow members values →
      MembersShow ((name, tree) :: members) ((text, value) :: values)

end

theorem Tree.Depicts.shows_string
    {tree : Tree}
    {s : String}
    (depicts : tree.Depicts (.string (some s))) :
    tree.Shows (.string s) := by
  generalize said : some s = text at depicts
  cases depicts with
  | string value span =>
      obtain rfl := toOption_eq_some_iff.mp said.symm
      exact .string s span

/-- Trees that depict a member with a name start with a tree under that name. -/
theorem MembersDepict.exists_of_named
    {trees : List (Name × Tree)}
    {name : String}
    {value : Outline}
    {members : List Member}
    (depicted : MembersDepict trees ((some name, value) :: members)) :
    ∃ named tree others, trees = (named, tree) :: others ∧ named.text = .ok name ∧
      tree.Depicts value ∧ MembersDepict others members := by
  generalize said : some name = text at depicted
  cases depicted with
  | cons clean depicts depicted =>
      exact ⟨_, _, _, rfl, toOption_eq_some_iff.mp said.symm, depicts, depicted⟩

mutual

/-- A tree that has the outline of a plain value shows the value. -/
theorem Value.Plain.shows : ∀ {v : Value} {depth : Nat} {tree : Tree}, v.Plain depth →
    tree.Depicts v.outline → tree.Shows v
  | .null, _, _, _, .null span => .null span
  | .bool _, _, _, _, .bool value span => .bool value span
  | .string _, _, _, _, depicts => depicts.shows_string
  | .array _, _, _, plain, .array span depicted => .array span (plain.2.show depicted)
  | .object _, _, _, plain, .object span depicted => .object span (plain.2.show depicted)

/-- Trees that depict the outlines of plain items show the items. -/
theorem PlainItems.show : ∀ {items : List Value} {depth : Nat} {trees : List Tree},
    PlainItems depth items → ItemsDepict trees (itemOutlines items) → ItemsShow trees items
  | [], _, _, _, .nil => .nil
  | _ :: _, _, _, plain, .cons depicts depicted =>
      .cons (plain.1.shows depicts) (plain.2.show depicted)

theorem PlainMembers.show :
    ∀ {members : List (String × Value)} {depth : Nat} {trees : List (Name × Tree)},
      PlainMembers depth members → MembersDepict trees (memberOutlines members) →
        MembersShow trees members
  | [], _, _, _, .nil => .nil
  | (_, _) :: _, _, _, plain, depicted => by
      obtain ⟨named, tree, others, rfl, sameName, depicts, depicted⟩ := depicted.exists_of_named
      exact .cons sameName (plain.1.shows depicts) (plain.2.show depicted)

end

mutual

/-- A tree that shows a plain value has that value. -/
theorem Tree.Shows.value_eq :
    ∀ {v : Value} {depth : Nat} {tree : Tree}, tree.Shows v → v.Plain depth →
      tree.value depth = .ok v
  | .null, _, _, .null _, _ => rfl
  | .bool _, _, _, .bool _ _, _ => rfl
  | .string _, _, _, .string _ _, _ => rfl
  | .array _, _, _, .array _ shown, plain => by
      rw [Tree.value, if_neg (Nat.not_le.mpr plain.1), shown.valuesOf_eq plain.2]
      rfl
  | .object _, _, _, .object _ shown, plain => by
      rw [Tree.value, if_neg (Nat.not_le.mpr plain.1), shown.membersOf_eq plain.2]
      rfl

/-- Trees that show plain items are evaluated to them. -/
theorem ItemsShow.valuesOf_eq :
    ∀ {values : List Value} {depth : Nat} {trees : List Tree}, ItemsShow trees values →
      PlainItems depth values → valuesOf depth trees = .ok values
  | [], _, _, .nil, _ => rfl
  | _ :: _, _, _, .cons shows shown, plain => by
      rw [valuesOf, shows.value_eq plain.1, shown.valuesOf_eq plain.2]
      rfl

theorem MembersShow.membersOf_eq :
    ∀ {values : List (String × Value)} {depth : Nat} {members : List (Name × Tree)},
      MembersShow members values → PlainMembers depth values →
        membersOf depth members = .ok values
  | [], _, _, .nil, _ => rfl
  | _ :: _, _, _, .cons sameName shows shown, plain => by
      rw [membersOf, sameName, shows.value_eq plain.1, shown.membersOf_eq plain.2]
      rfl

end

/-- A written value is read as a tree that shows it, with nothing behind it. -/
theorem exists_readTree_write
    {v : Value}
    {depth : Nat}
    (plain : v.Plain depth) :
    ∃ tree, tree.Shows v ∧ readTree ((write v).map .char) = ⟨tree, none⟩ := by
  obtain ⟨tree, depicts, reads⟩ := plain.written.padded.exists_readTree
  exact ⟨tree, plain.shows depicts, reads⟩

/-- A plain value that is not too deep is read as it was written. -/
theorem readValue_write
    {v : Value}
    (plain : v.Plain depthLimit) :
    readValue ((write v).map .char) = .ok v := by
  obtain ⟨tree, shows, reads⟩ := exists_readTree_write plain
  rw [readValue, reads, shows.value_eq plain]
  rfl

end Notary.Json
