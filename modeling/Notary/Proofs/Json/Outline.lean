import Notary.Json.Mismatch

namespace Notary.Json

/-!
# What a text says

The outline of a value is what is left of it when places are forgotten, and why a number or
a string of the text cannot be held: such a value is still one that can be skipped. Whether a
tree is read, and as what, depends on its outline alone.
-/

/-- A JSON value; a number or a string is absent if none that can be held is meant. -/
inductive Outline where
  | null
  | bool (value : Bool)
  | number (value : Option Number)
  | string (value : Option String)
  | array (items : List Outline)
  | object (members : List (Option String × Outline))

/-- A member: its name, absent like a string, and its value. -/
abbrev Member := Option String × Outline

mutual

/-- A tree without defects that has an outline, wherever it stands in a text. -/
inductive Tree.Depicts : Tree → Outline → Prop where
  | null
      (span : Span) :
      Tree.Depicts (.null span) .null
  | bool
      (value : Bool)
      (span : Span) :
      Tree.Depicts (.bool value span) (.bool value)
  | number
      (value : Except Fault Number)
      (span : Span) :
      Tree.Depicts (.number value span) (.number value.toOption)
  | string
      (value : Except Fault String)
      (span : Span) :
      Tree.Depicts (.string value span) (.string value.toOption)
  | array
      {trees : List Tree}
      {items : List Outline}
      (span : Span) :
      ItemsDepict trees items →
      Tree.Depicts (.array trees span) (.array items)
  | object
      {trees : List (Name × Tree)}
      {members : List Member}
      (span : Span) :
      MembersDepict trees members →
      Tree.Depicts (.object trees span) (.object members)

/-- Trees that have outlines one by one. -/
inductive ItemsDepict : List Tree → List Outline → Prop where
  | nil :
      ItemsDepict [] []
  | cons
      {tree : Tree}
      {item : Outline}
      {trees : List Tree}
      {items : List Outline} :
      tree.Depicts item →
      ItemsDepict trees items →
      ItemsDepict (tree :: trees) (item :: items)

/-- Members that have names and outlines one by one. -/
inductive MembersDepict : List (Name × Tree) → List Member → Prop where
  | nil :
      MembersDepict [] []
  | cons
      {name : Name}
      {tree : Tree}
      {value : Outline}
      {trees : List (Name × Tree)}
      {members : List Member} :
      name.skipped = none →
      tree.Depicts value →
      MembersDepict trees members →
      MembersDepict ((name, tree) :: trees) ((name.text.toOption, value) :: members)

end

mutual

/-- The value of an outline, if there is one and its containers stay within `depth`. -/
def Outline.value? (depth : Nat) : Outline → Option Value
  | .null => some .null
  | .bool value => some (.bool value)
  | .number value => value.map .number
  | .string value => value.map .string
  | .array items => if depth ≤ 1 then none else (itemValues? (depth - 1) items).map .array
  | .object members =>
      if depth ≤ 1 then none else (memberValues? (depth - 1) members).map .object

/-- The values of items. -/
def itemValues? (depth : Nat) : List Outline → Option (List Value)
  | [] => some []
  | item :: rest => do
      let value ← item.value? depth
      return value :: (← itemValues? depth rest)

/-- The names and values of members. -/
def memberValues? (depth : Nat) : List Member → Option (List (String × Value))
  | [] => some []
  | (name, item) :: rest => do
      let text ← name
      let value ← item.value? depth
      return (text, value) :: (← memberValues? depth rest)

end

section Success

variable
    {ε δ α β : Type}

@[simp]
theorem toOption_ok
    (a : α) :
    (.ok a : Except ε α).toOption = some a :=
  rfl

@[simp]
theorem toOption_error
    (e : ε) :
    (.error e : Except ε α).toOption = none :=
  rfl

/-- One step after another succeeds if both do. -/
@[simp]
theorem toOption_bind
    (x : Except ε α)
    (f : α → Except ε β) :
    (x >>= f).toOption = x.toOption.bind fun a => (f a).toOption := by
  cases x <;> rfl

@[simp]
theorem toOption_map
    (f : α → β)
    (x : Except ε α) :
    (x.map f).toOption = x.toOption.map f := by
  cases x <;> rfl

/-- How a failure is put into words makes no difference to success. -/
@[simp]
theorem toOption_mapError
    (f : ε → δ)
    (x : Except ε α) :
    (x.mapError f).toOption = x.toOption := by
  cases x <;> rfl

theorem toOption_eq_some_iff
    {x : Except ε α}
    {a : α} :
    x.toOption = some a ↔ x = .ok a := by
  cases x <;> simp

end Success

mutual

/-- The value of a tree is that of its outline. -/
theorem Tree.Depicts.toOption_value
    {depth : Nat} :
    ∀ {tree : Tree} {o : Outline}, tree.Depicts o → (tree.value depth).toOption = o.value? depth
  | _, _, .null _ => rfl
  | _, _, .bool _ _ => rfl
  | _, _, .number _ _ => toOption_map _ _
  | _, _, .string _ _ => toOption_map _ _
  | _, _, .array _ depicted => by
      rw [Tree.value, Outline.value?]
      split
      · rfl
      · rw [toOption_map, depicted.toOption_valuesOf]
  | _, _, .object _ depicted => by
      rw [Tree.value, Outline.value?]
      split
      · rfl
      · rw [toOption_map, depicted.toOption_membersOf]

/-- Items have values if their outlines do. -/
theorem ItemsDepict.toOption_valuesOf
    {depth : Nat} :
    ∀ {trees : List Tree} {items : List Outline}, ItemsDepict trees items →
      (valuesOf depth trees).toOption = itemValues? depth items
  | _, _, .nil => rfl
  | _, _, .cons depicts depicted => by
      simp only [valuesOf, itemValues?, toOption_bind, depicts.toOption_value,
        depicted.toOption_valuesOf]
      rfl

/-- Members have values if their outlines do. -/
theorem MembersDepict.toOption_membersOf
    {depth : Nat} :
    ∀ {trees : List (Name × Tree)} {members : List Member}, MembersDepict trees members →
      (membersOf depth trees).toOption = memberValues? depth members
  | _, _, .nil => rfl
  | _, _, .cons _ depicts depicted => by
      simp only [membersOf, memberValues?, toOption_bind, depicts.toOption_value,
        depicted.toOption_membersOf]
      rfl

end

mutual

/-- A tree that has an outline can be skipped. -/
theorem Tree.Depicts.skip_eq_none : ∀ {tree : Tree} {o : Outline}, tree.Depicts o →
    tree.skip = none
  | _, _, .null _ | _, _, .bool _ _ | _, _, .number _ _ | _, _, .string _ _ => rfl
  | _, _, .array _ depicted => depicted.skipItems_eq_none
  | _, _, .object _ depicted => depicted.skipMembers_eq_none

/-- Nothing is in the way of skipping items that have outlines. -/
theorem ItemsDepict.skipItems_eq_none : ∀ {trees : List Tree} {items : List Outline},
    ItemsDepict trees items → skipItems trees = none
  | _, _, .nil => rfl
  | _, _, .cons depicts depicted => by
      rw [skipItems, depicts.skip_eq_none, depicted.skipItems_eq_none]
      rfl

/-- Nor of skipping members whose names are texts. -/
theorem MembersDepict.skipMembers_eq_none :
    ∀ {trees : List (Name × Tree)} {members : List Member},
      MembersDepict trees members → skipMembers trees = none
  | _, _, .nil => rfl
  | _, _, .cons clean depicts depicted => by
      rw [skipMembers, clean, depicts.skip_eq_none, depicted.skipMembers_eq_none]
      rfl

end

end Notary.Json
