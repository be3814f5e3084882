import Notary.Config.Decode
import Notary.Proofs.Json.Selection

namespace Notary.Config

/-!
# Configurations are read by name

What is read of a configuration text follows from its outline: the members of a document and
of an entry are selected by their names, and an entry is made of what is found for the names
that it knows. Own members are read at once and those of the parameters only after the whole
entry was kept, but both are selected from the same members.
-/

open Json (Flaw Mismatch Member Outline Source Tree Value lookup? select)

/-- The text of an outline. -/
def text? : Outline → Option String
  | .string value => value
  | _ => none

/-- The text of an outline that may be null. -/
def optionalText? : Outline → Option (Option String)
  | .null => some none
  | o => (text? o).map some

/-- The content of a member that is wanted, as far as it can be held inside an entry. -/
def Wanted.content? : Wanted → Outline → Option Content
  | .text, o => (text? o).map .text
  | .optionalText, o => (optionalText? o).map .ofOption
  | .packaging, o =>
      (o.value? entryDepth).bind fun value => (readPackaging value).toOption.map .packaging

/-- How a schema reads a member from an outline. -/
def Schema.look (schema : Schema) (name : String) : Option (Outline → Option Content) :=
  (lookup? name schema).map Wanted.content?

section Contents

variable
    {tree : Tree}
    {o : Outline}
    {w : Wanted}

/-- A member that must be a text is read as one, or is in the way. -/
theorem toOption_asString
    (depicts : tree.Depicts o) :
    tree.asString.toOption = text? o := by
  cases depicts with
  | string value =>
      cases value <;> rfl
  | number value =>
      cases value <;> rfl
  | _ =>
      rfl

/-- A member that may be null is read as a text, as nothing, or is in the way. -/
theorem toOption_asOptionalString
    (depicts : tree.Depicts o) :
    tree.asOptionalString.toOption = optionalText? o := by
  have text := toOption_asString depicts
  cases depicts with
  | null =>
      rfl
  | _ =>
      exact (Json.toOption_map some _).trans (congrArg (Option.map some) text)

/-- Where no packaging is wanted, a tree is read as its outline says. -/
theorem Wanted.toOption_ofTree
    (plain : w ≠ .packaging)
    (depicts : tree.Depicts o) :
    (w.ofTree tree).toOption = w.content? o := by
  cases w with
  | text =>
      change (tree.asString.map Content.text).toOption = _
      rw [Json.toOption_map, toOption_asString depicts]
      rfl
  | optionalText =>
      rw [ofTree, Json.toOption_map, toOption_asOptionalString depicts]
      rfl
  | packaging =>
      exact (plain rfl).elim

/-- What is wanted of a value is wanted of its outline. -/
theorem Wanted.bind_ofValue
    (w : Wanted)
    (o : Outline) :
    ((o.value? entryDepth).bind fun value => (w.ofValue value).toOption) = w.content? o := by
  cases w with
  | packaging =>
      simp only [content?, ofValue, Json.toOption_map]
  | text | optionalText =>
      cases o with
      | null | bool =>
          rfl
      | number value | string value =>
          cases value <;> rfl
      | array items =>
          rw [Outline.value?]
          split
          · rfl
          · cases Json.itemValues? (entryDepth - 1) items <;> rfl
      | object members =>
          rw [Outline.value?]
          split
          · rfl
          · cases Json.memberValues? (entryDepth - 1) members <;> rfl

end Contents

/-- What an entry of a collection keeps of a member that it does not read at once. -/
def Kind.kept : Kind → Outline → Option (Option Value)
  | .ca, _ => some none
  | _, o => (o.value? entryDepth).map some

/-- Whether an entry of a collection reads members of a name at once. -/
def Kind.knows (kind : Kind) (name : String) : Bool :=
  (kind.ownSchema.look name).isSome

/-- The entry of a collection that named members make. -/
def Kind.compose? (kind : Kind) (members : List (String × Outline)) : Option Entry := do
  let foreign ← Json.keepOthers kind.knows kind.kept members
  let own ← select kind.ownSchema.look [] members
  (Entry.ofMembers ⟨own, foreign⟩ kind).toOption

/-- The entry of a collection that the members of an object make. -/
def Kind.entryOf? (kind : Kind) (members : List Member) : Option Entry :=
  (Json.named? members).bind kind.compose?

/-- A certificate authority from its texts in order. -/
def authority? : List Outline → Option Authority
  | [id, certificate, crl] =>
      return ⟨← text? id, ← text? certificate, ← text? crl, none⟩
  | [id, certificate, crl, description] =>
      return ⟨← text? id, ← text? certificate, ← text? crl, ← optionalText? description⟩
  | _ => none

/-- The entry of a collection that an item makes. -/
def Kind.item? (kind : Kind) : Outline → Option Entry
  | .object members => kind.entryOf? members
  | .array items =>
      match kind with
      | .ca => (authority? items).map .ca
      | _ => none
  | _ => none

/-- The entries of a collection. -/
def Kind.entries? (kind : Kind) : Outline → Option (List Entry)
  | .array items => items.mapM kind.item?
  | _ => none

/-- How a document reads a member from an outline. -/
def lookCollection (name : String) : Option (Outline → Option (List Entry)) :=
  (Kind.all.find? (·.name = name)).map Kind.entries?

/-- The document that the members of an object make. -/
def Document.ofMembers? (members : List Member) : Option Document := do
  let named ← Json.named? members
  let known ← select lookCollection [] named
  return .ofEntries (known.flatMap (·.2))

/-- No entry has a packaging among its own members. -/
theorem Kind.plain_ownSchema
    {kind : Kind}
    {name : String}
    {w : Wanted}
    (wanted : lookup? name kind.ownSchema = some w) :
    w ≠ .packaging := by
  have plain : ∀ member ∈ kind.ownSchema, member.2 ≠ .packaging := by
    cases kind <;> decide
  exact plain _ (Json.mem_of_lookup? wanted)

section Reading

variable
    {tree : Tree}
    {o : Outline}

/-- The readers of trees for the own members of an entry look at outlines only. -/
theorem Kind.fromTree_eq_look
    (kind : Kind)
    (name : String)
    (depicts : tree.Depicts o) :
    (kind.ownSchema.fromTree name).map (fun reader => (reader tree).toOption) =
      (kind.ownSchema.look name).map fun reader => reader o := by
  rw [Schema.fromTree, Schema.look]
  cases wanted : lookup? name kind.ownSchema with
  | none =>
      rfl
  | some w =>
      exact congrArg some (Wanted.toOption_ofTree (kind.plain_ownSchema wanted) depicts)

/-- What nobody asks for is skipped, whatever it is. -/
theorem toOption_skipValue
    (depicts : tree.Depicts o) :
    (Json.skipValue tree).toOption = some none := by
  rw [Json.skipValue, Tree.pass, depicts.skip_eq_none]
  rfl

/-- What an entry keeps for its parameters depends on the outline only. -/
theorem Kind.toOption_keep
    (kind : Kind)
    (depicts : tree.Depicts o) :
    (kind.keep tree).toOption = kind.kept o := by
  cases kind with
  | ca =>
      exact toOption_skipValue depicts
  | _ =>
      change (Json.keepValue entryDepth tree).toOption = (o.value? entryDepth).map some
      rw [Json.keepValue, Json.toOption_mapError, Json.toOption_map, depicts.toOption_value]

/-- An authority in an array is read by the order of its items. -/
theorem toOption_readAuthorityItems
    (source : Source)
    (stop : Nat)
    {trees : List Tree}
    {items : List Outline}
    (depicted : Json.ItemsDepict trees items) :
    (readAuthorityItems source stop trees).toOption = authority? items := by
  rcases depicted with _ | ⟨first, _ | ⟨second, _ | ⟨third, _ | ⟨fourth, _ | ⟨fifth, others⟩⟩⟩⟩⟩
  · rfl
  · simp [readAuthorityItems, authority?]
  · simp [readAuthorityItems, authority?]
  · simp only [readAuthorityItems, Json.toOption_bind, toOption_asString first,
      toOption_asString second, toOption_asString third]
    rfl
  · simp only [readAuthorityItems, Json.toOption_bind, toOption_asString first,
      toOption_asString second, toOption_asString third, toOption_asOptionalString fourth]
    rfl
  · simp [readAuthorityItems, authority?]

/-- An item is read as its outline says. -/
theorem toOption_readEntry
    (source : Source)
    (kind : Kind)
    (depicts : tree.Depicts o) :
    (readEntry source kind tree).toOption = kind.item? o := by
  cases depicts with
  | object span depicted =>
      rw [readEntry, Kind.item?, Kind.entryOf?]
      simp only [Json.toOption_bind, Json.toOption_mapError,
        Json.toOption_readMembers (fun name _ _ => kind.fromTree_eq_look name)
          (fun _ _ => kind.toOption_keep) depicted]
      simp only [Json.gather?, bind, Option.bind_assoc, pure, Option.bind_some]
      rfl
  | array span depicted =>
      cases kind with
      | ca =>
          exact (Json.toOption_map _ _).trans
            (congrArg _ (toOption_readAuthorityItems source span.stop depicted))
      | _ =>
          rfl
  | number value =>
      cases value <;> rfl
  | string value =>
      cases value <;> rfl
  | _ =>
      rfl

/-- A collection is read as its outline says. -/
theorem toOption_readCollection
    (source : Source)
    (kind : Kind)
    (depicts : tree.Depicts o) :
    (readCollection source kind tree).toOption = kind.entries? o := by
  cases depicts with
  | @array trees items span depicted =>
      change (readEntries source kind trees).toOption = items.mapM kind.item?
      induction items generalizing trees with
      | nil =>
          cases depicted
          rfl
      | cons item items inductionHypothesis =>
          obtain _ | ⟨depicts, depictedRest⟩ := depicted
          simp only [readEntries, Json.toOption_bind, toOption_readEntry source kind depicts,
            inductionHypothesis depictedRest, List.mapM_cons]
          rfl
  | number value =>
      cases value <;> rfl
  | string value =>
      cases value <;> rfl
  | _ =>
      rfl

/-- An object is read as a document as its members say. -/
theorem toOption_readDocument
    (source : Source)
    {members : List Member}
    (depicts : tree.Depicts (.object members)) :
    (readDocument source tree).toOption = Document.ofMembers? members := by
  cases depicts with
  | object span depicted =>
      have reads (name : String) (tree : Tree) (o : Outline) (depicts : tree.Depicts o) :
          (collectionReader source name).map (fun reader => (reader tree).toOption) =
            (lookCollection name).map fun reader => reader o := by
        rw [collectionReader, lookCollection]
        cases Kind.all.find? (·.name = name) with
        | none =>
            rfl
        | some kind =>
            exact congrArg some (toOption_readCollection source kind depicts)
      rw [readDocument, Json.toOption_bind,
        Json.toOption_readMembers reads (fun _ _ => toOption_skipValue) depicted,
        Document.ofMembers?]
      simp only [Json.gather?, Json.keepOthers_passing, bind, Option.bind_assoc, pure,
        Option.bind_some]
      rfl

end Reading

end Notary.Config
