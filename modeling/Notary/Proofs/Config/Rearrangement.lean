import Mathlib.Data.Option.Basic
import Mathlib.Logic.Relation
import Notary.Proofs.Config.ByName
import Notary.Proofs.Config.RoundTrip

namespace Notary.Config

/-!
# Order and foreign members do not matter

What an entry or a document is made of is found by name. So its members may stand in any order
and among members with other names, an optional member may be null instead of absent, and the
metadata of a validation may be empty instead of absent.
-/

open Json (Member Outline Value lookup? select)

namespace Contents

/--
Contents that make the same entry: under every name they hold the same, or one holds nothing
where the other says that there is nothing, or has empty metadata.
-/
def Alike (c d : Contents) : Prop :=
  ∀ name,
    lookup? name c = lookup? name d ∨
      lookup? name c = none ∧
        (lookup? name d = some .absent ∨ name = "metadata" ∧ lookup? name d = some (.text ""))

variable
    {c d : Contents}
    {name : String}

/-- A new member makes no difference if it holds nothing, or is empty metadata. -/
theorem alike_cons
    {content : Content}
    (new : lookup? name c = none)
    (void : content = .absent ∨ name = "metadata" ∧ content = .text "") :
    c.Alike ((name, content) :: c) := by
  intro other
  rw [Json.lookup?_cons]
  split
  · next same =>
      obtain rfl := same
      rcases void with rfl | ⟨named, rfl⟩
      · exact .inr ⟨new, .inl rfl⟩
      · exact .inr ⟨new, .inr ⟨named, rfl⟩⟩
  · exact .inl rfl

/-- Contents that are alike have the same required members. -/
theorem Alike.required
    (alike : c.Alike d)
    (other : name ≠ "metadata") :
    c.required name = d.required name := by
  rw [Contents.required, Contents.required]
  rcases alike name with same | ⟨missing, absent | ⟨named, -⟩⟩
  · rw [same]
  · rw [missing, absent]
  · exact (other named).elim

/-- Contents that are alike have the same optional members. -/
theorem Alike.optional
    (alike : c.Alike d)
    (other : name ≠ "metadata") :
    c.optional name = d.optional name := by
  rw [Contents.optional, Contents.optional]
  rcases alike name with same | ⟨missing, absent | ⟨named, -⟩⟩
  · rw [same]
  · rw [missing, absent]
  · exact (other named).elim

/-- To have no metadata is to have empty metadata. -/
theorem Alike.metadata
    (alike : c.Alike d) :
    (c.optional "metadata").getD "" = (d.optional "metadata").getD "" := by
  rw [Contents.optional, Contents.optional]
  rcases alike "metadata" with same | ⟨missing, absent | ⟨-, empty⟩⟩
  · rw [same]
  · rw [missing, absent]
  · rw [missing, empty]
    rfl

/-- Contents that are alike have the same packaging. -/
theorem Alike.packaging
    (alike : c.Alike d) :
    c.packaging name = d.packaging name := by
  rw [Contents.packaging, Contents.packaging]
  rcases alike name with same | ⟨missing, absent | ⟨-, empty⟩⟩
  · rw [same]
  · rw [missing, absent]
  · rw [missing, empty]

end Contents

section OfContents

variable
    {c d : Contents}
    (alike : c.Alike d)
include alike

/-- Contents that are alike make the same signing parameters. -/
theorem SigningParameters.ofContents_congr :
    ofContents c = ofContents d := by
  simp only [ofContents, alike.packaging,
    alike.required (by decide : "certificate" ≠ "metadata"),
    alike.required (by decide : "password" ≠ "metadata"),
    alike.required (by decide : "digestAlgorithm" ≠ "metadata"),
    alike.required (by decide : "canonicalisationAlgorithm" ≠ "metadata"),
    alike.optional (by decide : "signId" ≠ "metadata"),
    alike.optional (by decide : "signValueId" ≠ "metadata"),
    alike.optional (by decide : "objectId" ≠ "metadata"),
    alike.optional (by decide : "signaturePlacementPattern" ≠ "metadata")]

/-- Contents that are alike make the same validation parameters. -/
theorem ValidationParameters.ofContents_congr :
    ofContents c = ofContents d := by
  simp only [ofContents, alike.required (by decide : "rules" ≠ "metadata"), alike.metadata]

end OfContents

section Rel

variable
    {α β : Type}
    {R S : α → α → Prop}
    {x y : Option α}

/-- What is made of related values alike is the same, if there are any. -/
theorem bind_eq_of_rel
    {f g : α → Option β}
    (related : Option.Rel R x y)
    (same : ∀ a b, x = some a → R a b → f a = g b) :
    x.bind f = y.bind g := by
  cases related with
  | none =>
      rfl
  | some related =>
      exact same _ _ rfl related

/-- Related values are related in any way that follows. -/
theorem rel_mono
    (related : Option.Rel R x y)
    (implies : ∀ a b, x = some a → R a b → S a b) :
    Option.Rel S x y := by
  cases related with
  | none =>
      exact .none
  | some related =>
      exact .some (implies _ _ rfl related)

end Rel

/-- Alike contents make the same entry, whether that works out or not. -/
theorem Entry.toOption_ofMembers_congr
    (kind : Kind)
    {own own' : Contents}
    {foreign foreign' : List (String × Value)}
    (alike : own.Alike own')
    (picks :
      Option.Rel Contents.Alike
        (Json.pickMembers kind.flattenedSchema.fromValue [] foreign).toOption
        (Json.pickMembers kind.flattenedSchema.fromValue [] foreign').toOption) :
    (Entry.ofMembers ⟨own, foreign⟩ kind).toOption =
      (Entry.ofMembers ⟨own', foreign'⟩ kind).toOption := by
  have id : own.required "id" = own'.required "id" := alike.required (by decide)
  have description : own.optional "description" = own'.optional "description" :=
    alike.optional (by decide)
  cases kind with
  | signature =>
      have proofId : own.required "proofConfId" = own'.required "proofConfId" :=
        alike.required (by decide)
      have secret : own.optional "secret" = own'.optional "secret" := alike.optional (by decide)
      simp only [Entry.ofMembers, SigningEntry.ofMembers, Json.toOption_map, Json.toOption_bind,
        id, description, proofId, secret]
      refine congrArg _ (Option.bind_congr fun _ _ => Option.bind_congr fun _ _ =>
        bind_eq_of_rel picks fun _ _ _ parametersAlike => ?_)
      rw [SigningParameters.ofContents_congr parametersAlike]
  | proof =>
      simp only [Entry.ofMembers, ProofEntry.ofMembers, Json.toOption_map, Json.toOption_bind,
        id, description]
      refine congrArg _ (Option.bind_congr fun _ _ =>
        bind_eq_of_rel picks fun _ _ _ parametersAlike => ?_)
      rw [SigningParameters.ofContents_congr parametersAlike]
  | signatureVerification | certificateVerification =>
      simp only [Entry.ofMembers, VerificationEntry.ofMembers, Json.toOption_map,
        Json.toOption_bind, id, description]
      refine congrArg _ (Option.bind_congr fun _ _ =>
        bind_eq_of_rel picks fun _ _ _ parametersAlike => ?_)
      rw [ValidationParameters.ofContents_congr parametersAlike]
  | ca =>
      have certificate : own.required "certificate" = own'.required "certificate" :=
        alike.required (by decide)
      have crl : own.required "crl" = own'.required "crl" := alike.required (by decide)
      simp only [Entry.ofMembers, Authority.ofMembers, id, description, certificate, crl]

/-- A schema looks at exactly the members that it names. -/
theorem Schema.isSome_look_iff
    {schema : Schema}
    {name : String} :
    (schema.look name).isSome = true ↔ name ∈ schema.map (·.1) := by
  simp [look, lookup?]

/-- The schema of the parameters reads values as it reads the outlines they are taken from. -/
theorem Schema.look_eq_fromValue
    (schema : Schema) :
    (fun name =>
        ((schema.fromValue name).map fun reader value => (reader value).toOption).map
          fun reader (o : Outline) => (o.value? entryDepth).bind reader) =
      schema.look := by
  funext name
  rw [fromValue, look]
  cases lookup? name schema with
  | none =>
      rfl
  | some w =>
      exact congrArg some (funext w.bind_ofValue)

/-- What an entry knows itself is no member of its parameters. -/
theorem Kind.lookup?_flattenedSchema_of_knows
    (kind : Kind)
    {name : String}
    (known : kind.knows name = true) :
    lookup? name kind.flattenedSchema = none := by
  have apart : name ∉ kind.flattenedSchema.map (·.1) := by
    obtain ⟨-, -, differ⟩ := List.nodup_append.mp kind.nodup_names
    exact fun inside => differ name (Schema.isSome_look_iff.mp known) name inside rfl
  exact Json.lookup?_eq_none_iff.mpr apart

/-- The members of the parameters are selected like those that are read at once. -/
theorem Kind.toOption_pickMembers
    (kind : Kind)
    {members : List (String × Outline)}
    {foreign : List (String × Value)}
    (kept : Json.keepOthers kind.knows kind.kept members = some foreign) :
    (Json.pickMembers kind.flattenedSchema.fromValue [] foreign).toOption =
      select kind.flattenedSchema.look [] members := by
  rw [Json.toOption_pickMembers]
  -- An authority keeps nothing, but it has no parameters that would have to be found again.
  by_cases authority : kind = .ca
  · subst authority
    have nothing : foreign = [] := by
      have passed := Json.keepOthers_passing (Kind.knows .ca) members
      exact (Option.some.inj (passed.symm.trans kept)).symm
    rw [nothing]
    exact (Json.select_of_all_unknown fun _ _ => rfl).symm
  · have keeps : kind.kept = fun o => (o.value? entryDepth).map some := by
      cases kind <;> first | rfl | exact (authority rfl).elim
    have apart (name : String) (known : kind.knows name = true) :
        (kind.flattenedSchema.fromValue name).map
          (fun reader value => (reader value).toOption) = none := by
      rw [Schema.fromValue, kind.lookup?_flattenedSchema_of_knows known]
      rfl
    rw [keeps] at kept
    rw [Json.select_keepOthers apart kept, Schema.look_eq_fromValue]

/-- Members from which alike contents are selected make the same entry. -/
theorem Kind.compose?_congr
    (kind : Kind)
    {members others : List (String × Outline)}
    (kept :
      (Json.keepOthers kind.knows kind.kept members).isSome =
        (Json.keepOthers kind.knows kind.kept others).isSome)
    (alike : ∀ schema ∈ [kind.ownSchema, kind.flattenedSchema],
      Option.Rel Contents.Alike (select schema.look [] members) (select schema.look [] others)) :
    kind.compose? members = kind.compose? others := by
  have ownAlike := alike kind.ownSchema (by simp)
  have parametersAlike := alike kind.flattenedSchema (by simp)
  rw [compose?, compose?]
  cases keptHere : Json.keepOthers kind.knows kind.kept members with
  | none =>
      rw [keptHere] at kept
      rw [Option.isSome_eq_false_iff.mp kept.symm |> Option.isNone_iff_eq_none.mp]
      rfl
  | some foreign =>
      rw [keptHere] at kept
      obtain ⟨foreign', keptThere⟩ := Option.isSome_iff_exists.mp kept.symm
      simp only [keptThere, bind, Option.bind_some]
      refine bind_eq_of_rel ownAlike fun own own' _ alike => ?_
      rw [← kind.toOption_pickMembers keptHere, ← kind.toOption_pickMembers keptThere]
        at parametersAlike
      exact Entry.toOption_ofMembers_congr kind alike parametersAlike

/-! ## Changes of an entry -/

/-- What an entry of a collection wants of a member, if it knows the name. -/
def Kind.wants (kind : Kind) (name : String) : Option Wanted :=
  (lookup? name kind.ownSchema).or (lookup? name kind.flattenedSchema)

/-- Changes of the members of an entry that make no difference. -/
inductive Kind.Alters (kind : Kind) : List Member → List Member → Prop where
  /-- The members stand in another order. -/
  | reorder
      {members others : List Member} :
      members.Perm others →
      Kind.Alters kind members others
  /-- There is one more member, whose name the entry does not know; its value can be held. -/
  | foreign
      {name : String}
      {value : Outline}
      {members : List Member} :
      kind.wants name = none →
      (kind.kept value).isSome = true →
      Kind.Alters kind members ((some name, value) :: members)
  /-- An optional member that was left out is null. -/
  | optional
      {name : String}
      {members : List Member} :
      kind.wants name = some .optionalText →
      some name ∉ members.map (·.1) →
      Kind.Alters kind members ((some name, .null) :: members)
  /-- Metadata that was left out is empty. -/
  | metadata
      {members : List Member} :
      kind.wants "metadata" = some .text →
      some "metadata" ∉ members.map (·.1) →
      Kind.Alters kind members ((some "metadata", .string (some "")) :: members)

/-- What a schema selects of members in another order makes the same entry. -/
theorem Schema.rel_select_of_perm
    (schema : Schema)
    {members others : List (String × Outline)}
    (same : members.Perm others) :
    Option.Rel Contents.Alike (select schema.look [] members) (select schema.look [] others) := by
  refine rel_mono (Json.select_perm same) fun found found' selected samePerm name => ?_
  exact .inl (Json.lookup?_perm samePerm (Json.nodup_of_select selected) name)

theorem Contents.Alike.refl
    (c : Contents) :
    c.Alike c :=
  fun _ => .inl rfl

theorem rel_refl
    (c : Option Contents) :
    Option.Rel Contents.Alike c c := by
  cases c with
  | none =>
      exact .none
  | some c =>
      exact .some (.refl c)

/-- A new member that says nothing makes no difference to what a schema selects. -/
theorem Schema.rel_select_cons
    (schema : Schema)
    {name : String}
    {value : Outline}
    {content : Content}
    {members : List (String × Outline)}
    (new : name ∉ members.map (·.1))
    (void : content = .absent ∨ name = "metadata" ∧ content = .text "")
    (reads : ∀ read, schema.look name = some read → read value = some content) :
    Option.Rel Contents.Alike (select schema.look [] members)
      (select schema.look [] ((name, value) :: members)) := by
  cases known : schema.look name with
  | none =>
      rw [Json.select_cons_of_unknown known]
      exact rel_refl _
  | some read =>
      rw [Json.select_cons_of_new known (reads read known) new]
      cases selected : select schema.look [] members with
      | none =>
          exact .none
      | some found =>
          have absent : lookup? name found = none :=
            Json.lookup?_eq_none_iff.mpr fun inside => new (Json.mem_of_mem_select selected inside)
          exact .some (Contents.alike_cons absent void)

/-- One more member makes no difference where it can be kept and what is selected is alike. -/
theorem Kind.entryOf?_cons
    (kind : Kind)
    {name : String}
    {value : Outline}
    {members : List Member}
    (kept : (kind.kept value).isSome = true)
    (alike : ∀ named, Json.named? members = some named →
      ∀ schema ∈ [kind.ownSchema, kind.flattenedSchema],
        Option.Rel Contents.Alike (select schema.look [] named)
          (select schema.look [] ((name, value) :: named))) :
    kind.entryOf? members = kind.entryOf? ((some name, value) :: members) := by
  rw [entryOf?, entryOf?, Json.named?_cons_some, Option.bind_map]
  refine Option.bind_congr fun named names => kind.compose?_congr ?_ (alike named names)
  rw [Bool.eq_iff_iff, Json.isSome_keepOthers_iff, Json.isSome_keepOthers_iff,
    List.forall_mem_cons, and_iff_right fun _ => kept]

/-- When all members have names, these are their names. -/
theorem map_fst_of_named?
    {members : List Member}
    {named : List (String × Outline)}
    (names : Json.named? members = some named) :
    members.map (·.1) = named.map fun member => some member.1 := by
  induction members generalizing named with
  | nil =>
      cases names
      rfl
  | cons member members inductionHypothesis =>
      obtain ⟨_ | name, value⟩ := member
      · rw [Json.named?_cons_none] at names
        cases names
      · rw [Json.named?_cons_some, Option.map_eq_some_iff] at names
        obtain ⟨rest, namesRest, rfl⟩ := names
        rw [List.map_cons, List.map_cons, inductionHypothesis namesRest]

/-- A name that is new among members is new among their names. -/
theorem not_mem_of_named?
    {members : List Member}
    {named : List (String × Outline)}
    {name : String}
    (names : Json.named? members = some named)
    (new : some name ∉ members.map (·.1)) :
    name ∉ named.map (·.1) := by
  intro inside
  obtain ⟨member, listed, rfl⟩ := List.mem_map.mp inside
  rw [map_fst_of_named? names] at new
  exact new (List.mem_map.mpr ⟨member, listed, rfl⟩)

/-- Wherever an entry asks for a name, it asks for the same. -/
theorem Kind.eq_of_wants
    {kind : Kind}
    {name : String}
    {w w' : Wanted}
    (wanted : kind.wants name = some w)
    {schema : Schema}
    (among : schema ∈ [kind.ownSchema, kind.flattenedSchema])
    (found : lookup? name schema = some w') :
    w' = w := by
  simp only [List.mem_cons, List.not_mem_nil, or_false] at among
  rcases among with rfl | rfl
  · rw [wants, found, Option.some_or] at wanted
    exact Option.some.inj wanted
  · have unknown : lookup? name kind.ownSchema = none := by
      by_contra known
      have knows : kind.knows name = true := by
        rw [knows, Schema.look, Option.isSome_map, Option.isSome_iff_ne_none]
        exact known
      rw [kind.lookup?_flattenedSchema_of_knows knows] at found
      cases found
    rw [wants, unknown, Option.none_or, found] at wanted
    exact Option.some.inj wanted

/-- A new member that says nothing makes no difference to an entry that wants it. -/
theorem Kind.entryOf?_cons_void
    (kind : Kind)
    {name : String}
    {w : Wanted}
    {value : Outline}
    {content : Content}
    {members : List Member}
    (wanted : kind.wants name = some w)
    (new : some name ∉ members.map (·.1))
    (void : content = .absent ∨ name = "metadata" ∧ content = .text "")
    (reads : w.content? value = some content)
    (kept : (kind.kept value).isSome = true) :
    kind.entryOf? members = kind.entryOf? ((some name, value) :: members) := by
  refine kind.entryOf?_cons kept fun named names schema among => ?_
  refine schema.rel_select_cons (not_mem_of_named? names new) void fun read known => ?_
  obtain ⟨w', found, rfl⟩ := Option.map_eq_some_iff.mp known
  rw [Kind.eq_of_wants wanted among found]
  exact reads

/-- A change that makes no difference leaves the entry the same, or leaves none to be made. -/
theorem Kind.entryOf?_of_alters
    {kind : Kind}
    {members others : List Member}
    (altered : kind.Alters members others) :
    kind.entryOf? members = kind.entryOf? others := by
  cases altered with
  | reorder same =>
      refine bind_eq_of_rel (Json.named?_perm same) fun named named' _ sameNamed => ?_
      refine kind.compose?_congr ?_ fun schema _ => schema.rel_select_of_perm sameNamed
      rw [Bool.eq_iff_iff, Json.isSome_keepOthers_iff, Json.isSome_keepOthers_iff]
      exact forall_congr' fun member => imp_congr_left sameNamed.mem_iff
  | @foreign name value _ unknown kept =>
      obtain ⟨own, parameters⟩ := Option.or_eq_none_iff.mp unknown
      refine kind.entryOf?_cons kept fun named _ schema among => ?_
      have missing : schema.look name = none := by
        rw [Schema.look, Option.map_eq_none_iff]
        simp only [List.mem_cons, List.not_mem_nil, or_false] at among
        rcases among with rfl | rfl
        · exact own
        · exact parameters
      rw [Json.select_cons_of_unknown missing]
      exact rel_refl _
  | optional wanted new =>
      exact kind.entryOf?_cons_void wanted new (.inl rfl) rfl (by cases kind <;> rfl)
  | metadata wanted new =>
      exact kind.entryOf?_cons_void wanted new (.inr ⟨rfl, rfl⟩) rfl (by cases kind <;> rfl)

/-! ## Documents -/

theorem Kind.name_injective :
    Function.Injective Kind.name := by
  intro first second same
  have found := first.find?_name
  rw [same, second.find?_name] at found
  exact (Option.some.inj found).symm

/-- What was made of a success was made of something. -/
theorem exists_of_map_eq_ok
    {ε α β : Type}
    {f : α → β}
    {x : Except ε α}
    {b : β}
    (made : x.map f = .ok b) :
    ∃ a, f a = b := by
  cases x with
  | error e =>
      cases made
  | ok a =>
      exact ⟨a, Except.ok.inj made⟩

/-- Members are made into an entry of the kind that was asked for. -/
theorem Entry.kind_of_ofMembers
    {m : Json.Members Content}
    {kind : Kind}
    {e : Entry}
    (made : Entry.ofMembers m kind = .ok e) :
    e.kind = kind := by
  cases kind <;> obtain ⟨entry, rfl⟩ := exists_of_map_eq_ok made <;> rfl

/-- An item of a collection is an entry of its kind. -/
theorem Kind.kind_of_item?
    {kind : Kind}
    {o : Outline}
    {e : Entry}
    (made : kind.item? o = some e) :
    e.kind = kind := by
  cases o with
  | object members =>
      simp only [item?, entryOf?, compose?, bind, Option.bind_eq_some_iff] at made
      obtain ⟨named, -, foreign, -, own, -, made⟩ := made
      exact Entry.kind_of_ofMembers (Json.toOption_eq_some_iff.mp made)
  | array items =>
      cases kind with
      | ca =>
          obtain ⟨entry, -, rfl⟩ := Option.map_eq_some_iff.mp made
          rfl
      | _ =>
          cases made
  | _ =>
      cases made

/-- All entries of a collection are of its kind. -/
theorem Kind.kind_of_entries?
    {kind : Kind}
    {o : Outline}
    {entries : List Entry}
    (made : kind.entries? o = some entries) :
    ∀ e ∈ entries, e.kind = kind := by
  cases o with
  | array items =>
      change items.mapM kind.item? = some entries at made
      induction items generalizing entries with
      | nil =>
          cases made
          exact List.forall_mem_nil _
      | cons item items inductionHypothesis =>
          rw [List.mapM_cons] at made
          obtain ⟨e, madeHere, made⟩ := Option.bind_eq_some_iff.mp made
          obtain ⟨rest, madeRest, made⟩ := Option.bind_eq_some_iff.mp made
          obtain rfl := Option.some.inj made
          exact List.forall_mem_cons.mpr
            ⟨Kind.kind_of_item? madeHere, inductionHypothesis madeRest⟩
  | _ =>
      cases made

/-- In a document made of entries, each collection has the entries of its kind. -/
theorem Document.collection_ofEntries
    (entries : List Entry)
    (kind : Kind) :
    (ofEntries entries).collection kind = entries.filter (·.kind = kind) := by
  induction entries with
  | nil =>
      cases kind <;> rfl
  | cons e entries inductionHypothesis =>
      rw [List.filter_cons, ← inductionHypothesis]
      cases e <;> cases kind <;> rfl

/-- Documents are the same if all their collections are. -/
theorem Document.eq_of_collection_eq
    {d d' : Document}
    (same : ∀ kind, d.collection kind = d'.collection kind) :
    d = d' := by
  rw [← Document.ofEntries_entries d, ← Document.ofEntries_entries d', entries, entries,
    funext same]

/-- Collections of their own kinds, with different names. -/
structure Collections (found : List (String × List Entry)) : Prop where
  distinct : (found.map (·.1)).Nodup
  belong : ∀ collection ∈ found, ∃ kind : Kind, collection.1 = kind.name ∧
    ∀ e ∈ collection.2, e.kind = kind

namespace Collections

variable
    {found : List (String × List Entry)}

/-- Of all entries in collections, those of a kind are the ones in the collection of its name. -/
theorem filter_flatMap
    (collections : Collections found)
    (kind : Kind) :
    (found.flatMap (·.2)).filter (·.kind = kind) = (lookup? kind.name found).getD [] := by
  obtain ⟨distinct, belong⟩ := collections
  induction found with
  | nil =>
      rfl
  | cons collection found inductionHypothesis =>
      obtain ⟨name, entries⟩ := collection
      obtain ⟨differs, distinctRest⟩ := List.nodup_cons.mp distinct
      obtain ⟨⟨own, named, belongHere⟩, belongRest⟩ := List.forall_mem_cons.mp belong
      have rest := inductionHypothesis distinctRest belongRest
      obtain rfl : name = own.name := named
      rw [List.flatMap_cons, List.filter_append, rest, Json.lookup?_cons]
      split
      · next same =>
          obtain rfl := Kind.name_injective same
          have all : entries.filter (·.kind = own) = entries :=
            List.filter_eq_self.mpr fun e inside => by simp [belongHere e inside]
          rw [all, Json.lookup?_eq_none_iff.mpr differs]
          exact List.append_nil entries
      · next other =>
          have none : entries.filter (·.kind = kind) = [] :=
            List.filter_eq_nil_iff.mpr fun e inside => by
              simpa [belongHere e inside] using fun same => other (congrArg Kind.name same)
          rw [none, List.nil_append]

/-- What is selected from named members has each collection under its own name. -/
theorem of_select
    {members : List (String × Outline)}
    (selected : select lookCollection [] members = some found) :
    Collections found where
  distinct := Json.nodup_of_select selected
  belong := by
    obtain ⟨-, -, rfl⟩ := Json.select_eq_some_iff.mp selected
    intro collection inside
    obtain ⟨member, -, takes⟩ := List.mem_filterMap.mp inside
    obtain ⟨read, known, reads⟩ := Option.bind_eq_some_iff.mp takes
    obtain ⟨entries, made, rfl⟩ := Option.map_eq_some_iff.mp reads
    obtain ⟨kind, search, rfl⟩ := Option.map_eq_some_iff.mp known
    have named : kind.name = member.1 := by
      simpa using List.find?_some search
    exact ⟨kind, named.symm, Kind.kind_of_entries? made⟩

/-- It does not matter in which order collections were found. -/
theorem perm
    {found' : List (String × List Entry)}
    (collections : Collections found)
    (same : found.Perm found') :
    Collections found' where
  distinct := (same.map _).nodup_iff.mp collections.distinct
  belong collection inside := collections.belong collection (same.mem_iff.mpr inside)

end Collections

/-- The document of collections does not depend on their order. -/
theorem Document.ofEntries_perm
    {found found' : List (String × List Entry)}
    (collections : Collections found)
    (same : found.Perm found') :
    ofEntries (found.flatMap (·.2)) = ofEntries (found'.flatMap (·.2)) := by
  refine eq_of_collection_eq fun kind => ?_
  rw [collection_ofEntries, collection_ofEntries, collections.filter_flatMap,
    (collections.perm same).filter_flatMap, Json.lookup?_perm same collections.distinct]

/-- Changes of the members of a document that make no difference. -/
inductive Document.Alters : List Member → List Member → Prop where
  /-- The members stand in another order. -/
  | reorder
      {members others : List Member} :
      members.Perm others →
      Document.Alters members others
  /-- There is one more member, which is not the name of a collection. -/
  | foreign
      {name : String}
      {value : Outline}
      {members : List Member} :
      (∀ kind : Kind, name ≠ kind.name) →
      Document.Alters members ((some name, value) :: members)
  /-- An entry of a collection is changed in a way that makes no difference. -/
  | entry
      {kind : Kind}
      {own others : List Member}
      {before after : List Outline}
      {members : List Member} :
      kind.Alters own others →
      Document.Alters
        ((some kind.name, .array (before ++ .object own :: after)) :: members)
        ((some kind.name, .array (before ++ .object others :: after)) :: members)

/-- A change that does not count leaves the document as it is. -/
theorem Document.ofMembers?_of_alters
    {members others : List Member}
    (altered : Document.Alters members others) :
    ofMembers? members = ofMembers? others := by
  cases altered with
  | reorder same =>
      -- Collections are of different kinds, so the entries of one keep their order.
      refine bind_eq_of_rel (Json.named?_perm same) fun named named' _ sameNamed => ?_
      refine bind_eq_of_rel (Json.select_perm sameNamed) fun found found' selected sameFound => ?_
      exact congrArg some (ofEntries_perm (.of_select selected) sameFound)
  | @foreign name value _ foreign =>
      have unknown : lookCollection name = none := by
        rw [lookCollection, Option.map_eq_none_iff, List.find?_eq_none]
        simpa using fun kind _ same => foreign kind same.symm
      rw [ofMembers?, ofMembers?, Json.named?_cons_some]
      simp only [bind, Option.bind_map]
      refine Option.bind_congr fun named _ => ?_
      rw [Function.comp_apply, Json.select_cons_of_unknown unknown]
  | @entry kind own others before after _ altered =>
      have same :
          kind.entries? (.array (before ++ .object own :: after)) =
            kind.entries? (.array (before ++ .object others :: after)) := by
        simp only [Kind.entries?, List.mapM_append, List.mapM_cons, Kind.item?,
          Kind.entryOf?_of_alters altered]
      rw [ofMembers?, ofMembers?, Json.named?_cons_some, Json.named?_cons_some]
      simp only [bind, Option.bind_map]
      refine Option.bind_congr fun named _ => ?_
      simp only [Function.comp_apply, select, lookCollection, kind.find?_name, Option.map_some,
        same]

end Notary.Config
