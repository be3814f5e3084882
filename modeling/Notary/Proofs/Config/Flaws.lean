import Mathlib.Data.List.Count
import Notary.Proofs.Config.Rearrangement

namespace Notary.Config

/-!
# Members that make nothing

A member that is required must be there, and a name that is known must not repeat. That holds
for the own members of an entry, which are read at once, and for those of its parameters, which
are only looked for when the whole entry was kept.
-/

open Json (Member Outline Value lookup? select)

/-- Whether an entry of a collection must have a member of a name. -/
def Kind.Requires (kind : Kind) (name : String) : Prop :=
  kind.wants name = some .text ∧ name ≠ "metadata" ∨ kind.wants name = some .packaging

/-- Members that make no entry of a collection. -/
inductive Kind.Flawed (kind : Kind) (members : List Member) : Prop where
  /-- A member that is required is not there. -/
  | lacking
      {name : String} :
      kind.Requires name →
      some name ∉ members.map (·.1) →
      Kind.Flawed kind members
  /-- A name that the entry knows repeats. -/
  | repeating
      {name : String} :
      (kind.wants name).isSome = true →
      2 ≤ (members.map (·.1)).count (some name) →
      Kind.Flawed kind members

/-- Members that make no document. -/
inductive Document.Flawed (members : List Member) : Prop where
  /-- An entry of a collection is none. -/
  | entry
      {kind : Kind}
      {items : List Outline}
      {own : List Member} :
      (some kind.name, .array items) ∈ members →
      .object own ∈ items →
      kind.Flawed own →
      Document.Flawed members
  /-- A collection repeats. -/
  | repeating
      {kind : Kind} :
      2 ≤ (members.map (·.1)).count (some kind.name) →
      Document.Flawed members

section Missing

variable
    {c own : Contents}
    {foreign : List (String × Value)}
    {name : String}

/-- Signing parameters cannot do without any text or packaging of their schema. -/
theorem SigningParameters.toOption_ofContents_of_missing
    (wanted :
      lookup? name signingSchema = some .text ∨ lookup? name signingSchema = some .packaging)
    (missing : lookup? name c = none) :
    (ofContents c).toOption = none := by
  have among :
      name = "certificate" ∨ name = "password" ∨ name = "digestAlgorithm" ∨
        name = "canonicalisationAlgorithm" ∨ name = "signaturePackaging" := by
    rcases wanted with text | packaging
    · have listed := Json.mem_of_lookup? text
      simp [signingSchema] at listed
      grind
    · have listed := Json.mem_of_lookup? packaging
      simp [signingSchema] at listed
      grind
  rcases among with rfl | rfl | rfl | rfl | rfl <;>
    simp [ofContents, Contents.required, Contents.packaging, missing]

/-- Validation parameters cannot do without any text but the metadata. -/
theorem ValidationParameters.toOption_ofContents_of_missing
    (wanted : lookup? name validationSchema = some .text)
    (other : name ≠ "metadata")
    (missing : lookup? name c = none) :
    (ofContents c).toOption = none := by
  have named : name = "rules" := by
    have listed := Json.mem_of_lookup? wanted
    simp [validationSchema] at listed
    grind
  subst named
  simp [ofContents, Contents.required, missing]

/-- An entry without a member that it must read at once is none. -/
theorem Entry.toOption_ofMembers_of_missing
    {kind : Kind}
    (wanted : lookup? name kind.ownSchema = some .text)
    (missing : lookup? name own = none) :
    (Entry.ofMembers ⟨own, foreign⟩ kind).toOption = none := by
  have listed := Json.mem_of_lookup? wanted
  cases kind with
  | signature =>
      have among : name = "id" ∨ name = "proofConfId" := by
        simpa [Kind.ownSchema, signingOwnSchema] using listed
      rcases among with rfl | rfl <;>
        simp [Entry.ofMembers, SigningEntry.ofMembers, Contents.required, missing]
  | proof =>
      obtain rfl : name = "id" := by
        simpa [Kind.ownSchema, plainOwnSchema] using listed
      simp [Entry.ofMembers, ProofEntry.ofMembers, Contents.required, missing]
  | signatureVerification | certificateVerification =>
      obtain rfl : name = "id" := by
        simpa [Kind.ownSchema, plainOwnSchema] using listed
      simp [Entry.ofMembers, VerificationEntry.ofMembers, Contents.required, missing]
  | ca =>
      have among : name = "id" ∨ name = "certificate" ∨ name = "crl" := by
        simpa [Kind.ownSchema, authoritySchema] using listed
      rcases among with rfl | rfl | rfl <;>
        simp [Entry.ofMembers, Authority.ofMembers, Contents.required, missing]

/-- An entry without a member that its parameters must have is none. -/
theorem Entry.toOption_ofMembers_of_missing_parameter
    {kind : Kind}
    (wanted :
      lookup? name kind.flattenedSchema = some .text ∧ name ≠ "metadata" ∨
        lookup? name kind.flattenedSchema = some .packaging)
    (missing : ∀ picked,
      (Json.pickMembers kind.flattenedSchema.fromValue [] foreign).toOption = some picked →
        lookup? name picked = none) :
    (Entry.ofMembers ⟨own, foreign⟩ kind).toOption = none := by
  have signing (wanted :
      lookup? name signingSchema = some .text ∧ name ≠ "metadata" ∨
        lookup? name signingSchema = some .packaging) :
      lookup? name signingSchema = some .text ∨ lookup? name signingSchema = some .packaging :=
    wanted.imp_left And.left
  have validation (wanted :
      lookup? name validationSchema = some .text ∧ name ≠ "metadata" ∨
        lookup? name validationSchema = some .packaging) :
      lookup? name validationSchema = some .text ∧ name ≠ "metadata" := by
    rcases wanted with text | packaging
    · exact text
    · have listed := Json.mem_of_lookup? packaging
      simp [validationSchema] at listed
  cases kind with
  | signature =>
      simp only [Entry.ofMembers, SigningEntry.ofMembers, Json.toOption_map, Json.toOption_bind,
        Option.map_eq_none_iff, Option.bind_eq_none_iff]
      intro id _ proofId _ picked selected parameters made
      rw [SigningParameters.toOption_ofContents_of_missing (signing wanted)
        (missing picked selected)] at made
      cases made
  | proof =>
      simp only [Entry.ofMembers, ProofEntry.ofMembers, Json.toOption_map, Json.toOption_bind,
        Option.map_eq_none_iff, Option.bind_eq_none_iff]
      intro id _ picked selected parameters made
      rw [SigningParameters.toOption_ofContents_of_missing (signing wanted)
        (missing picked selected)] at made
      cases made
  | signatureVerification | certificateVerification =>
      obtain ⟨text, other⟩ := validation wanted
      simp only [Entry.ofMembers, VerificationEntry.ofMembers, Json.toOption_map,
        Json.toOption_bind, Option.map_eq_none_iff, Option.bind_eq_none_iff]
      intro id _ picked selected parameters made
      rw [ValidationParameters.toOption_ofContents_of_missing text other
        (missing picked selected)] at made
      cases made
  | ca =>
      rcases wanted with ⟨text, -⟩ | packaging
      · cases text
      · cases packaging

/-- An entry whose parameters cannot be picked is none. -/
theorem Entry.toOption_ofMembers_of_unpicked
    {kind : Kind}
    (known : kind.flattenedSchema ≠ [])
    (unpicked : (Json.pickMembers kind.flattenedSchema.fromValue [] foreign).toOption = none) :
    (Entry.ofMembers ⟨own, foreign⟩ kind).toOption = none := by
  have missing (name : String) (picked : Contents)
      (picks :
        (Json.pickMembers kind.flattenedSchema.fromValue [] foreign).toOption = some picked) :
      lookup? name picked = none := by
    rw [unpicked] at picks
    cases picks
  cases kind with
  | signature | proof =>
      have wanted : lookup? "certificate" signingSchema = some .text := rfl
      exact toOption_ofMembers_of_missing_parameter (.inl ⟨wanted, by decide⟩) (missing _)
  | signatureVerification | certificateVerification =>
      have wanted : lookup? "rules" validationSchema = some .text := rfl
      exact toOption_ofMembers_of_missing_parameter (.inl ⟨wanted, by decide⟩) (missing _)
  | ca =>
      exact (known rfl).elim

end Missing

/-- A name that is known may stand once only. -/
theorem select_of_repeated
    {α : Type}
    {look : String → Option (Outline → Option α)}
    {members : List Member}
    {named : List (String × Outline)}
    {name : String}
    (names : Json.named? members = some named)
    (known : (look name).isSome = true)
    (repeated : 2 ≤ (members.map (·.1)).count (some name)) :
    select look [] named = none := by
  refine Json.select_eq_none_of_repeated fun distinct => ?_
  have once := List.nodup_iff_count_le_one.mp distinct name
  rw [Json.knownNames, List.count_filter (p := fun name => (look name).isSome) known]
    at once
  rw [map_fst_of_named? names] at repeated
  have same :=
    List.count_map_of_injective (named.map (·.1)) some (Option.some_injective String) name
  rw [List.map_map] at same
  have twice : 2 ≤ (named.map (·.1)).count name := by
    rw [← same]
    exact repeated
  omega

/-- An object with a flaw is no entry, whatever its other members are. -/
theorem Kind.entryOf?_of_flawed
    {kind : Kind}
    {members : List Member}
    (flawed : kind.Flawed members) :
    kind.entryOf? members = none := by
  cases names : Json.named? members with
  | none =>
      rw [entryOf?, names]
      rfl
  | some named =>
      rw [entryOf?, names, Option.bind_some, compose?]
      simp only [bind, Option.bind_eq_none_iff]
      intro foreign kept own selected
      have parameters := kind.toOption_pickMembers kept
      cases flawed with
      | @lacking name required new =>
          have absent {schema : Schema} {found : Contents}
              (selected : select schema.look [] named = some found) : lookup? name found = none :=
            Json.lookup?_eq_none_iff.mpr fun inside =>
              not_mem_of_named? names new (Json.mem_of_mem_select selected inside)
          -- An own member is missed at once, one of the parameters only among what was kept.
          cases known : lookup? name kind.ownSchema with
          | some w =>
              rcases required with ⟨text, -⟩ | packaging
              · have plain := Kind.eq_of_wants text (by simp) known
                subst plain
                exact Entry.toOption_ofMembers_of_missing known (absent selected)
              · have strange := Kind.eq_of_wants packaging (by simp) known
                exact (kind.plain_ownSchema known strange).elim
          | none =>
              rw [Kind.Requires, Kind.wants, known, Option.none_or] at required
              refine Entry.toOption_ofMembers_of_missing_parameter required fun picked picks => ?_
              exact absent (parameters.symm.trans picks)
      | @repeating name known repeated =>
          cases ownKnown : lookup? name kind.ownSchema with
          | some w =>
              have knows : (kind.ownSchema.look name).isSome = true := by
                rw [Schema.look, ownKnown]
                rfl
              rw [select_of_repeated names knows repeated] at selected
              cases selected
          | none =>
              have knows : (kind.flattenedSchema.look name).isSome = true := by
                rw [Kind.wants, ownKnown, Option.none_or] at known
                rwa [Schema.look, Option.isSome_map]
              rw [select_of_repeated names knows repeated] at parameters
              refine Entry.toOption_ofMembers_of_unpicked ?_ parameters
              intro empty
              rw [empty] at knows
              cases knows

/-- Members with a flaw make no document. -/
theorem Document.ofMembers?_of_flawed
    {members : List Member}
    (flawed : Document.Flawed members) :
    ofMembers? members = none := by
  cases names : Json.named? members with
  | none =>
      rw [ofMembers?, names]
      rfl
  | some named =>
      rw [ofMembers?, names]
      simp only [bind, Option.bind_some]
      cases flawed with
      | @entry kind items own listed inside flawed =>
          have nothing : kind.entries? (.array items) = none := by
            obtain ⟨before, after, rfl⟩ := List.append_of_mem inside
            simp [Kind.entries?, List.mapM_append, List.mapM_cons, Kind.item?,
              Kind.entryOf?_of_flawed flawed]
          have known : lookCollection kind.name = some kind.entries? := by
            rw [lookCollection, kind.find?_name]
            rfl
          cases selected : select lookCollection [] named with
          | none =>
              rfl
          | some found =>
              obtain ⟨readable, -, -⟩ := Json.select_eq_some_iff.mp selected
              have reads := readable _ (Json.mem_of_named? names listed) _ known
              rw [nothing] at reads
              cases reads
      | @repeating kind repeated =>
          have knows : (lookCollection kind.name).isSome = true := by
            rw [lookCollection, kind.find?_name]
            rfl
          rw [select_of_repeated names knows repeated]
          rfl

end Notary.Config
