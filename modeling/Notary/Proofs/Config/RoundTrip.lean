import Notary.Proofs.Config.Acceptance
import Notary.Proofs.Json.Members

namespace Notary.Config

/-!
# Configurations are read as they were written

A document is written as an object of five arrays. The members of an entry are texts with
different names; those of its parameters stand behind its own, and none of them has a name
that the entry reads itself. So reading an entry tells the two apart again, whichever
optional members are absent.
-/

open Json (Flaw Mismatch Source Tree Value lookup? picked)

variable
    {own others values : List (String × Value)}
    {member : String × Value}
    {text : String}

/-- A member that may be absent is found under its own name only, if it is there. -/
theorem find?_optionalMember
    (name sought : String)
    (value : Option String) :
    (optionalMember name value).find? (·.1 = sought) =
      if name = sought then value.map (textMember name) else none := by
  cases value <;> by_cases same : name = sought <;> simp [optionalMember, textMember, same]

/-- There is at most one member of the name. -/
theorem map_fst_optionalMember_sublist
    (name : String)
    (value : Option String) :
    ((optionalMember name value).map (·.1)).Sublist [name] := by
  cases value with
  | none =>
      exact List.nil_sublist [name]
  | some text =>
      exact List.Sublist.refl [name]

/-- Members that all hold texts. -/
def OnlyTexts (values : List (String × Value)) : Prop :=
  ∀ member ∈ values, ∃ text, member.2 = .string text

theorem onlyTexts_nil :
    OnlyTexts [] :=
  List.forall_mem_nil _

/-- Optional members hold texts, as nothing is written for one that is absent. -/
theorem onlyTexts_optionalMember
    (name : String)
    (value : Option String) :
    OnlyTexts (optionalMember name value) := by
  intro member inside
  obtain ⟨text, -, rfl⟩ := Option.mem_map.mp (Option.mem_toList.mp inside)
  exact ⟨text, rfl⟩

theorem OnlyTexts.append
    (first : OnlyTexts own)
    (second : OnlyTexts others) :
    OnlyTexts (own ++ others) :=
  List.forall_mem_append.mpr ⟨first, second⟩

theorem OnlyTexts.cons
    (name text : String)
    (rest : OnlyTexts values) :
    OnlyTexts (textMember name text :: values) :=
  List.forall_mem_cons.mpr ⟨⟨text, rfl⟩, rest⟩

/-- What a member with a text holds. -/
def textContent (member : String × Value) : Content :=
  match member.2 with
  | .string text => .text text
  | _ => .absent

section Picked

variable
    {knows : String → Bool}
    {content : String × Value → Content}
    {name : String}

/-- A required member that was written is picked, with its text. -/
theorem required_picked
    (known : knows name = true)
    (holds : (values.find? (·.1 = name)).map content = some (.text text)) :
    Contents.required (picked knows content values) name = .ok text := by
  rw [Contents.required, Json.lookup?_picked known, holds]

/-- An optional member is picked if it was written, and only then. -/
theorem optional_picked
    {held : Option String}
    (known : knows name = true)
    (holds : (values.find? (·.1 = name)).map content = held.map .text) :
    Contents.optional (picked knows content values) name = held := by
  rw [Contents.optional, Json.lookup?_picked known, holds]
  cases held <;> rfl

/-- The packaging that was written is picked. -/
theorem packaging_picked
    {packaging : Packaging}
    (known : knows name = true)
    (holds : (values.find? (·.1 = name)).map content = some (.packaging packaging)) :
    Contents.packaging (picked knows content values) name = .ok packaging := by
  rw [Contents.packaging, Json.lookup?_picked known, holds]

end Picked

/-- Wherever no packaging is wanted, a string is a text. -/
theorem Wanted.ofValue_string
    {w : Wanted}
    (texts : w ≠ .packaging)
    (text : String) :
    w.ofValue (.string text) = .ok (.text text) := by
  cases w with
  | text =>
      rfl
  | optionalText =>
      rfl
  | packaging =>
      exact (texts rfl).elim

/-- From the text of a document, a string is a text even where a packaging is wanted. -/
theorem Wanted.ofTree_of_shows
    {tree : Tree}
    (w : Wanted)
    (shows : tree.Shows (.string text)) :
    w.ofTree tree = .ok (.text text) := by
  cases shows
  cases w <;> rfl

/-- Members that are left for the parameters are kept as they are. -/
theorem Kind.keep_of_shows
    {kind : Kind}
    {tree : Tree}
    (flattened : kind ≠ .ca)
    (shows : tree.Shows (.string text)) :
    kind.keep tree = .ok (some (.string text)) := by
  cases shows
  cases kind <;> first | rfl | exact (flattened rfl).elim

/-- A known text that is no packaging is read as it is. -/
theorem Schema.fromValue_of_text
    {schema : Schema}
    {reader : Value → Except Mismatch Content}
    (holds : member.2 = .string text)
    (texts : lookup? member.1 schema ≠ some .packaging)
    (known : schema.fromValue member.1 = some reader) :
    reader member.2 = .ok (textContent member) := by
  obtain ⟨w, wanted, rfl⟩ := Option.map_eq_some_iff.mp known
  have plain : w ≠ .packaging := by
    rintro rfl
    exact texts wanted
  rw [textContent, holds]
  exact Wanted.ofValue_string plain text

namespace SigningParameters

variable (p : SigningParameters)

/-- Signing parameters are written in the order of their schema. -/
theorem map_fst_members_sublist :
    (p.members.map (·.1)).Sublist (signingSchema.map (·.1)) := by
  simp only [members, List.map_append]
  exact ((((List.Sublist.refl _).append (map_fst_optionalMember_sublist _ _)).append
    (map_fst_optionalMember_sublist _ _)).append (map_fst_optionalMember_sublist _ _)).append
    (map_fst_optionalMember_sublist _ _)

/-- Signing parameters are texts, the packaging included. -/
theorem onlyTexts_members :
    OnlyTexts p.members := by
  refine (((OnlyTexts.append ?_ (onlyTexts_optionalMember _ _)).append
    (onlyTexts_optionalMember _ _)).append (onlyTexts_optionalMember _ _)).append
    (onlyTexts_optionalMember _ _)
  repeat refine .cons _ _ ?_
  exact onlyTexts_nil

/-- What a member of signing parameters holds. -/
def content (member : String × Value) : Content :=
  if member.1 = "signaturePackaging" then .packaging p.packaging else textContent member

/-- The packaging is read from the name it is written by. -/
theorem ofValue_of_mem_members
    (inside : member ∈ p.members)
    (named : member.1 = "signaturePackaging") :
    Wanted.packaging.ofValue member.2 = .ok (.packaging p.packaging) := by
  have written : member = textMember "signaturePackaging" p.packaging.name := by
    obtain ⟨name, value⟩ := member
    cases named
    simpa [members, optionalMember, textMember] using inside
  rw [written]
  cases p.packaging <;> rfl

/-- The schema of signing parameters knows one packaging. -/
theorem name_of_lookup?_packaging
    {name : String}
    (wanted : lookup? name signingSchema = some .packaging) :
    name = "signaturePackaging" := by
  obtain ⟨⟨sought, w⟩, found, isPackaging⟩ := Option.map_eq_some_iff.mp wanted
  have same : sought = name := by
    simpa using List.find?_some found
  have listed := List.mem_of_find?_eq_some found
  cases isPackaging
  rw [← same]
  simpa [signingSchema] using listed

/-- Each member of signing parameters is read to what it holds. -/
theorem fromValue_of_mem_members
    {reader : Value → Except Mismatch Content}
    (inside : member ∈ p.members)
    (known : signingSchema.fromValue member.1 = some reader) :
    reader member.2 = .ok (p.content member) := by
  by_cases named : member.1 = "signaturePackaging"
  · have wanted :
        signingSchema.fromValue "signaturePackaging" = some Wanted.packaging.ofValue := rfl
    rw [named, wanted] at known
    cases known
    rw [content, if_pos named]
    exact p.ofValue_of_mem_members inside named
  · obtain ⟨text, holds⟩ := p.onlyTexts_members member inside
    have texts : lookup? member.1 signingSchema ≠ some .packaging :=
      fun wanted => named (name_of_lookup?_packaging wanted)
    rw [content, if_neg named]
    exact Schema.fromValue_of_text holds texts known

/-- Reading the members of signing parameters picks what was written, each member once. -/
theorem pickMembers_members :
    Json.pickMembers signingSchema.fromValue [] p.members =
      .ok (picked (fun name => (signingSchema.fromValue name).isSome) p.content p.members) :=
  Json.pickMembers_eq_picked
    (fun _ inside _ known => p.fromValue_of_mem_members inside known)
    (p.map_fst_members_sublist.nodup (by decide))
    (fun _ _ seen => nomatch seen)

/-- Signing parameters are what was picked of their own members. -/
theorem ofContents_picked :
    ofContents (picked (fun name => (signingSchema.fromValue name).isSome) p.content p.members) =
      .ok p := by
  have optionals :
      (p.members.find? (·.1 = "signId")).map p.content = p.signId.map .text ∧
        (p.members.find? (·.1 = "signValueId")).map p.content = p.signValueId.map .text ∧
        (p.members.find? (·.1 = "objectId")).map p.content = p.objectId.map .text ∧
        (p.members.find? (·.1 = "signaturePlacementPattern")).map p.content =
          p.placementPattern.map .text := by
    simp [members, textMember, content, find?_optionalMember, textContent, Function.comp_def]
  obtain ⟨signId, signValueId, objectId, placementPattern⟩ := optionals
  rw [ofContents, required_picked rfl rfl, required_picked rfl rfl, required_picked rfl rfl,
    required_picked rfl rfl, packaging_picked rfl rfl, optional_picked rfl signId,
    optional_picked rfl signValueId, optional_picked rfl objectId,
    optional_picked rfl placementPattern]
  rfl

end SigningParameters

namespace ValidationParameters

variable (p : ValidationParameters)

theorem onlyTexts_members :
    OnlyTexts p.members := by
  repeat refine .cons _ _ ?_
  exact onlyTexts_nil

/-- Reading the members of validation parameters picks what was written. -/
theorem pickMembers_members :
    Json.pickMembers validationSchema.fromValue [] p.members =
      .ok
        (picked (fun name => (validationSchema.fromValue name).isSome) textContent p.members) := by
  rfl

/-- Validation parameters are what was picked of their own members. -/
theorem ofContents_picked :
    ofContents
        (picked (fun name => (validationSchema.fromValue name).isSome) textContent p.members) =
      .ok p := by
  rfl

end ValidationParameters

/-! ## Entries -/

/-- The members that an entry reads by itself. -/
def Entry.ownMembers : Entry → List (String × Value)
  | .signature e =>
      [textMember "id" e.id, textMember "proofConfId" e.proofId] ++
        optionalMember "secret" e.secret ++ optionalMember "description" e.description
  | .proof e => textMember "id" e.id :: optionalMember "description" e.description
  | .signatureVerification e => textMember "id" e.id :: optionalMember "description" e.description
  | .certificateVerification e =>
      textMember "id" e.id :: optionalMember "description" e.description
  | .ca e =>
      [textMember "id" e.id, textMember "certificate" e.certificate, textMember "crl" e.crl] ++
        optionalMember "description" e.description

/-- The members of the parameters of an entry. -/
def Entry.flattened : Entry → List (String × Value)
  | .signature e => e.parameters.members
  | .proof e => e.parameters.members
  | .signatureVerification e => e.parameters.members
  | .certificateVerification e => e.parameters.members
  | .ca _ => []

/-- The members of the parameters of the entries of a collection. -/
def Kind.flattenedSchema : Kind → Schema
  | signature | proof => signingSchema
  | signatureVerification | certificateVerification => validationSchema
  | ca => []

namespace Entry

variable (e : Entry)

/-- An entry is written as its own members and then those of its parameters. -/
theorem encode_eq :
    e.encode = .object (e.ownMembers ++ e.flattened) := by
  cases e with
  | ca e =>
      exact congrArg Value.object (List.append_nil _).symm
  | _ =>
      rfl

/-- The own members of an entry stand in the order of its schema. -/
theorem map_fst_ownMembers_sublist :
    (e.ownMembers.map (·.1)).Sublist (e.kind.ownSchema.map (·.1)) := by
  cases e with
  | signature e =>
      simp only [ownMembers, List.map_append]
      exact ((List.Sublist.refl _).append (map_fst_optionalMember_sublist _ _)).append
        (map_fst_optionalMember_sublist _ _)
  | ca e =>
      simp only [ownMembers, List.map_append]
      exact (List.Sublist.refl _).append (map_fst_optionalMember_sublist _ _)
  | _ =>
      exact (map_fst_optionalMember_sublist _ _).cons_cons "id"

/-- So do the members of its parameters. -/
theorem map_fst_flattened_sublist :
    (e.flattened.map (·.1)).Sublist (e.kind.flattenedSchema.map (·.1)) := by
  cases e with
  | signature e =>
      exact e.parameters.map_fst_members_sublist
  | proof e =>
      exact e.parameters.map_fst_members_sublist
  | _ =>
      exact List.Sublist.refl _

theorem onlyTexts_ownMembers :
    OnlyTexts e.ownMembers := by
  cases e with
  | signature e =>
      exact (((onlyTexts_nil.cons _ _).cons _ _).append (onlyTexts_optionalMember _ _)).append
        (onlyTexts_optionalMember _ _)
  | ca e =>
      exact (((onlyTexts_nil.cons _ _).cons _ _).cons _ _).append (onlyTexts_optionalMember _ _)
  | _ =>
      exact (onlyTexts_optionalMember _ _).cons _ _

theorem onlyTexts_flattened :
    OnlyTexts e.flattened := by
  cases e with
  | signature e =>
      exact e.parameters.onlyTexts_members
  | proof e =>
      exact e.parameters.onlyTexts_members
  | signatureVerification e =>
      exact e.parameters.onlyTexts_members
  | certificateVerification e =>
      exact e.parameters.onlyTexts_members
  | ca e =>
      exact onlyTexts_nil

end Entry

/-- What is read of the members that an entry of a collection knows. -/
def Kind.pick (kind : Kind) (values : List (String × Value)) : Contents :=
  picked (fun name => (kind.ownSchema.fromTree name).isSome) textContent values

/-- An entry and its parameters have no member of the same name. -/
theorem Kind.nodup_names
    (kind : Kind) :
    (kind.ownSchema.map (·.1) ++ kind.flattenedSchema.map (·.1)).Nodup := by
  cases kind <;> decide

/-- A schema reads exactly the members that it names. -/
theorem Schema.isSome_fromTree_iff
    {schema : Schema}
    {name : String} :
    (schema.fromTree name).isSome = true ↔ name ∈ schema.map (·.1) := by
  simp [fromTree, lookup?]

namespace Entry

variable (e : Entry)

/-- An entry knows the members that it reads by itself. -/
theorem isSome_of_mem_ownMembers
    (inside : member ∈ e.ownMembers) :
    (e.kind.ownSchema.fromTree member.1).isSome = true :=
  Schema.isSome_fromTree_iff.mpr
    (e.map_fst_ownMembers_sublist.subset (List.mem_map_of_mem inside))

/-- An entry does not know the members of its parameters. -/
theorem isSome_of_mem_flattened
    (inside : member ∈ e.flattened) :
    (e.kind.ownSchema.fromTree member.1).isSome = false := by
  rw [Bool.eq_false_iff]
  intro known
  obtain ⟨-, -, apart⟩ := List.nodup_append.mp e.kind.nodup_names
  exact apart _ (Schema.isSome_fromTree_iff.mp known) _
    (e.map_fst_flattened_sublist.subset (List.mem_map_of_mem inside)) rfl

/-- No member of an entry is written twice. -/
theorem nodup_members :
    ((e.ownMembers ++ e.flattened).map (·.1)).Nodup := by
  rw [List.map_append]
  exact (e.map_fst_ownMembers_sublist.append e.map_fst_flattened_sublist).nodup e.kind.nodup_names

/-- An authority has no parameters. -/
theorem kind_ne_of_mem_flattened
    (inside : member ∈ e.flattened) :
    e.kind ≠ .ca := by
  cases e with
  | ca e =>
      cases inside
  | _ =>
      nofun

/-- A member that an entry does not know belongs to its parameters. -/
theorem mem_flattened_of_unknown
    (inside : member ∈ e.ownMembers ++ e.flattened)
    (unknown : e.kind.ownSchema.fromTree member.1 = none) :
    member ∈ e.flattened := by
  rcases List.mem_append.mp inside with own | other
  · have known := e.isSome_of_mem_ownMembers own
    rw [unknown] at known
    cases known
  · exact other

/-- What an entry does not know itself are the members of its parameters. -/
theorem filter_unknown_eq_flattened :
    (e.ownMembers ++ e.flattened).filter
        (fun member => (e.kind.ownSchema.fromTree member.1).isNone) =
      e.flattened := by
  have ownKnown :
      e.ownMembers.filter (fun member => (e.kind.ownSchema.fromTree member.1).isNone) = [] :=
    List.filter_eq_nil_iff.mpr fun member inside => by
      rw [Option.isNone_iff_eq_none, ← Ne, ← Option.isSome_iff_ne_none]
      exact e.isSome_of_mem_ownMembers inside
  have othersUnknown :
      e.flattened.filter (fun member => (e.kind.ownSchema.fromTree member.1).isNone) =
        e.flattened :=
    List.filter_eq_self.mpr fun member inside => by
      simpa using e.isSome_of_mem_flattened inside
  rw [List.filter_append, ownKnown, othersUnknown, List.nil_append]

/-- What an entry picks for itself does not depend on the members of its parameters. -/
theorem pick_members :
    e.kind.pick (e.ownMembers ++ e.flattened) = e.kind.pick e.ownMembers := by
  have othersUnknown :
      e.flattened.filter (fun member => (e.kind.ownSchema.fromTree member.1).isSome) = [] :=
    List.filter_eq_nil_iff.mpr fun member inside => by
      rw [e.isSome_of_mem_flattened inside]
      exact Bool.false_ne_true
  rw [Kind.pick, picked, List.filter_append, othersUnknown, List.append_nil]
  rfl

/-- An entry reads its own members and keeps those of its parameters. -/
theorem readMembers_eq
    {members : List (Json.Name × Tree)}
    (shown : Json.MembersShow members (e.ownMembers ++ e.flattened)) :
    Json.readMembers e.kind.ownSchema.fromTree e.kind.keep [] members =
      .ok ⟨e.kind.pick e.ownMembers, e.flattened⟩ := by
  have texts : OnlyTexts (e.ownMembers ++ e.flattened) :=
    e.onlyTexts_ownMembers.append e.onlyTexts_flattened
  have reads :
      ∀ member ∈ e.ownMembers ++ e.flattened, ∀ reader,
        e.kind.ownSchema.fromTree member.1 = some reader →
          ∀ tree : Tree, tree.Shows member.2 → reader tree = .ok (textContent member) := by
    intro member inside reader known tree shows
    obtain ⟨w, -, rfl⟩ := Option.map_eq_some_iff.mp known
    obtain ⟨text, holds⟩ := texts member inside
    rw [holds] at shows
    rw [textContent, holds]
    exact w.ofTree_of_shows shows
  have keeps :
      ∀ member ∈ e.ownMembers ++ e.flattened, e.kind.ownSchema.fromTree member.1 = none →
        ∀ tree : Tree, tree.Shows member.2 → e.kind.keep tree = .ok (some member.2) := by
    intro member inside unknown tree shows
    obtain ⟨text, holds⟩ := texts member inside
    have belongs := e.mem_flattened_of_unknown inside unknown
    rw [holds] at shows ⊢
    exact Kind.keep_of_shows (e.kind_ne_of_mem_flattened belongs) shows
  rw [Json.readMembers_eq_picked shown reads keeps e.nodup_members fun _ _ => List.not_mem_nil,
    filter_unknown_eq_flattened, ← pick_members]
  rfl

end Entry

theorem map_textContent_optionalMember
    (name : String)
    (value : Option String) :
    ((optionalMember name value).find? (·.1 = name)).map textContent = value.map .text := by
  rw [find?_optionalMember, if_pos rfl]
  cases value <;> rfl

/-- A signing entry is read from its own members and those of its parameters. -/
theorem SigningEntry.ofMembers_eq
    (e : SigningEntry) :
    ofMembers ⟨Kind.pick .signature (Entry.signature e).ownMembers, e.parameters.members⟩ =
      .ok e := by
  have secret :
      ((Entry.signature e).ownMembers.find? (·.1 = "secret")).map textContent =
        e.secret.map .text := by
    simp [Entry.ownMembers, textMember, textContent, find?_optionalMember, Function.comp_def]
  have description :
      ((Entry.signature e).ownMembers.find? (·.1 = "description")).map textContent =
        e.description.map .text := by
    simp [Entry.ownMembers, textMember, textContent, find?_optionalMember, Function.comp_def]
  rw [ofMembers, Kind.pick, required_picked rfl rfl, required_picked rfl rfl,
    optional_picked rfl secret, optional_picked rfl description, e.parameters.pickMembers_members]
  simp only [bind, Except.bind, e.parameters.ofContents_picked]
  rfl

/-- A proof entry is read from its own members and those of its parameters. -/
theorem ProofEntry.ofMembers_eq
    (e : ProofEntry) :
    ofMembers ⟨Kind.pick .proof (Entry.proof e).ownMembers, e.parameters.members⟩ = .ok e := by
  have description :
      ((Entry.proof e).ownMembers.find? (·.1 = "description")).map textContent =
        e.description.map .text :=
    map_textContent_optionalMember _ _
  rw [ofMembers, Kind.pick, required_picked rfl rfl, optional_picked rfl description,
    e.parameters.pickMembers_members]
  simp only [bind, Except.bind, e.parameters.ofContents_picked]
  rfl

/-- A verification entry is read from its own members and those of its parameters. -/
theorem VerificationEntry.ofMembers_eq
    (e : VerificationEntry) :
    ofMembers
        ⟨Kind.pick .signatureVerification (Entry.signatureVerification e).ownMembers,
          e.parameters.members⟩ =
      .ok e := by
  have description :
      ((Entry.signatureVerification e).ownMembers.find? (·.1 = "description")).map textContent =
        e.description.map .text :=
    map_textContent_optionalMember _ _
  rw [ofMembers, Kind.pick, required_picked rfl rfl, optional_picked rfl description,
    e.parameters.pickMembers_members]
  simp only [bind, Except.bind, e.parameters.ofContents_picked]
  rfl

/-- An authority is read from its own members, whatever else there is. -/
theorem Authority.ofMembers_eq
    (e : Authority)
    (foreign : List (String × Value)) :
    ofMembers ⟨Kind.pick .ca (Entry.ca e).ownMembers, foreign⟩ = .ok e := by
  have description :
      ((Entry.ca e).ownMembers.find? (·.1 = "description")).map textContent =
        e.description.map .text :=
    map_textContent_optionalMember _ _
  rw [ofMembers, Kind.pick, required_picked rfl rfl, required_picked rfl rfl,
    required_picked rfl rfl, optional_picked rfl description]
  rfl

/-- An entry is put together again from its own members and those of its parameters. -/
theorem Entry.ofMembers_eq
    (e : Entry) :
    Entry.ofMembers ⟨e.kind.pick e.ownMembers, e.flattened⟩ e.kind = .ok e := by
  cases e with
  | signature e =>
      exact congrArg (Except.map Entry.signature) e.ofMembers_eq
  | proof e =>
      exact congrArg (Except.map Entry.proof) e.ofMembers_eq
  | signatureVerification e =>
      exact congrArg (Except.map Entry.signatureVerification) e.ofMembers_eq
  | certificateVerification e =>
      exact congrArg (Except.map Entry.certificateVerification) e.ofMembers_eq
  | ca e =>
      exact congrArg (Except.map Entry.ca) (e.ofMembers_eq [])

/-! ## Documents -/

/-- An entry is read from every tree that shows how it is written. -/
theorem readEntry_of_shows
    (source : Source)
    {e : Entry}
    {tree : Tree}
    (shows : tree.Shows e.encode) :
    readEntry source e.kind tree = .ok e := by
  rw [e.encode_eq] at shows
  cases shows with
  | object span shown =>
      rw [readEntry, e.readMembers_eq shown]
      exact congrArg (Except.mapError _) e.ofMembers_eq

/-- Trees that show the entries of a kind are read as these entries, in order. -/
theorem readEntries_of_show
    (source : Source)
    {kind : Kind}
    {entries : List Entry}
    {trees : List Tree}
    (shown : Json.ItemsShow trees (entries.map Entry.encode))
    (belong : ∀ e ∈ entries, e.kind = kind) :
    readEntries source kind trees = .ok entries := by
  induction entries generalizing trees with
  | nil =>
      cases shown
      rfl
  | cons e entries inductionHypothesis =>
      obtain _ | ⟨shows, shownRest⟩ := shown
      obtain ⟨rfl, belongRest⟩ := List.forall_mem_cons.mp belong
      rw [readEntries, readEntry_of_shows source shows,
        inductionHypothesis shownRest belongRest]
      rfl

/-- A tree that shows a collection of a document is read as that collection. -/
theorem readCollection_of_shows
    (source : Source)
    {d : Document}
    {kind : Kind}
    {tree : Tree}
    (shows : tree.Shows (.array ((d.collection kind).map Entry.encode))) :
    readCollection source kind tree = .ok (d.collection kind) := by
  cases shows with
  | array span shown =>
      exact readEntries_of_show source shown fun _ listed => Document.kind_of_mem_collection listed

/-- A document is made up of its entries, each in its own collection. -/
theorem Document.ofEntries_entries
    (d : Document) :
    Document.ofEntries d.entries = d := by
  have none (α β : Type) (others : List α) :
      others.filterMap (fun _ => (none : Option β)) = [] :=
    List.filterMap_eq_nil_iff.mpr fun _ _ => rfl
  obtain ⟨signature, proof, signatureVerification, certificateVerification, ca⟩ := d
  simp only [ofEntries, entries, Kind.all, collection, List.flatMap_cons, List.flatMap_nil,
    List.filterMap_append, List.filterMap_map, Function.comp_def, List.filterMap_some, none,
    List.append_nil, List.nil_append]

/-- The entries that stand under the name of a collection. -/
def Document.named (d : Document) (name : String) : List Entry :=
  (Kind.all.find? (·.name = name)).elim [] d.collection

/-- Kinds differ in their names. -/
theorem Kind.find?_name
    (kind : Kind) :
    Kind.all.find? (·.name = kind.name) = some kind := by
  cases kind <;> rfl

/-- Under the name of a kind stands the collection of that kind. -/
theorem Document.named_name
    (d : Document)
    (kind : Kind) :
    d.named kind.name = d.collection kind := by
  rw [named, kind.find?_name]
  rfl

/-- A tree that shows a document is read as that document. -/
theorem readDocument_of_shows
    (source : Source)
    {d : Document}
    {tree : Tree}
    (shows : tree.Shows d.encode) :
    readDocument source tree = .ok d := by
  cases shows with
  | object span shown =>
      have reads :
          ∀ member ∈ Kind.all.map fun kind =>
              (kind.name, Value.array ((d.collection kind).map Entry.encode)),
            ∀ reader, collectionReader source member.1 = some reader →
              ∀ tree : Tree, tree.Shows member.2 → reader tree = .ok (d.named member.1) := by
        intro member inside reader known tree shows
        obtain ⟨kind, -, rfl⟩ := List.mem_map.mp inside
        rw [collectionReader, kind.find?_name] at known
        cases known
        rw [d.named_name]
        exact readCollection_of_shows source shows
      have keeps :
          ∀ member ∈ Kind.all.map fun kind =>
              (kind.name, Value.array ((d.collection kind).map Entry.encode)),
            collectionReader source member.1 = none →
              ∀ tree : Tree, tree.Shows member.2 →
                Json.skipValue tree = .ok (some member.2) := by
        intro member inside unknown
        obtain ⟨kind, -, rfl⟩ := List.mem_map.mp inside
        rw [collectionReader, kind.find?_name] at unknown
        cases unknown
      have distinct : (Kind.all.map Kind.name).Nodup := by decide
      rw [readDocument,
        Json.readMembers_eq_picked shown reads keeps distinct fun _ _ => List.not_mem_nil]
      exact congrArg Except.ok d.ofEntries_entries

/-- An object of texts is plain, and not deep. -/
theorem OnlyTexts.plain
    {depth : Nat}
    (texts : OnlyTexts values)
    (fits : 1 < depth) :
    (Value.object values).Plain depth := by
  refine ⟨fits, Json.plainMembers_iff.mpr ?_⟩
  intro member inside
  obtain ⟨text, holds⟩ := texts member inside
  rw [holds]
  trivial

/-- A document is plain, and much less deep than what can be read. -/
theorem Document.plain_encode
    (d : Document) :
    d.encode.Plain Json.depthLimit := by
  refine ⟨by decide, Json.plainMembers_iff.mpr ?_⟩
  intro member inside
  obtain ⟨kind, -, rfl⟩ := List.mem_map.mp inside
  refine Json.plain_array_map (by decide) (fun e => ?_) _
  rw [e.encode_eq]
  exact (e.onlyTexts_ownMembers.append e.onlyTexts_flattened).plain (by decide)

/-- A document is read as it was written. -/
theorem Document.ofText_written
    (d : Document) :
    Document.ofText (d.text.toList.map .char) = .ok d := by
  obtain ⟨tree, shows, reads⟩ := Json.exists_readTree_write d.plain_encode
  have written : d.text.toList = Json.write d.encode := String.toList_ofList
  rw [Document.ofText, written, reads]
  simp only [readDocument_of_shows .text shows]
  rfl

/--
A document that has been written is always read again: as the document it was if none of its
entries has a problem, and else as a document that is refused for the problems it has.
-/
theorem Snapshot.ofText_text
    (d : Document) :
    (Snapshot.ofText d.text.toList =
        if valid : d.valid = true then .ok (.ofDocument d valid)
        else .error (.invalid d.problems)) ∧
      (d.valid = true ↔ ∀ e ∈ d.entries, e.problems = []) := by
  refine ⟨?_, d.valid_iff⟩
  rw [ofText, ofSymbols, d.ofText_written]
  rfl

end Notary.Config
