import Notary.Proofs.Config.Acceptance
import Notary.Proofs.Config.Lookup
import Notary.Secret.Verify

namespace Notary.Config

/-!
# What a valid configuration guarantees

The checks of entries and those who use the entries agree on what is blank, where
lists are split and where the hashes of a secret begin and end. So whatever a lookup
in an accepted snapshot yields can be used as it is.
-/

/-- A required text is in order unless it is blank. -/
theorem requireText_eq_nil_iff
    (field value : String) :
    requireText field value = [] ↔ Text.blank value = false := by
  unfold requireText
  cases Text.blank value <;> simp

/-- The items of a list have no problem exactly when none of them is blank. -/
theorem any_isEmpty_commaList_eq_false_iff
    (raw : String) :
    (Text.commaList raw).any String.isEmpty = false ↔
      ∀ item ∈ Text.commaList raw, Text.blank item = false := by
  rw [List.any_eq_false]
  constructor
  · intro filled item member
    rw [Bool.eq_false_iff]
    intro blank
    exact filled item member (Text.isEmpty_of_mem_commaList_of_blank member blank)
  · intro filled item member empty
    have blank : Text.blank item = true := by
      rw [String.isEmpty_iff.mp empty]
      rfl
    rw [filled item member] at blank
    cases blank

/-- A list has no problem exactly when it has items as required and none of them is blank. -/
theorem checkList_eq_nil_iff
    (field raw : String)
    (required : Bool) :
    checkList field raw required = [] ↔
      (required = true → Text.commaList raw ≠ []) ∧
        ∀ item ∈ Text.commaList raw, Text.blank item = false := by
  rw [← any_isEmpty_commaList_eq_false_iff]
  simp only [checkList]
  cases (Text.commaList raw).any String.isEmpty <;> cases required <;> simp

/-- Signing parameters in which no text that signing depends on is blank. -/
structure SigningParameters.Filled (p : SigningParameters) : Prop where
  certificate : Text.blank p.certificate = false
  password : Text.blank p.password = false
  digestAlgorithm : Text.blank p.digestAlgorithm = false
  canonicalisationAlgorithm : Text.blank p.canonicalisationAlgorithm = false

/-- Signing parameters without problems have all that a signature needs. -/
theorem SigningParameters.filled_of_problems
    {p : SigningParameters}
    (sound : p.problems = []) :
    p.Filled := by
  simp only [problems, List.append_eq_nil_iff, requireText_eq_nil_iff] at sound
  obtain ⟨⟨⟨certificate, password⟩, digestAlgorithm⟩, canonicalisationAlgorithm⟩ := sound
  exact ⟨certificate, password, digestAlgorithm, canonicalisationAlgorithm⟩

/-- Parameters of a validation with rules, and without blank items. -/
structure ValidationParameters.Listed (p : ValidationParameters) : Prop where
  rules : p.ruleList ≠ []
  rule : ∀ item ∈ p.ruleList, Text.blank item = false
  metadatum : ∀ item ∈ p.metadataList, Text.blank item = false

/-- Validation parameters without problems list their rules, and no item of the list is blank. -/
theorem ValidationParameters.listed_of_problems
    {p : ValidationParameters}
    (sound : p.problems = []) :
    p.Listed := by
  simp only [problems, List.append_eq_nil_iff, checkList_eq_nil_iff] at sound
  obtain ⟨⟨rules, rule⟩, -, metadatum⟩ := sound
  exact ⟨rules trivial, rule, metadatum⟩

/-- A configured secret whose hashes can all be read. -/
def Readable (secret : Option String) : Prop :=
  ∀ text, secret = some text →
    ∀ token ∈ Text.wordsOf text, ∃ hash, Secret.StoredHash.parse token = .ok hash

/-- The hashes of a secret without problems can be read. -/
theorem readable_of_checkSecret
    {secret : Option String}
    (sound : checkSecret secret = []) :
    Readable secret := by
  rintro text rfl token member
  have unproblematic := List.filterMap_eq_nil_iff.mp sound token member
  cases parsed : Secret.StoredHash.parse token with
  | ok hash =>
      exact ⟨hash, rfl⟩
  | error fault =>
      simp only [parsed] at unproblematic
      cases unproblematic

/-- Hashes that can be read are not skipped. -/
theorem skipped_holdAgainst_of_readable
    {tokens : List String}
    (readable : ∀ token ∈ tokens, ∃ hash, Secret.StoredHash.parse token = .ok hash)
    (candidate : String) :
    (Secret.holdAgainst Secret.verifier candidate tokens).skipped = [] := by
  induction tokens with
  | nil =>
      rfl
  | cons token rest inductionHypothesis =>
      obtain ⟨⟨hash, parsed⟩, readableRest⟩ := List.forall_mem_cons.mp readable
      have read : Secret.verifier.read token = .ok hash := parsed
      simp only [Secret.holdAgainst, read]
      split
      · rfl
      · exact inductionHypothesis readableRest

/-- Whatever a caller presents, no hash of a readable secret is skipped. -/
theorem Readable.skipped_verdict
    {secret : Option String}
    (readable : Readable secret)
    (candidate : Option String) :
    (Secret.verdict Secret.verifier secret candidate).skipped = [] := by
  cases secret with
  | none =>
      rfl
  | some text =>
      simp only [Secret.verdict]
      split
      · rfl
      · cases candidate with
        | none =>
            rfl
        | some candidate =>
            exact skipped_holdAgainst_of_readable (readable text rfl) candidate

/-- A snapshot that comes from a configuration text. -/
def Snapshot.Accepted (s : Snapshot) : Prop :=
  ∃ text, Snapshot.ofText text = .ok s

/-- What is loaded from a file is accepted. -/
theorem Snapshot.accepted_of_load
    {file : File}
    {s : Snapshot}
    (loads : Snapshot.load file = .ok s) :
    s.Accepted := by
  unfold load at loads
  cases reading : file.read with
  | error fault =>
      simp [reading] at loads
  | ok text =>
      rw [reading] at loads
      exact ⟨text, loads⟩

/-- An accepted snapshot is prepared from its document. -/
theorem Snapshot.Accepted.eq_ofDocument
    {s : Snapshot}
    (accepted : s.Accepted) :
    s = .ofDocument s.document s.valid := by
  obtain ⟨text, loads⟩ := accepted
  unfold ofText ofSymbols at loads
  split at loads
  · cases loads
  · unfold ofDocument? at loads
    split at loads
    · cases loads
      rfl
    · cases loads

/-- The first entry of an id in a document has that id and is one of its entries. -/
theorem Document.mem_of_first?
    {document : Document}
    {kind : Kind}
    {id : String}
    {entry : Entry}
    (found : document.first? kind id = some entry) :
    entry ∈ document.entries ∧ entry.id = id := by
  have searched : (document.collection kind).find? (·.id = id) = some entry := by
    cases kind with
    | ca =>
        cases found
    | _ =>
        exact found
  have listed : kind ∈ Kind.all := by
    cases kind <;> decide
  constructor
  · exact List.mem_flatMap.mpr ⟨kind, listed, List.mem_of_find?_eq_some searched⟩
  · simpa using List.find?_some searched

/-- What a lookup in an accepted snapshot yields has the id and no problem. -/
theorem Snapshot.Accepted.problems_of_entry?
    {s : Snapshot}
    (accepted : s.Accepted)
    {kind : Kind}
    {id : String}
    {entry : Entry}
    (found : s.entry? kind id = some entry) :
    entry.id = id ∧ entry.problems = [] := by
  rw [accepted.eq_ofDocument, Snapshot.find_ofDocument] at found
  obtain ⟨member, same⟩ := Document.mem_of_first? found
  exact ⟨same, (Document.valid_iff s.document).mp s.valid entry member⟩

/-- What a snapshot guarantees to those who look configurations up in it. -/
structure Snapshot.Vetted (s : Snapshot) : Prop where
  /-- Its document passed validation. -/
  checked : s.document.problems = []
  blank : ∀ kind id, Text.blank id = true → s.entry? kind id = none
  signature : ∀ id entry, s.signature? id = some entry → entry.parameters.Filled
  proof : ∀ id entry, s.proof? id = some entry → entry.parameters.Filled
  signatureVerification :
    ∀ id entry, s.signatureVerification? id = some entry → entry.parameters.Listed
  certificateVerification :
    ∀ id entry, s.certificateVerification? id = some entry → entry.parameters.Listed
  secret : ∀ id entry, s.signature? id = some entry → Readable entry.secret
  /-- Whatever secret a caller presents, no hash is skipped. -/
  skipped :
    ∀ id entry, s.signature? id = some entry →
      ∀ candidate, (Secret.verdict Secret.verifier entry.secret candidate).skipped = []

namespace Snapshot.Accepted

variable
    {s : Snapshot}
    {id : String}

/-- What a lookup in an accepted snapshot yields has no problem beside those of its id. -/
theorem ownProblems_of_entry?
    (accepted : s.Accepted)
    {kind : Kind}
    {entry : Entry}
    (found : s.entry? kind id = some entry) :
    entry.ownProblems = [] := by
  have sound := (accepted.problems_of_entry? found).2
  rw [Entry.problems, List.append_eq_nil_iff] at sound
  exact sound.2

/-- An accepted snapshot has no entry for a blank id. -/
theorem entry?_of_blank
    (accepted : s.Accepted)
    (kind : Kind)
    (blank : Text.blank id = true) :
    s.entry? kind id = none := by
  cases found : s.entry? kind id with
  | none =>
      rfl
  | some entry =>
      obtain ⟨same, sound⟩ := accepted.problems_of_entry? found
      rw [Entry.problems, List.append_eq_nil_iff, requireText_eq_nil_iff, same, blank] at sound
      cases sound.1

/-- A signing configuration of an accepted snapshot is filled, and its secret readable. -/
theorem of_signature?
    (accepted : s.Accepted)
    {entry : SigningEntry}
    (found : s.signature? id = some entry) :
    entry.parameters.Filled ∧ Readable entry.secret := by
  have listed : s.entry? .signature id = some (.signature entry) :=
    congrArg (Option.map Entry.signature) found
  have sound := accepted.ownProblems_of_entry? listed
  simp only [Entry.ownProblems, List.append_eq_nil_iff] at sound
  obtain ⟨⟨-, parameters⟩, secret⟩ := sound
  exact ⟨SigningParameters.filled_of_problems parameters, readable_of_checkSecret secret⟩

/-- Proofs are signed with parameters that were checked. -/
theorem of_proof?
    (accepted : s.Accepted)
    {entry : ProofEntry}
    (found : s.proof? id = some entry) :
    entry.parameters.Filled := by
  have listed : s.entry? .proof id = some (.proof entry) :=
    congrArg (Option.map Entry.proof) found
  exact SigningParameters.filled_of_problems (accepted.ownProblems_of_entry? listed)

/-- Signatures are validated with parameters that were checked. -/
theorem of_signatureVerification?
    (accepted : s.Accepted)
    {entry : VerificationEntry}
    (found : s.signatureVerification? id = some entry) :
    entry.parameters.Listed := by
  have listed : s.entry? .signatureVerification id = some (.signatureVerification entry) :=
    congrArg (Option.map Entry.signatureVerification) found
  exact ValidationParameters.listed_of_problems (accepted.ownProblems_of_entry? listed)

/-- Certificates are validated with parameters that were checked. -/
theorem of_certificateVerification?
    (accepted : s.Accepted)
    {entry : VerificationEntry}
    (found : s.certificateVerification? id = some entry) :
    entry.parameters.Listed := by
  have listed : s.entry? .certificateVerification id = some (.certificateVerification entry) :=
    congrArg (Option.map Entry.certificateVerification) found
  exact ValidationParameters.listed_of_problems (accepted.ownProblems_of_entry? listed)

/-- Whatever an accepted snapshot finds for an id was checked before. -/
theorem vetted
    (accepted : s.Accepted) :
    s.Vetted where
  checked := List.isEmpty_iff.mp s.valid
  blank kind _ := accepted.entry?_of_blank kind
  signature _ _ found := (accepted.of_signature? found).1
  proof _ _ found := accepted.of_proof? found
  signatureVerification _ _ found := accepted.of_signatureVerification? found
  certificateVerification _ _ found := accepted.of_certificateVerification? found
  secret _ _ found := (accepted.of_signature? found).2
  skipped _ _ found := (accepted.of_signature? found).2.skipped_verdict

end Snapshot.Accepted

end Notary.Config
