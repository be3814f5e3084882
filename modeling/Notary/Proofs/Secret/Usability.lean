import Notary.Proofs.Config.Validity
import Notary.Proofs.Secret.Matching
import Notary.Workflow.Guard

namespace Notary.Secret

/-!
# Which validated secrets are of use

Validation asks of each token of a secret that it can be read as a stored hash, and of
nothing else. Whether it can be verified against depends on more: its algorithm, version and
parameters, and a salt and a digest, all of which a stored hash may lack. A hash that has
them refuses a caller only for a digest that differs; one that has not refuses everybody.
-/

open Digest

/-- The costs among the settings of a digest. -/
def costsOf (s : Argon2.Settings) : Costs :=
  ⟨s.memory, s.passes, s.lanes, s.associated⟩

/-- A stored hash that has everything for a recipe. -/
structure StoredHash.Usable (h : StoredHash) (r : Recipe) : Prop where
  algorithm : variant? h.algorithm = some r.settings.variant
  version : version? h.version = some r.settings.version
  parameters : h.parameters.foldlM Costs.set? Costs.default = some (costsOf r.settings)
  admissible : (costsOf r.settings).admissible = true
  salt : h.salt.bind Text.Base64.decodeUnpadded? = some r.salt
  long : 8 ≤ r.salt.length
  output : h.output = some r.output
  size : r.settings.size = r.output.length

variable
    {h : StoredHash}
    {r : Recipe}

/-- The recipe of a hash is the one that it has everything for. -/
theorem recipe?_eq_some_iff :
    h.recipe? = some r ↔ h.Usable r := by
  constructor
  · intro found
    simp only [StoredHash.recipe?, bind, Option.bind_eq_some_iff] at found
    obtain ⟨written, hasSalt, output, hasOutput, costs, taken, variant, named, version,
      supported, salt, decoded, found⟩ := found
    split at found
    · next enough =>
        cases found
        rw [Bool.and_eq_true, decide_eq_true_eq] at enough
        have hasSaltBytes : h.salt.bind Text.Base64.decodeUnpadded? = some salt := by
          rw [hasSalt]
          exact decoded
        exact ⟨named, supported, taken, enough.1, hasSaltBytes, enough.2, hasOutput, rfl⟩
    · cases found
  · intro usable
    obtain ⟨written, hasSalt, decoded⟩ := Option.bind_eq_some_iff.mp usable.salt
    have enough : ((costsOf r.settings).admissible && decide (8 ≤ r.salt.length)) = true := by
      rw [usable.admissible, decide_eq_true usable.long]
      rfl
    simp only [StoredHash.recipe?, hasSalt, usable.output, usable.parameters, usable.algorithm,
      usable.version, decoded, bind, Option.bind_some, if_pos enough, ← usable.size]
    rfl

/-- A usable hash refuses a candidate only because the digest of the candidate differs. -/
theorem StoredHash.Usable.verifies_iff
    (usable : h.Usable r)
    (candidate : String) :
    h.verifies candidate = true ↔
      Argon2.hash r.settings candidate.toUTF8.toList r.salt = r.output := by
  rw [StoredHash.verifies, recipe?_eq_some_iff.mpr usable]
  exact beq_iff_eq

/-- A hash that is not usable refuses every candidate. -/
theorem verifies_of_not_usable
    (useless : ∀ r, ¬ h.Usable r)
    (candidate : String) :
    h.verifies candidate = false := by
  cases found : h.recipe? with
  | none =>
      rw [StoredHash.verifies, found]
  | some r =>
      exact absurd (recipe?_eq_some_iff.mp found) (useless r)

section Tokens

variable
    {token : String}
    (reads : StoredHash.parse token = .ok h)

include reads

/-- A token accepts the candidates that its hash is verified against. -/
theorem accepts_iff
    (candidate : String) :
    verifier.Accepts token candidate ↔ h.verifies candidate = true := by
  constructor
  · rintro ⟨hash, readsHash, verified⟩
    obtain rfl := Except.ok.inj (reads.symm.trans readsHash)
    exact verified
  · intro verified
    exact ⟨h, reads, verified⟩

theorem unusable_of_not_usable
    (useless : ∀ r, ¬ h.Usable r) :
    verifier.Unusable token := by
  intro candidate accepted
  have verified := (accepts_iff reads candidate).mp accepted
  rw [verifies_of_not_usable useless] at verified
  cases verified

end Tokens

/-- A readable secret of which no token is usable refuses every caller. -/
theorem checkSecret_of_useless
    {entry : Config.SigningEntry}
    {text : String}
    (configured : entry.secret = some text)
    (reads : ∀ token, Holds text token → ∃ hash, StoredHash.parse token = .ok hash)
    (held : ∃ token, Holds text token)
    (useless :
      ∀ token hash, Holds text token → StoredHash.parse token = .ok hash →
        ∀ recipe, ¬ hash.Usable recipe)
    (candidate : Option String) :
    Guard.checkSecret true entry candidate = .refuse (.secretRefused entry.id) .unauthorized := by
  have readable : Config.Readable entry.secret := by
    intro other same token inside
    obtain rfl := Option.some.inj (configured.symm.trans same)
    exact reads token ((mem_wordsOf_iff token text).mp inside)
  have rejects : (verdict verifier entry.secret candidate).rejects = true := by
    rw [configured, rejects_verdict_some_iff]
    refine ⟨held, fun presented _ token inside => ?_⟩
    obtain ⟨hash, readsHash⟩ := reads token inside
    exact unusable_of_not_usable readsHash (useless token hash inside readsHash) presented
  have skipped := readable.skipped_verdict candidate
  rw [Guard.checkSecret, if_pos rfl]
  simp only [skipped, rejects]
  rfl

/-- What validation of a secret amounts to, and what it leaves open. -/
structure Screened (entry : Config.SigningEntry) (text : String) : Prop where
  /-- Every token is read as a stored hash. -/
  reads : ∀ token, Holds text token → ∃ hash, StoredHash.parse token = .ok hash
  /-- A token whose hash is usable refuses a candidate only because the digest differs. -/
  usable :
    ∀ token hash recipe, Holds text token → StoredHash.parse token = .ok hash →
      hash.Usable recipe →
        ∀ candidate,
          verifier.Accepts token candidate ↔
            Argon2.hash recipe.settings candidate.toUTF8.toList recipe.salt = recipe.output
  /-- Any other token refuses everybody. -/
  useless :
    ∀ token hash, Holds text token → StoredHash.parse token = .ok hash →
      (∀ recipe, ¬ hash.Usable recipe) → verifier.Unusable token
  /-- Where no token is usable, every caller is refused. -/
  locked :
    (∃ token, Holds text token) →
      (∀ token hash, Holds text token → StoredHash.parse token = .ok hash →
        ∀ recipe, ¬ hash.Usable recipe) →
        ∀ candidate,
          Guard.checkSecret true entry candidate =
            .refuse (.secretRefused entry.id) .unauthorized

/-- The secret of a signing configuration of a valid document is screened. -/
theorem screened_of_valid
    {d : Config.Document}
    {entry : Config.SigningEntry}
    {text : String}
    (valid : d.valid = true)
    (listed : entry ∈ d.signature)
    (configured : entry.secret = some text) :
    Screened entry text := by
  have inside : Config.Entry.signature entry ∈ d.entries :=
    List.mem_flatMap.mpr ⟨.signature, by decide, List.mem_map_of_mem listed⟩
  have sound := d.valid_iff.mp valid _ inside
  simp only [Config.Entry.problems, Config.Entry.ownProblems, List.append_eq_nil_iff] at sound
  obtain ⟨-, -, secretSound⟩ := sound
  have reads (token : String) (held : Holds text token) :
      ∃ hash, StoredHash.parse token = .ok hash :=
    Config.readable_of_checkSecret secretSound text configured token
      ((mem_wordsOf_iff token text).mpr held)
  refine ⟨reads, ?_, ?_, checkSecret_of_useless configured reads⟩
  · intro token hash recipe _ readsHash usable candidate
    rw [accepts_iff readsHash, usable.verifies_iff]
  · intro token hash _ readsHash useless
    exact unusable_of_not_usable readsHash useless

/-- A signing configuration with the given secret. -/
def guardedEntry (secret : String) : Config.SigningEntry :=
  ⟨"s1", "p1", some secret, none,
    ⟨"k.p12", "pw", "SHA256", "c14n", .enveloped, none, none, none, none⟩⟩

/-- A hash without salt and digest. -/
def bareHash : StoredHash :=
  ⟨"argon2id".toList, none, [], none, none⟩

theorem bareHash_not_usable
    (r : Recipe) :
    ¬ bareHash.Usable r := by
  intro usable
  cases usable.output

/-- The recipe of a small hash. -/
def smallRecipe : Recipe where
  settings := ⟨.id, .adding, 8, 1, 1, 10, []⟩
  salt := [0x73, 0x6F, 0x6D, 0x65, 0x73, 0x61, 0x6C, 0x74]
  output := [0x4C, 0x2F, 0x5C, 0x53, 0x0B, 0x51, 0x03, 0x9C, 0x66, 0xB9]

/-- Beside a usable hash, one without a digest is accepted and refuses everybody. -/
theorem screened_of_valid_two_tokens :
    Config.Document.valid
        ⟨[guardedEntry "$argon2id$v=19$m=8,t=1,p=1$c29tZXNhbHQ$TC9cUwtRA5xmuQ\n$argon2id"],
          [], [], [], []⟩ = true ∧
      (∀ candidate,
        verifier.Accepts "$argon2id$v=19$m=8,t=1,p=1$c29tZXNhbHQ$TC9cUwtRA5xmuQ" candidate ↔
          Argon2.hash smallRecipe.settings candidate.toUTF8.toList smallRecipe.salt =
            smallRecipe.output) ∧
      verifier.Unusable "$argon2id" := by
  let small := "$argon2id$v=19$m=8,t=1,p=1$c29tZXNhbHQ$TC9cUwtRA5xmuQ"
  have valid :
      Config.Document.valid
        ⟨[guardedEntry "$argon2id$v=19$m=8,t=1,p=1$c29tZXNhbHQ$TC9cUwtRA5xmuQ\n$argon2id"],
          [], [], [], []⟩ = true := by
    decide
  have screened := screened_of_valid valid (List.mem_singleton_self _) rfl
  have smallUsable :
      StoredHash.Usable
        ⟨"argon2id".toList, some 19,
          [numberParameter 'm' 8, numberParameter 't' 1, numberParameter 'p' 1],
          some "c29tZXNhbHQ".toList, some smallRecipe.output⟩
        smallRecipe := by
    constructor <;> decide
  refine ⟨valid, ?_, ?_⟩
  · exact screened.usable small _ smallRecipe ((mem_wordsOf_iff _ _).mp (by decide)) (by decide)
      smallUsable
  · exact screened.useless "$argon2id" bareHash ((mem_wordsOf_iff _ _).mp (by decide)) (by decide)
      bareHash_not_usable

/-- A hash without salt and digest passes validation, though every caller is refused. -/
theorem bareHash_validated :
    Config.Document.valid ⟨[guardedEntry "$argon2id"], [], [], [], []⟩ = true ∧
      Holds "$argon2id" "$argon2id" ∧
      StoredHash.parse "$argon2id" = .ok bareHash ∧
      (∀ r, ¬ bareHash.Usable r) ∧
      ∀ candidate,
        Guard.checkSecret true (guardedEntry "$argon2id") candidate =
          .refuse (.secretRefused "s1") .unauthorized := by
  have tokens : Text.wordsOf "$argon2id" = ["$argon2id"] := by decide
  have parsed : StoredHash.parse "$argon2id" = .ok bareHash := by decide
  have holds (token : String) : Holds "$argon2id" token ↔ token = "$argon2id" := by
    rw [← mem_wordsOf_iff, tokens, List.mem_singleton]
  refine ⟨by decide, (holds _).mpr rfl, parsed, bareHash_not_usable, ?_⟩
  refine checkSecret_of_useless rfl ?_ ⟨_, (holds _).mpr rfl⟩ ?_
  · intro token held
    rw [(holds token).mp held]
    exact ⟨bareHash, parsed⟩
  · intro token hash held readsHash
    rw [(holds token).mp held, parsed] at readsHash
    obtain rfl := Except.ok.inj readsHash
    exact bareHash_not_usable

end Notary.Secret
