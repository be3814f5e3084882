import Notary.Proofs.Config.RoundTrip
import Notary.Proofs.Config.Validity
import Notary.Proofs.Secret.FreshSecret
import Notary.Proofs.Workflow.Checks

namespace Notary

/-!
# Secrets influence nothing but their verdict

Two requests that differ in the caller's secret alone, and two valid configurations that
differ in configured secrets alone, make a workflow go on as the same tree once it has the
snapshot, provided that the secrets compare alike. No branch of the tree can therefore tell
them apart, and neither can a run.
-/

open Config (Document SigningEntry Snapshot)

/-- A signing configuration without its secret. -/
def Config.SigningEntry.withoutSecret (e : SigningEntry) : SigningEntry :=
  { e with secret := none }

/-- A configuration document whose signing configurations have no secrets. -/
def Config.Document.withoutSecrets (d : Document) : Document :=
  { d with signature := d.signature.map SigningEntry.withoutSecret }

/-- A request without its secret. -/
def Request.withoutSecret (r : Request) : Request :=
  { r with secret := none }

/-- Requests that differ in the secret only are one with the secret of the other put in. -/
theorem Request.eq_of_withoutSecret
    {r₁ r₂ : Request}
    (same : r₁.withoutSecret = r₂.withoutSecret) :
    r₂ = { r₁ with secret := r₂.secret } := by
  rcases r₁ with ⟨⟩
  rcases r₂ with ⟨⟩
  cases same
  rfl

namespace Config

/-- A valid document is accepted: as it is written. -/
theorem Snapshot.accepted_ofDocument
    {d : Document}
    (valid : d.valid = true) :
    (Snapshot.ofDocument d valid).Accepted := by
  refine ⟨d.text.toList, ?_⟩
  rw [ofText, ofSymbols, d.ofText_written]
  exact dif_pos valid

variable
    {d₁ d₂ : Document}
    (valid₁ : d₁.valid = true)
    (valid₂ : d₂.valid = true)
    (same : d₁.withoutSecrets = d₂.withoutSecrets)

include same

theorem proof?_of_withoutSecrets :
    (Snapshot.ofDocument d₁ valid₁).proof? = (Snapshot.ofDocument d₂ valid₂).proof? := by
  have collection : d₁.proof = d₂.proof :=
    (congrArg Document.proof same :)
  funext id
  simp only [Snapshot.proof?, Snapshot.ofDocument, collection]

theorem signatureVerification?_of_withoutSecrets :
    (Snapshot.ofDocument d₁ valid₁).signatureVerification? =
      (Snapshot.ofDocument d₂ valid₂).signatureVerification? := by
  have collection : d₁.signatureVerification = d₂.signatureVerification :=
    (congrArg Document.signatureVerification same :)
  funext id
  simp only [Snapshot.signatureVerification?, Snapshot.ofDocument, collection]

theorem certificateVerification?_of_withoutSecrets :
    (Snapshot.ofDocument d₁ valid₁).certificateVerification? =
      (Snapshot.ofDocument d₂ valid₂).certificateVerification? := by
  have collection : d₁.certificateVerification = d₂.certificateVerification :=
    (congrArg Document.certificateVerification same :)
  funext id
  simp only [Snapshot.certificateVerification?, Snapshot.ofDocument, collection]

/-- The signing configurations of an id differ in their secrets at most. -/
theorem signature?_of_withoutSecrets
    (id : String) :
    ((Snapshot.ofDocument d₁ valid₁).signature? id).map SigningEntry.withoutSecret =
      ((Snapshot.ofDocument d₂ valid₂).signature? id).map SigningEntry.withoutSecret := by
  have collection :
      d₁.signature.map SigningEntry.withoutSecret = d₂.signature.map SigningEntry.withoutSecret :=
    congrArg Document.signature same
  have first (d : Document) (valid : d.valid = true) :
      ((Snapshot.ofDocument d valid).signature? id).map SigningEntry.withoutSecret =
        (d.signature.map SigningEntry.withoutSecret).find? (·.id = id) := by
    rw [List.find?_map]
    exact congrArg (Option.map SigningEntry.withoutSecret)
      (getElem?_of_get?_ofIds d.signature (·.id) id)
  rw [first, first, collection]

end Config

namespace Program

variable
    {α β : Type}

/-- How a program goes on when it is handed a snapshot first of all. -/
def given (s : Snapshot) : Program α → Program α
  | .read next => next s
  | program => program

/-- What follows a program that reads first has no snapshot to take. -/
theorem given_bind
    {program : Program α}
    {taken : Snapshot → Program α}
    (reads : program = .read taken)
    (next : α → Program β)
    (s : Snapshot) :
    (program >>= next).given s = program.given s >>= next := by
  subst reads
  rfl

/-- Reading the snapshot in advance changes nothing about a run on it. -/
theorem runOn_given
    (program : Program α)
    (s : Snapshot)
    (engine : Engine)
    (history : List Call) :
    (program.given s).runOn s engine history = program.runOn s engine history := by
  cases program <;> rfl

/-- A program that does not read the store runs the same whatever is published. -/
theorem runOn_of_readFree
    {program : Program α}
    (readFree : program.ReadFree)
    (s₁ s₂ : Snapshot)
    (engine : Engine)
    (history : List Call) :
    program.runOn s₁ engine history = program.runOn s₂ engine history := by
  induction program generalizing history with
  | done value =>
      rfl
  | rejected rejection =>
      rfl
  | note n rest inductionHypothesis =>
      rw [runOn, runOn, inductionHypothesis readFree]
  | read next inductionHypothesis =>
      exact readFree.elim
  | look rest inductionHypothesis =>
      exact inductionHypothesis () readFree history
  | ask call next inductionHypothesis =>
      simp only [runOn]
      cases (engine.reply history call).outcome with
      | answered answer =>
          simp only [inductionHypothesis answer (readFree answer)]
      | failed failure =>
          rfl
      | crashed =>
          rfl

end Program

/-! ## Guards -/

/-- Resolving goes on alike when it goes on alike with whatever is found. -/
theorem Guard.resolve_bind_eq
    {α β : Type}
    {kind : Config.Kind}
    {id : Option String}
    {lookup₁ lookup₂ : String → Option α}
    {next₁ next₂ : α → Program β}
    (alike : ∀ name, id = some name → (lookup₁ name).map next₁ = (lookup₂ name).map next₂) :
    Guard.resolve kind id lookup₁ >>= next₁ = Guard.resolve kind id lookup₂ >>= next₂ := by
  cases id with
  | none =>
      rfl
  | some name =>
      have found := alike name rfl
      refine congrArg Program.look (funext fun _ => ?_)
      cases found₁ : lookup₁ name with
      | none =>
          cases found₂ : lookup₂ name with
          | none =>
              rfl
          | some entry₂ =>
              rw [found₁, found₂] at found
              cases found
      | some entry₁ =>
          cases found₂ : lookup₂ name with
          | none =>
              rw [found₁, found₂] at found
              cases found
          | some entry₂ =>
              rw [found₁, found₂] at found
              exact Option.some.inj found

/-- With readable secrets, the guard depends on their verdict alone. -/
theorem Guard.checkSecret_eq
    {enforced : Bool}
    {e₁ e₂ : SigningEntry}
    {candidate₁ candidate₂ : Option String}
    (sameId : e₁.id = e₂.id)
    (readable₁ : Config.Readable e₁.secret)
    (readable₂ : Config.Readable e₂.secret)
    (alike : enforced = true →
      (Secret.verdict Secret.verifier e₁.secret candidate₁).rejects =
        (Secret.verdict Secret.verifier e₂.secret candidate₂).rejects) :
    Guard.checkSecret enforced e₁ candidate₁ = Guard.checkSecret enforced e₂ candidate₂ := by
  cases enforced with
  | false =>
      rfl
  | true =>
      simp only [Guard.checkSecret, readable₁.skipped_verdict, readable₂.skipped_verdict,
        alike rfl, sameId]

namespace Workflow

/-- Whether the configured secret of the signing configuration that a request names rejects it. -/
def secretRejects? (s : Snapshot) (r : Request) : Option Bool :=
  (signer? s r).map fun e => (Secret.verdict Secret.verifier e.secret r.secret).rejects

section Given

variable
    {d₁ d₂ : Document}
    {valid₁ : d₁.valid = true}
    {valid₂ : d₂.valid = true}
    {setup : Setup}
    {r : Request}
    {c₁ c₂ : Option String}

/-- Whoever goes on alike without secrets goes on alike with what is found for an id. -/
theorem map_signature?_eq
    {α : Type}
    {next₁ next₂ : SigningEntry → α}
    {name : String}
    (same : d₁.withoutSecrets = d₂.withoutSecrets)
    (alike : setup.secretsEnforced = true →
      secretRejects? (.ofDocument d₁ valid₁) { r with secret := c₁ } =
        secretRejects? (.ofDocument d₂ valid₂) { r with secret := c₂ })
    (named : r.signingId = some name)
    (rest : ∀ e₁ e₂, e₁.withoutSecret = e₂.withoutSecret →
      Guard.checkSecret setup.secretsEnforced e₁ c₁ =
          Guard.checkSecret setup.secretsEnforced e₂ c₂ →
        next₁ e₁ = next₂ e₂) :
    ((Snapshot.ofDocument d₁ valid₁).signature? name).map next₁ =
      ((Snapshot.ofDocument d₂ valid₂).signature? name).map next₂ := by
  have sameEntry := Config.signature?_of_withoutSecrets valid₁ valid₂ same name
  cases found₁ : (Snapshot.ofDocument d₁ valid₁).signature? name with
  | none =>
      rw [found₁, Option.map_none, eq_comm, Option.map_eq_none_iff] at sameEntry
      rw [sameEntry]
      rfl
  | some e₁ =>
      rw [found₁, Option.map_some, eq_comm, Option.map_eq_some_iff] at sameEntry
      obtain ⟨e₂, found₂, stripped⟩ := sameEntry
      have readable₁ := ((Config.Snapshot.accepted_ofDocument valid₁).of_signature? found₁).2
      have readable₂ := ((Config.Snapshot.accepted_ofDocument valid₂).of_signature? found₂).2
      have sameVerdict :
          setup.secretsEnforced = true →
            (Secret.verdict Secret.verifier e₁.secret c₁).rejects =
              (Secret.verdict Secret.verifier e₂.secret c₂).rejects := by
        intro enforced
        have verdicts := alike enforced
        simp only [secretRejects?, signer?, named, Option.bind_some, found₁, found₂,
          Option.map_some, Option.some.injEq] at verdicts
        exact verdicts
      have sameId : e₁.id = e₂.id := (congrArg SigningEntry.id stripped.symm :)
      rw [found₂, Option.map_some, Option.map_some,
        rest e₁ e₂ stripped.symm (Guard.checkSecret_eq sameId readable₁ readable₂ sameVerdict)]

/-- Once they have the snapshot, workflows go on alike if secrets compare alike. -/
theorem given_steps_eq
    (w : Workflow)
    (same : d₁.withoutSecrets = d₂.withoutSecrets)
    (alike : w.signs = true → setup.secretsEnforced = true →
      secretRejects? (.ofDocument d₁ valid₁) { r with secret := c₁ } =
        secretRejects? (.ofDocument d₂ valid₂) { r with secret := c₂ }) :
    (w.steps setup { r with secret := c₁ }).given (.ofDocument d₁ valid₁) =
      (w.steps setup { r with secret := c₂ }).given (.ofDocument d₂ valid₂) := by
  have proof := Config.proof?_of_withoutSecrets valid₁ valid₂ same
  have verification := Config.signatureVerification?_of_withoutSecrets valid₁ valid₂ same
  have certificate := Config.certificateVerification?_of_withoutSecrets valid₁ valid₂ same
  cases w with
  | sign profile =>
      refine Guard.resolve_bind_eq fun name named =>
        map_signature?_eq same (alike rfl) named fun e₁ e₂ stripped checks => ?_
      rcases e₁ with ⟨⟩
      rcases e₂ with ⟨⟩
      cases stripped
      simp only [checks]
  | signWithProof profile =>
      refine Guard.resolve_bind_eq fun name named =>
        map_signature?_eq same (alike rfl) named fun e₁ e₂ stripped checks => ?_
      rcases e₁ with ⟨⟩
      rcases e₂ with ⟨⟩
      cases stripped
      simp only [checks, verification, proof]
      rfl
  | validate profile =>
      refine Guard.resolve_bind_eq fun name _ => ?_
      rw [verification]
  | validateWithProof profile =>
      refine Guard.resolve_bind_eq fun name _ => ?_
      simp only [verification, proof]
      rfl
  | validateCertificate =>
      refine Guard.resolve_bind_eq fun name _ => ?_
      rw [certificate]
  | validateCertificateWithProof =>
      refine Guard.resolve_bind_eq fun name _ => ?_
      simp only [certificate, proof]
      rfl

end Given

/-- Every workflow starts by reading the snapshot. -/
theorem exists_steps_eq_read
    (setup : Setup)
    (r : Request)
    (w : Workflow) :
    ∃ taken, w.steps setup r = .read taken := by
  cases w <;> exact ⟨_, rfl⟩

theorem given_program_eq
    (setup : Setup)
    (r : Request)
    (w : Workflow)
    (s : Snapshot) :
    (w.program setup r).given s =
      ((w.steps setup r).given s >>= fun report => do
        .say (.event (.workflowCompleted w.name w.path))
        return report) := by
  obtain ⟨taken, reads⟩ := exists_steps_eq_read setup r w
  exact Program.given_bind reads _ s

/-- After its snapshot a workflow reads no other. -/
theorem readFree_given_program
    (setup : Setup)
    (r : Request)
    (w : Workflow)
    (s : Snapshot) :
    ((w.program setup r).given s).ReadFree := by
  obtain ⟨taken, reads, guarded⟩ := program_readsFirst setup w r
  rw [reads]
  exact (guarded s).readFree

/--
Take two requests that differ in the caller's secret alone, and two valid documents that
differ in the secrets of signing configurations alone. Unless secrets are compared and come
to different verdicts, both runs of a workflow end alike, make the same calls, and note the
same.
-/
theorem run_keepsSecrets
    {d₁ d₂ : Document}
    {r₁ r₂ : Request}
    (w : Workflow)
    (setup : Setup)
    (engine : Engine)
    (history : List Call)
    (valid₁ : d₁.valid = true)
    (valid₂ : d₂.valid = true)
    (sameDocument : d₁.withoutSecrets = d₂.withoutSecrets)
    (sameRequest : r₁.withoutSecret = r₂.withoutSecret)
    (alike :
      w.signs = false ∨ setup.secretsEnforced = false ∨
        secretRejects? (.ofDocument d₁ valid₁) r₁ = secretRejects? (.ofDocument d₂ valid₂) r₂) :
    (w.program setup r₁).runOn (.ofDocument d₁ valid₁) engine history =
      (w.program setup r₂).runOn (.ofDocument d₂ valid₂) engine history := by
  have alike :
      w.signs = true → setup.secretsEnforced = true →
        secretRejects? (.ofDocument d₁ valid₁) r₁ = secretRejects? (.ofDocument d₂ valid₂) r₂ := by
    intro signs enforced
    simpa [signs, enforced] using alike
  rw [Request.eq_of_withoutSecret sameRequest] at alike ⊢
  have sameTree :
      (w.program setup r₁).given (.ofDocument d₁ valid₁) =
        (w.program setup { r₁ with secret := r₂.secret }).given (.ofDocument d₂ valid₂) := by
    rw [given_program_eq, given_program_eq, ← given_steps_eq w sameDocument alike]
  rw [← Program.runOn_given, ← Program.runOn_given _ (.ofDocument d₂ valid₂), sameTree]
  exact Program.runOn_of_readFree (readFree_given_program setup _ w _) _ _ engine history

end Workflow

namespace Rehearsal

/-- The configuration with a secret in its signing configuration. -/
def guardedBy (secret : String) : Document :=
  { document with signature := [⟨"1", "2", some secret, none, parameters "sign.p12"⟩] }

theorem withoutSecrets_guardedBy
    (first second : String) :
    (guardedBy first).withoutSecrets = (guardedBy second).withoutSecrets := by
  rfl

/-- A secret without problems leaves the configuration valid. -/
theorem valid_guardedBy
    {secret : String}
    (sound : Config.checkSecret (some secret) = []) :
    (guardedBy secret).valid = true := by
  have others : ∀ entry ∈ document.entries, entry.problems = [] :=
    document.valid_iff.mp snapshot.valid
  have signer :
      (Config.Entry.signature
        ⟨"1", "2", some secret, none, parameters "sign.p12"⟩).problems = [] := by
    rw [Config.Entry.problems, Config.Entry.ownProblems, sound]
    exact others _ (List.mem_cons_self)
  refine (guardedBy secret).valid_iff.mpr fun entry listed => ?_
  rcases List.mem_cons.mp listed with rfl | listed
  · exact signer
  · exact others entry (List.mem_cons_of_mem _ listed)

/-- A secret to be hashed, with its salt. -/
def river : Secret.Draw :=
  ⟨List.replicate 16 7, "river", rfl, by decide⟩

/-- Another one. -/
def stone : Secret.Draw :=
  ⟨List.replicate 16 9, "stone", rfl, by decide⟩

/-- A single hash is a secret made of one word. -/
theorem spaced_hash
    (draw : Secret.Draw) :
    Text.Spaced (([draw].map fun draw => draw.hash.text).map String.toList)
      draw.hash.text.toList :=
  .single _

/-- The document guarded by a fresh hash is valid. -/
theorem valid_guardedBy_hash
    (draw : Secret.Draw) :
    (guardedBy draw.hash.text).valid = true :=
  valid_guardedBy (Secret.checkSecret_of_spaced (spaced_hash draw))

/-- The secret that was hashed is not rejected. -/
theorem secretRejects?_guardedBy_hash
    (draw : Secret.Draw) :
    Workflow.secretRejects? (.ofDocument (guardedBy draw.hash.text) (valid_guardedBy_hash draw))
        { request with secret := some draw.plain } =
      some false := by
  have verdict := Secret.verdict_of_mem (spaced_hash draw) (List.mem_singleton_self draw)
  exact congrArg (fun verdict => some verdict.rejects) verdict

/-- Signing with the hash of a secret, for a caller who presents that secret. -/
def signAs (draw : Secret.Draw) : Run WorkflowReport :=
  ((Workflow.sign .xades).program setup { request with secret := some draw.plain }).runOn
    (.ofDocument (guardedBy draw.hash.text) (valid_guardedBy_hash draw)) engine []

end Rehearsal

/-- Signing goes alike with two hashes for two callers, each of whom knows the secret. -/
theorem Workflow.run_keepsSecrets_two_hashes :
    Rehearsal.signAs Rehearsal.river = Rehearsal.signAs Rehearsal.stone := by
  have first := Rehearsal.secretRejects?_guardedBy_hash Rehearsal.river
  have second := Rehearsal.secretRejects?_guardedBy_hash Rehearsal.stone
  exact run_keepsSecrets (sign .xades) Rehearsal.setup Rehearsal.engine [] _ _
    (Rehearsal.withoutSecrets_guardedBy _ _) rfl (.inr (.inr (first.trans second.symm)))

end Notary
