import Notary.Proofs.Workflow.Secrecy

namespace Notary

/-!
# A workflow depends on its own fields and entries alone

Each workflow has its form fields and looks up certain ids. Two requests that carry the
same document and agree on those fields, and two configurations in which the first entries
of the ids looked up are the same, make the workflow go on as the same tree. What else the
requests and the configurations hold makes no difference, and neither does what an engine
lists as authorities.
-/

open Config (Collection Document Kind Snapshot)

/-- A run depends only on the replies to the calls that it makes. -/
theorem Program.runOn_congr
    {α : Type}
    {program : Program α}
    {s : Snapshot}
    {engine₁ engine₂ : Engine}
    {history : List Call}
    (alike : ∀ call ∈ (program.runOn s engine₁ history).calls,
      ∀ earlier, engine₁.reply earlier call = engine₂.reply earlier call) :
    program.runOn s engine₁ history = program.runOn s engine₂ history := by
  induction program generalizing history with
  | done value =>
      rfl
  | rejected rejection =>
      rfl
  | note n rest inductionHypothesis =>
      rw [runOn, runOn, inductionHypothesis alike]
  | read next inductionHypothesis =>
      exact inductionHypothesis s alike
  | look rest inductionHypothesis =>
      exact inductionHypothesis () alike
  | ask call next inductionHypothesis =>
      have sameReply := alike call (by simp [runOn, Run.calling]) history
      cases replied : (engine₁.reply history call).outcome with
      | answered answer =>
          have rest :
              (next answer).runOn s engine₁ (history ++ [call]) =
                (next answer).runOn s engine₂ (history ++ [call]) :=
            inductionHypothesis answer fun later made =>
              alike later (by simp [runOn, Run.calling, Run.noting, replied, made])
          simp only [runOn, ← sameReply, replied, rest]
      | failed failure =>
          simp only [runOn, ← sameReply, replied]
      | crashed =>
          simp only [runOn, ← sameReply, replied]

namespace Workflow

/-- No workflow ever asks for the authorities. -/
theorem listAuthorities_not_mem_calls
    (w : Workflow)
    (setup : Setup)
    (r : Request)
    (s : Snapshot)
    (engine : Engine)
    (history : List Call) :
    .listAuthorities ∉ ((w.program setup r).runOn s engine history).calls := by
  obtain ⟨rest, guarded, same⟩ := (program_readsFirst setup w r).exists_guarded s engine history
  rw [same]
  intro asked
  obtain ⟨step, -, admitted⟩ := guarded.admits_of_mem_calls history _ asked rfl
  cases admitted

end Workflow

/-! ## What a workflow is about -/

/-- Some ids, each with its collection, have the same first entries in two documents. -/
def Config.Document.SameFirst
    (d₁ d₂ : Document)
    (ids : List (Kind × String)) : Prop :=
  ∀ sought ∈ ids, d₁.first? sought.1 sought.2 = d₂.first? sought.1 sought.2

/--
The ids that references look up one after another, up to the first one that is missing or
unknown; when none is, `more` is looked up after them.
-/
def Reference.lookups
    (d : Document)
    (r : Request)
    (more : List (Kind × String)) :
    List Reference → List (Kind × String)
  | [] => more
  | x :: rest =>
      match r.get x.field with
      | none => []
      | some id =>
          (x.kind, id) ::
            if (d.first? x.kind id).isSome then Reference.lookups d r more rest else []

theorem Reference.mem_lookups
    {d : Document}
    {r : Request}
    {more : List (Kind × String)}
    {references : List Reference}
    {sought : Kind × String}
    (lookedUp : sought ∈ Reference.lookups d r more references) :
    sought.1 ∈ references.map (·.kind) ∨ sought ∈ more := by
  induction references with
  | nil =>
      exact .inr lookedUp
  | cons x rest inductionHypothesis =>
      rw [Reference.lookups] at lookedUp
      split at lookedUp
      · cases lookedUp
      · rcases List.mem_cons.mp lookedUp with rfl | later
        · exact .inl List.mem_cons_self
        · split at later
          · exact (inductionHypothesis later).imp_left (List.mem_cons_of_mem _)
          · cases later

namespace Workflow

/-- The form fields of a workflow, beside the document. -/
def fields : Workflow → List Field
  | sign _ => [.signingId, .secret]
  | signWithProof _ =>
      [.signingId, .signatureVerificationId, .requestId, .proofTag, .applicantId, .secret]
  | validate _ => [.signatureVerificationId]
  | validateWithProof _ =>
      [.signatureVerificationId, .proofId, .requestId, .proofTag, .applicantId]
  | validateCertificate => [.certificateVerificationId]
  | validateCertificateWithProof =>
      [.certificateVerificationId, .proofId, .requestId, .proofTag, .applicantId]

/-- The collections that a workflow looks ids up in. -/
def collections (w : Workflow) : List Kind :=
  w.references.map (·.kind) ++ if w.signs && w.proves then [.proof] else []

/-- The id of the proof configuration that the signing configuration of a request refers to. -/
def proofIdOfSigner? (d : Document) (r : Request) : Option String :=
  match r.signingId.bind (d.first? .signature) with
  | some (.signature entry) => some entry.proofId
  | _ => none

/-- The ids that a workflow looks up for a request, each with its collection. -/
def lookups (w : Workflow) (d : Document) (r : Request) : List (Kind × String) :=
  let referred :=
    if w.signs && w.proves then (proofIdOfSigner? d r).toList.map (Kind.proof, ·) else []
  Reference.lookups d r referred w.references

/-- Two requests, each with a configuration, that a workflow cannot tell apart. -/
structure Agree
    (w : Workflow)
    (d₁ d₂ : Document)
    (r₁ r₂ : Request) : Prop where
  accept : r₁.accept = r₂.accept
  document : r₁.document = r₂.document
  fields : ∀ field ∈ w.fields, r₁.get field = r₂.get field
  /-- An id that no entry has in one configuration has none in the other. -/
  entries : d₁.SameFirst d₂ (w.lookups d₁ r₁)

end Workflow

/-- A workflow takes nothing from a request but the document and its own fields. -/
theorem Workflow.steps_eq_of_fields
    {w : Workflow}
    {setup : Setup}
    {r₁ r₂ : Request}
    (accept : r₁.accept = r₂.accept)
    (document : r₁.document = r₂.document)
    (fields : ∀ field ∈ w.fields, r₁.get field = r₂.get field) :
    w.steps setup r₁ = w.steps setup r₂ := by
  cases w with
  | sign profile =>
      simp only [Workflow.fields, List.forall_mem_cons, Request.get] at fields
      simp only [steps, runSign, accept, document, fields]
  | signWithProof profile =>
      simp only [Workflow.fields, List.forall_mem_cons, Request.get] at fields
      simp only [steps, runSignWithProof, Guard.requireProofFields, Guard.proofFields?, accept,
        document, fields]
  | validate profile =>
      simp only [Workflow.fields, List.forall_mem_cons, Request.get] at fields
      simp only [steps, runValidate, accept, document, fields]
  | validateWithProof profile =>
      simp only [Workflow.fields, List.forall_mem_cons, Request.get] at fields
      simp only [steps, runValidateWithProof, Guard.requireProofFields, Guard.proofFields?, accept,
        document, fields]
  | validateCertificate =>
      simp only [Workflow.fields, List.forall_mem_cons, Request.get] at fields
      simp only [steps, runValidateCertificate, accept, document, fields]
  | validateCertificateWithProof =>
      simp only [Workflow.fields, List.forall_mem_cons, Request.get] at fields
      simp only [steps, runValidateCertificateWithProof, Guard.requireProofFields,
        Guard.proofFields?, accept, document, fields]

section Configurations

variable
    {d₁ d₂ : Document}
    {valid₁ : d₁.valid = true}
    {valid₂ : d₂.valid = true}
    {r : Request}
    {more : List (Kind × String)}

/-- What the first reference looks up is the same. -/
theorem Config.Document.SameFirst.head
    {x : Reference}
    {rest : List Reference}
    {id : String}
    (same : d₁.SameFirst d₂ (Reference.lookups d₁ r more (x :: rest)))
    (named : r.get x.field = some id) :
    d₁.first? x.kind id = d₂.first? x.kind id := by
  refine same (x.kind, id) ?_
  simp only [Reference.lookups, named]
  exact List.mem_cons_self

/-- Once the first reference is found, the others are looked up. -/
theorem Config.Document.SameFirst.tail
    {x : Reference}
    {rest : List Reference}
    (same : d₁.SameFirst d₂ (Reference.lookups d₁ r more (x :: rest)))
    (found : ((r.get x.field).bind (d₁.first? x.kind)).isSome = true) :
    d₁.SameFirst d₂ (Reference.lookups d₁ r more rest) := by
  cases named : r.get x.field with
  | none =>
      rw [named] at found
      cases found
  | some id =>
      rw [named, Option.bind_some] at found
      intro sought later
      refine same sought ?_
      simp only [Reference.lookups, named, found, ↓reduceIte]
      exact List.mem_cons_of_mem _ later

/-- Resolving an id goes on alike with the same first entry. -/
theorem Guard.resolve_bind_eq_of_first
    {α β : Type}
    (collection : Collection α)
    {id : Option String}
    {next₁ next₂ : α → Program β}
    (same : ∀ name, id = some name →
      d₁.first? collection.kind name = d₂.first? collection.kind name)
    (goesOn : ∀ entry,
      id.bind (d₁.first? collection.kind) = some (collection.wrap entry) →
        next₁ entry = next₂ entry) :
    Guard.resolve collection.kind id (collection.lookup (.ofDocument d₁ valid₁)) >>= next₁ =
      Guard.resolve collection.kind id (collection.lookup (.ofDocument d₂ valid₂)) >>= next₂ := by
  refine Guard.resolve_bind_eq fun name named => ?_
  have sameEntry :
      collection.lookup (.ofDocument d₁ valid₁) name =
        collection.lookup (.ofDocument d₂ valid₂) name := by
    apply Option.map_injective collection.injective
    rw [← collection.first?_eq, ← collection.first?_eq, same name named]
  rw [← sameEntry]
  refine Option.map_congr fun entry found => goesOn entry ?_
  rw [named, Option.bind_some, collection.first?_eq valid₁, found, Option.map_some]

end Configurations

namespace Workflow

/-- Once they have the snapshot, workflows go on alike with the same first entries. -/
theorem given_steps_eq_of_sameFirst
    {d₁ d₂ : Document}
    {valid₁ : d₁.valid = true}
    {valid₂ : d₂.valid = true}
    {setup : Setup}
    {r : Request}
    (w : Workflow)
    (same : d₁.SameFirst d₂ (w.lookups d₁ r)) :
    (w.steps setup r).given (.ofDocument d₁ valid₁) =
      (w.steps setup r).given (.ofDocument d₂ valid₂) := by
  cases w with
  | sign profile =>
      exact Guard.resolve_bind_eq_of_first .signatures (fun _ => same.head) fun _ _ => rfl
  | signWithProof profile =>
      refine Guard.resolve_bind_eq_of_first .signatures (fun _ => same.head) fun entry found => ?_
      have same := same.tail (Option.isSome_of_eq_some found)
      refine Guard.resolve_bind_eq_of_first .signatureVerifications (fun _ => same.head)
        fun verification foundVerification => ?_
      have same := same.tail (Option.isSome_of_eq_some foundVerification)
      have foundSigner : r.signingId.bind (d₁.first? .signature) = some (.signature entry) :=
        found
      have referred : proofIdOfSigner? d₁ r = some entry.proofId := by
        simp only [proofIdOfSigner?, foundSigner]
      refine Guard.resolve_bind_eq_of_first .proofs (fun name named => ?_) fun _ _ => rfl
      refine same (.proof, name) ?_
      simp [Reference.lookups, signs, proves, referred, Option.some.inj named]
  | validate profile =>
      exact Guard.resolve_bind_eq_of_first .signatureVerifications (fun _ => same.head)
        fun _ _ => rfl
  | validateWithProof profile =>
      refine Guard.resolve_bind_eq_of_first .signatureVerifications (fun _ => same.head)
        fun entry found => ?_
      have same := same.tail (Option.isSome_of_eq_some found)
      exact Guard.resolve_bind_eq_of_first .proofs (fun _ => same.head) fun _ _ => rfl
  | validateCertificate =>
      exact Guard.resolve_bind_eq_of_first .certificateVerifications (fun _ => same.head)
        fun _ _ => rfl
  | validateCertificateWithProof =>
      refine Guard.resolve_bind_eq_of_first .certificateVerifications (fun _ => same.head)
        fun entry found => ?_
      have same := same.tail (Option.isSome_of_eq_some found)
      exact Guard.resolve_bind_eq_of_first .proofs (fun _ => same.head) fun _ _ => rfl

/-- Against engines that differ in their authorities at most, agreeing runs are the same. -/
theorem runOn_eq_of_agree
    {w : Workflow}
    {d₁ d₂ : Document}
    {r₁ r₂ : Request}
    (agree : w.Agree d₁ d₂ r₁ r₂)
    (setup : Setup)
    (valid₁ : d₁.valid = true)
    (valid₂ : d₂.valid = true)
    {engine₁ engine₂ : Engine}
    (alike : ∀ earlier call, call ≠ .listAuthorities →
      engine₁.reply earlier call = engine₂.reply earlier call)
    (history : List Call) :
    (w.program setup r₁).runOn (.ofDocument d₁ valid₁) engine₁ history =
      (w.program setup r₂).runOn (.ofDocument d₂ valid₂) engine₂ history := by
  have sameTree :
      (w.program setup r₁).given (.ofDocument d₁ valid₁) =
        (w.program setup r₂).given (.ofDocument d₂ valid₂) := by
    rw [given_program_eq, given_program_eq, given_steps_eq_of_sameFirst w agree.entries,
      steps_eq_of_fields agree.accept agree.document agree.fields]
  calc
    _ = (w.program setup r₁).runOn (.ofDocument d₁ valid₁) engine₂ history := by
        refine Program.runOn_congr fun call made earlier => alike earlier call ?_
        exact ne_of_mem_of_not_mem made (listAuthorities_not_mem_calls w setup r₁ _ _ _)
    _ = ((w.program setup r₂).given (.ofDocument d₂ valid₂)).runOn (.ofDocument d₁ valid₁) engine₂
          history := by
        rw [← sameTree, Program.runOn_given]
    _ = ((w.program setup r₂).given (.ofDocument d₂ valid₂)).runOn (.ofDocument d₂ valid₂) engine₂
          history :=
        Program.runOn_of_readFree (readFree_given_program setup r₂ w _) _ _ engine₂ history
    _ = (w.program setup r₂).runOn (.ofDocument d₂ valid₂) engine₂ history :=
        Program.runOn_given _ _ engine₂ history

/-- What another field holds makes no difference to what a workflow reads of a request. -/
theorem agree_set
    {w : Workflow}
    {field : Field}
    (foreign : field ∉ w.fields)
    (d : Document)
    (r : Request)
    (value : String) :
    w.Agree d d (r.set field value) r where
  accept := by
    cases field <;> rfl
  document := by
    cases field <;> rfl
  fields own inFields := by
    have distinct : own ≠ field :=
      ne_of_mem_of_not_mem inFields foreign
    cases field <;> cases own <;> first | rfl | exact absurd rfl distinct
  entries _ _ := rfl

/-- A workflow looks ids up in its own collections only. -/
theorem mem_collections_of_mem_lookups
    {w : Workflow}
    {d : Document}
    {r : Request}
    {sought : Kind × String}
    (lookedUp : sought ∈ w.lookups d r) :
    sought.1 ∈ w.collections := by
  refine List.mem_append.mpr ((Reference.mem_lookups lookedUp).imp_right fun referred => ?_)
  split at referred
  · next provesOwn =>
      obtain ⟨id, -, rfl⟩ := List.mem_map.mp referred
      simp [provesOwn]
  · cases referred

/--
What a workflow depends on, against engines that differ in their authorities at most: its run
ends alike, makes the same calls and notes the same.
-/
structure DependsOnOwnData
    (w : Workflow)
    (setup : Setup)
    (engine₁ engine₂ : Engine)
    (history : List Call) : Prop where
  /-- Requests and configurations that agree where the workflow looks have the same run. -/
  agreeing :
    ∀ {d₁ d₂ : Document} {r₁ r₂ : Request} (valid₁ : d₁.valid = true) (valid₂ : d₂.valid = true),
      w.Agree d₁ d₂ r₁ r₂ →
        (w.program setup r₁).runOn (.ofDocument d₁ valid₁) engine₁ history =
          (w.program setup r₂).runOn (.ofDocument d₂ valid₂) engine₂ history
  /-- A field that is not one of its own makes no difference, whatever it holds. -/
  foreignField :
    ∀ {field : Field} {d : Document} (value : String) (r : Request) (valid : d.valid = true),
      field ∉ w.fields →
        (w.program setup (r.set field value)).runOn (.ofDocument d valid) engine₁ history =
          (w.program setup r).runOn (.ofDocument d valid) engine₂ history
  /-- Later entries of an id make no difference, nor do other collections. -/
  firstEntries :
    ∀ {d₁ d₂ : Document} (r : Request) (valid₁ : d₁.valid = true) (valid₂ : d₂.valid = true),
      (∀ kind ∈ w.collections, d₁.first? kind = d₂.first? kind) →
        (w.program setup r).runOn (.ofDocument d₁ valid₁) engine₁ history =
          (w.program setup r).runOn (.ofDocument d₂ valid₂) engine₂ history

/-- Whatever engine is at work, a workflow depends on nothing but its own data. -/
theorem program_dependsOnOwnData
    (w : Workflow)
    (setup : Setup)
    {engine₁ engine₂ : Engine}
    (alike : ∀ earlier call, call ≠ .listAuthorities →
      engine₁.reply earlier call = engine₂.reply earlier call)
    (history : List Call) :
    w.DependsOnOwnData setup engine₁ engine₂ history where
  agreeing valid₁ valid₂ agree :=
    runOn_eq_of_agree agree setup valid₁ valid₂ alike history
  foreignField value r valid foreign :=
    runOn_eq_of_agree (agree_set foreign _ r value) setup valid valid alike history
  firstEntries r valid₁ valid₂ same := by
    refine runOn_eq_of_agree ⟨rfl, rfl, fun _ _ => rfl, ?_⟩ setup valid₁ valid₂ alike history
    intro sought lookedUp
    exact congrFun (same sought.1 (mem_collections_of_mem_lookups lookedUp)) sought.2

end Workflow

namespace Rehearsal

/-- The configuration with an authority, and with a second signing configuration of the same id. -/
def crowded : Document :=
  { document with
    signature := document.signature ++ [⟨"1", "5", none, none, parameters "other.p12"⟩]
    certificateVerification := []
    ca := [⟨"root", "root.pem", "root.crl", none⟩] }

/-- The request with ids that signing with proof has no use for. -/
def verbose : Request :=
  { request with certificateVerificationId := some "8", proofId := none }

theorem agree_crowded :
    (Workflow.signWithProof .xades).Agree document crowded request verbose where
  accept := rfl
  document := rfl
  fields := by decide
  entries := by
    unfold Config.Document.SameFirst
    decide +kernel

end Rehearsal

/-- Signing with proof succeeds alike, with what it has no use for or without. -/
theorem Workflow.program_dependsOnOwnData_crowded :
    let run d (valid : Config.Document.valid d = true) r engine :=
      ((signWithProof .xades).program Rehearsal.setup r).runOn (.ofDocument d valid) engine []
    ∃ valid₁ valid₂,
      run Rehearsal.document valid₁ Rehearsal.request (Script.engine .smooth) =
          run Rehearsal.crowded valid₂ Rehearsal.verbose
            (Script.engine { Script.smooth with authorities := ["root"] }) ∧
        (run Rehearsal.document valid₁ Rehearsal.request
          (Script.engine .smooth)).calls.length = 6 := by
  refine ⟨by decide +kernel, by decide +kernel, ?_, by decide +kernel⟩
  have alike (earlier : List Call) (call : Call) (other : call ≠ .listAuthorities) :
      (Script.engine .smooth).reply earlier call =
        (Script.engine { Script.smooth with authorities := ["root"] }).reply earlier call := by
    cases call with
    | listAuthorities =>
        exact absurd rfl other
    | sign profile _ _ =>
        cases profile <;> rfl
    | _ =>
        rfl
  exact (program_dependsOnOwnData _ Rehearsal.setup alike []).agreeing _ _ Rehearsal.agree_crowded

end Notary
