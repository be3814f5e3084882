import Notary.Proofs.Workflow.Precedence

namespace Notary

/-!
# Requests that leave an id out

Resolving an id both asks for the id and looks it up. So when a request leaves out an
id that its workflow needs, the first configuration that is not named or not found
decides alone, and what is behind it goes unchecked. That departs from the intended
order, in which the ids that are given come first, then what the caller accepts, and
only then the ids that are missing.
-/

open Config (Snapshot)

namespace Workflow

variable
    {w : Workflow}
    {setup : Setup}
    {s : Snapshot}
    {r : Request}

/-- The first configuration in the order of look-ups that is not named, or not found. -/
def unresolved? (w : Workflow) (s : Snapshot) (r : Request) : Option Reference :=
  w.references.find? fun x => x.missing r || x.unknown s r

/--
How a request that leaves an id out is meant to be rejected: the ids that it carries are
looked up before anything else, and that one is missing comes last.
-/
def intended (w : Workflow) (s : Snapshot) (r : Request) : Rejection :=
  if w.references.any (·.unknown s r) then .notFound
  else if r.RefusesJson then .notImplemented
  else .badRequest

/-- The first reference that does not resolve decides over all references. -/
theorem findSome?_references
    {xs : List Reference}
    {first : Reference}
    (found : xs.find? (fun x => x.missing r || x.unknown s r) = some first) :
    (xs.map Check.reference).findSome? (Check.refusal? setup s r) =
      some (if first.missing r then .badRequest else .notFound) := by
  induction xs with
  | nil =>
      cases found
  | cons x rest inductionHypothesis =>
      rw [List.find?_cons] at found
      rw [List.map_cons, List.findSome?_cons]
      cases missing : x.missing r with
      | true =>
          simp only [missing, Bool.true_or, Option.some.injEq] at found
          subst found
          simp only [Check.refusal?, missing, ↓reduceIte]
      | false =>
          cases unknown : x.unknown s r with
          | true =>
              simp only [missing, unknown, Bool.or_true, Option.some.injEq] at found
              subst found
              simp only [Check.refusal?, missing, unknown, Bool.false_eq_true, ↓reduceIte]
          | false =>
              simp only [missing, unknown, Bool.or_false] at found
              simp only [Check.refusal?, missing, unknown, Bool.false_eq_true, ↓reduceIte]
              exact inductionHypothesis found

/-- A request with a reference that does not resolve is refused for the first of these. -/
theorem refusal?_of_unresolved?
    {first : Reference}
    (unresolved : w.unresolved? s r = some first) :
    refusal? setup s w r = some (if first.missing r then .badRequest else .notFound) := by
  rw [refusal?_eq_or, lookupChecks, List.findSome?_append, findSome?_references unresolved]
  rfl

/-- A reference that does not resolve has no id, or an unknown one. -/
theorem missing_or_unknown_of_unresolved?
    {first : Reference}
    (unresolved : w.unresolved? s r = some first) :
    first ∈ w.references ∧ (first.missing r = true ∨ first.unknown s r = true) := by
  unfold unresolved? at unresolved
  have resolves := List.find?_some unresolved
  rw [Bool.or_eq_true] at resolves
  exact ⟨List.mem_of_find?_eq_some unresolved, resolves⟩

/-- What is intended is a bad request exactly if the ids carried are known and JSON is accepted. -/
theorem intended_eq_badRequest_iff
    (w : Workflow)
    (s : Snapshot)
    (r : Request) :
    w.intended s r = .badRequest ↔
      (∀ x ∈ w.references, x.unknown s r = false) ∧ ¬ r.RefusesJson := by
  unfold intended
  cases unknown : w.references.any (·.unknown s r) with
  | true =>
      obtain ⟨x, member, unknown⟩ := List.any_eq_true.mp unknown
      simp only [↓reduceIte, reduceCtorEq, false_iff, not_and]
      intro known
      rw [known x member] at unknown
      cases unknown
  | false =>
      have known : ∀ x ∈ w.references, x.unknown s r = false := by
        simpa using unknown
      by_cases refuses : r.RefusesJson
      · simp [refuses]
      · simpa [refuses] using known

/--
If a request leaves an id out that its workflow needs, the first configuration that is not
named or not found decides alone. That is what is intended unless this one is not
named while another one is unknown, or JSON is refused.
-/
theorem run_of_id_missing
    (engine : Engine)
    (history : List Call)
    (setup : Setup)
    (s : Snapshot)
    (w : Workflow)
    (r : Request)
    (unnamed : ∃ x ∈ w.references, x.missing r = true) :
    ∃ first, w.unresolved? s r = some first ∧
      ((w.program setup r).runOn s engine history).RejectedAtOnce
        (if first.missing r then .badRequest else .notFound) ∧
      (((w.program setup r).runOn s engine history).ending = .rejected (w.intended s r) ↔
        (first.missing r = true →
          (∀ x ∈ w.references, x.unknown s r = false) ∧ ¬ r.RefusesJson)) := by
  obtain ⟨x, member, missing⟩ := unnamed
  obtain ⟨first, unresolved⟩ : ∃ first, w.unresolved? s r = some first := by
    rw [← Option.isSome_iff_exists, unresolved?, List.find?_isSome]
    exact ⟨x, member, by rw [missing, Bool.true_or]⟩
  have refuses :
      refusal? setup s w r = some (if first.missing r then .badRequest else .notFound) :=
    refusal?_of_unresolved? unresolved
  have run := run_of_refusal? refuses engine history
  refine ⟨first, unresolved, run, ?_⟩
  rw [run.2, Ending.rejected.injEq]
  cases firstMissing : first.missing r with
  | true =>
      simp only [↓reduceIte, forall_const]
      rw [eq_comm, intended_eq_badRequest_iff]
  | false =>
      -- The first one has an id, so it is unknown, which is what is intended to decide.
      obtain ⟨firstMember, resolves⟩ := missing_or_unknown_of_unresolved? unresolved
      have firstUnknown : first.unknown s r = true := by
        simpa [firstMissing] using resolves
      have anyUnknown : w.references.any (·.unknown s r) = true :=
        List.any_eq_true.mpr ⟨first, firstMember, firstUnknown⟩
      simp [intended, anyUnknown]

end Workflow

namespace Rehearsal

/-- A request without the id of a signing configuration, and with one that no entry has. -/
def unsignable : Request :=
  { request with signingId := none, signatureVerificationId := some "99" }

/-- Signing the document of that request with proof. -/
def unsignableRun : Run WorkflowReport :=
  ((Workflow.signWithProof .xades).program setup unsignable).runOn snapshot engine []

end Rehearsal

/-- Signing with proof turns such a request away for the missing id. -/
theorem Workflow.run_of_id_missing_unsignable :
    (∃ x ∈ (signWithProof .xades).references, x.missing Rehearsal.unsignable = true) ∧
      ∃ first,
        (signWithProof .xades).unresolved? Rehearsal.snapshot Rehearsal.unsignable = some first ∧
        Rehearsal.unsignableRun.RejectedAtOnce
          (if first.missing Rehearsal.unsignable then .badRequest else .notFound) ∧
        (Rehearsal.unsignableRun.ending =
            .rejected ((signWithProof .xades).intended Rehearsal.snapshot Rehearsal.unsignable) ↔
          (first.missing Rehearsal.unsignable = true →
            (∀ x ∈ (signWithProof .xades).references,
              x.unknown Rehearsal.snapshot Rehearsal.unsignable = false) ∧
              ¬ Rehearsal.unsignable.RefusesJson)) :=
  have unnamed :
      ∃ x ∈ (signWithProof .xades).references, x.missing Rehearsal.unsignable = true :=
    ⟨⟨.signingId, .signature⟩, by decide, rfl⟩
  ⟨unnamed, run_of_id_missing Rehearsal.engine [] Rehearsal.setup _ _ _ unnamed⟩

/-- What is intended is that the unknown id is reported first. -/
theorem Workflow.run_unsignable_not_intended :
    (∃ x ∈ (signWithProof .xades).references, x.missing Rehearsal.unsignable = true) ∧
      (signWithProof .xades).intended Rehearsal.snapshot Rehearsal.unsignable = .notFound ∧
      Rehearsal.unsignableRun.ending = .rejected .badRequest :=
  ⟨⟨⟨.signingId, .signature⟩, by decide, rfl⟩, by decide +kernel, by decide +kernel⟩

end Notary
