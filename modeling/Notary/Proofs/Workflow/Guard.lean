import Notary.Proofs.Program.Course
import Notary.Workflow.Guard

namespace Notary

/-!
# What guards let pass

Guards never turn to the engine, so in front of a plan they leave it as it is. A
guard that resolves an id hands on the entry of that very id.
-/

open Config (SigningEntry)

variable
    {σ α β : Type}
    {admits : σ → Call → Prop}
    {plan : List σ}

namespace Guard

/-- Resolving an id does not involve the engine. -/
theorem resolve_makesNoCall
    (kind : Config.Kind)
    (id : Option String)
    (lookup : String → Option α) :
    (resolve kind id lookup).MakesNoCall := by
  cases id with
  | none =>
      trivial
  | some id =>
      cases found : lookup id <;>
        simp [resolve, found, Program.MakesNoCall, Program.refuse]

/-- What resolving yields is the entry of the id that was given. -/
theorem found_of_yields_resolve
    {kind : Config.Kind}
    {id : Option String}
    {lookup : String → Option α}
    {entry : α}
    (yields : (resolve kind id lookup).Yields entry) :
    id.bind lookup = some entry := by
  cases id with
  | none =>
      exact (Program.not_yields_refuse yields).elim
  | some id =>
      obtain _ | _ | yields | _ := yields
      change lookup id = some entry
      cases found : lookup id with
      | none =>
          rw [found] at yields
          exact (Program.not_yields_refuse yields).elim
      | some other =>
          rw [found] at yields
          cases yields
          rfl

/-- Noting things does not involve the engine. -/
theorem sayAll_makesNoCall
    (notes : List Journal.Note) :
    (Program.sayAll notes).MakesNoCall := by
  induction notes with
  | nil =>
      trivial
  | cons n rest inductionHypothesis =>
      exact inductionHypothesis

/-- Comparing secrets does not involve the engine. -/
theorem checkSecret_makesNoCall
    (enforced : Bool)
    (entry : SigningEntry)
    (candidate : Option String) :
    (checkSecret enforced entry candidate).MakesNoCall := by
  unfold checkSecret
  split
  · refine (sayAll_makesNoCall _).bind fun _ => ?_
    split <;> trivial
  · trivial

end Guard

namespace Guarded

/-- A request that names a known entry passes on with that entry. -/
theorem resolve_bind
    {kind : Config.Kind}
    {id : Option String}
    {lookup : String → Option α}
    {next : α → Program β}
    (rest : ∀ entry, id.bind lookup = some entry → Guarded admits plan (next entry)) :
    Guarded admits plan (Guard.resolve kind id lookup >>= next) :=
  Guarded.bind (Guard.resolve_makesNoCall kind id lookup) fun entry yields =>
    rest entry (Guard.found_of_yields_resolve yields)

/-- A request may be turned away for what it accepts. -/
theorem acceptJson_bind
    {accept : Option String}
    {next : Unit → Program β}
    (rest : Guarded admits plan (next ())) :
    Guarded admits plan (Guard.acceptJson accept >>= next) := by
  refine Guarded.bind ?_ fun _ _ => rest
  unfold Guard.acceptJson
  split <;> trivial

/-- A request may be turned away for lack of a document. -/
theorem requireDocument_bind
    {document : Option (List UInt8)}
    {next : List UInt8 → Program β}
    (rest : ∀ bytes, Guarded admits plan (next bytes)) :
    Guarded admits plan (Guard.requireDocument document >>= next) := by
  refine Guarded.bind ?_ fun bytes _ => rest bytes
  cases document <;> trivial

/-- A request may be turned away for lack of proof fields. -/
theorem requireProofFields_bind
    {r : Request}
    {next : Guard.ProofFields → Program β}
    (rest : ∀ fields, Guarded admits plan (next fields)) :
    Guarded admits plan (Guard.requireProofFields r >>= next) := by
  refine Guarded.bind ?_ fun fields _ => rest fields
  unfold Guard.requireProofFields
  split <;> trivial

/-- A request may be turned away for its secret. -/
theorem checkSecret_bind
    {enforced : Bool}
    {entry : SigningEntry}
    {candidate : Option String}
    {next : Unit → Program β}
    (rest : Guarded admits plan (next ())) :
    Guarded admits plan (Guard.checkSecret enforced entry candidate >>= next) :=
  Guarded.bind (Guard.checkSecret_makesNoCall enforced entry candidate) fun _ _ => rest

end Guarded

end Notary
