import Mathlib.Data.List.Basic
import Notary.CommandLine.Call

namespace Notary.CommandLine

/-!
# The values of an accepted call

Arguments, variables and fallbacks all give values to options. Whatever way a value came, a
call that is accepted hands it on only under the name of an option that admits it. The
invariant of the reading has two parts, for a value may be held back with its option until the
argument after it is seen.
-/

/-- Whether a command has an option that admits a value. -/
def Command.Admits (c : Command) (entry : String × String) : Prop :=
  ∃ o ∈ c.options, o.long = entry.1 ∧ o.accepts.admits entry.2 = true

/-- A reading of a call so far, all of whose values are admitted. -/
structure Reading.Admitted (c : Command) (r : Reading) : Prop where
  values : ∀ entry ∈ r.values, c.Admits entry
  held : ∀ o value, r.held = some (o, value) → o ∈ c.options

/-- A turn that goes on with admitted values, or ends without handing any on. -/
def Turn.Admitted (c : Command) : Turn → Prop
  | .next r => r.Admitted c
  | .over call => ∀ values positional, call ≠ .accepted values positional

/-- At the start no value has been read. -/
theorem Reading.start_admitted (c : Command) :
    Reading.start.Admitted c where
  values := nofun
  held := nofun

namespace Reading.Admitted

variable
    {c : Command}
    {r next : Reading}
    {o : Switch}

/-- A value that is taken for a known option has been checked against what the option accepts. -/
theorem take
    {value : String}
    (admitted : r.Admitted c)
    (known : o ∈ c.options)
    (taken : r.take o value = .ok next) :
    next.Admitted c := by
  unfold Reading.take at taken
  split at taken
  · cases taken
  · split at taken
    · next admits =>
        cases taken
        refine ⟨fun entry inside => ?_, admitted.held⟩
        rcases List.mem_append.mp inside with earlier | new
        · exact admitted.values entry earlier
        · rw [List.mem_singleton.mp new]
          exact ⟨o, known, rfl, admits⟩
    · split at taken <;> cases taken

/-- To settle an option that waits for its value takes no other value. -/
theorem settle
    (admitted : r.Admitted c)
    (settled : r.settle = .ok next) :
    next.Admitted c := by
  unfold Reading.settle at settled
  split at settled
  · cases settled
    exact admitted
  · cases settled
  · next o value isHeld =>
      have released : Reading.Admitted c { r with held := none } :=
        ⟨admitted.values, nofun⟩
      exact released.take (admitted.held o _ isHeld) settled

/-- An option that is named takes the value attached to it, or waits for one. -/
theorem name
    {attached : Option String}
    (admitted : r.Admitted c)
    (known : o ∈ c.options)
    (named : r.name o attached = .ok next) :
    next.Admitted c := by
  unfold Reading.name at named
  cases settled : r.settle with
  | error error =>
      rw [settled] at named
      cases named
  | ok middle =>
      rw [settled] at named
      have carried := admitted.settle settled
      cases attached with
      | some value =>
          exact carried.take known named
      | none =>
          cases named
          refine ⟨carried.values, fun other value isHeld => ?_⟩
          cases isHeld
          exact known

/-- A step that fails admits anything, as no values come of it. -/
theorem ofExcept
    {result : Except UsageError Reading}
    (admitted : ∀ next, result = .ok next → next.Admitted c) :
    (Turn.ofExcept result).Admitted c := by
  cases result with
  | ok next =>
      exact admitted next rfl
  | error error =>
      exact nofun

/-- A step that ends the reading without accepting the call admits anything. -/
theorem finish
    {call : Call}
    (unaccepted : ∀ values positional, call ≠ .accepted values positional) :
    (Turn.finish r call).Admitted c := by
  unfold Turn.finish
  split
  · exact unaccepted
  · exact nofun

/-- A long option admits no values but its own. -/
theorem readLong
    (admitted : r.Admitted c)
    (name : String)
    (value : Option String) :
    (CommandLine.readLong c r name value).Admitted c := by
  unfold CommandLine.readLong
  cases found : c.options.find? (·.long = name) with
  | some o =>
      exact ofExcept fun next => admitted.name (List.mem_of_find?_eq_some found)
  | none =>
      cases value with
      | some value =>
          dsimp only
          split <;> exact nofun
      | none =>
          dsimp only
          split
          · exact finish nofun
          · exact finish nofun
          · exact nofun

/-- A group of short options admits no values but theirs, however many letters it has. -/
theorem readShort
    (admitted : r.Admitted c)
    (flags : List Char) :
    (CommandLine.readShort c r flags).Admitted c := by
  cases flags with
  | nil =>
      exact admitted
  | cons letter rest =>
      unfold CommandLine.readShort
      dsimp only
      split
      · next found =>
          exact ofExcept fun next => admitted.name (List.mem_of_find?_eq_some found)
      · split
        · exact finish nofun
        · exact finish nofun
        · exact nofun

/-- An argument that is no option is the value that an option waits for, or a positional one. -/
theorem readPlain
    (admitted : r.Admitted c)
    (argument : String) :
    (CommandLine.readPlain c r argument).Admitted c := by
  unfold CommandLine.readPlain
  split
  · next o isHeld =>
      split
      · exact nofun
      · refine ⟨admitted.values, fun other value stillHeld => ?_⟩
        cases stillHeld
        exact admitted.held _ _ isHeld
  · split
    · split
      · next settled =>
          have carried := admitted.settle settled
          exact ⟨carried.values, carried.held⟩
      · exact nofun
    · split
      · exact nofun
      · split <;> exact nofun

/-- Values from the environment are checked like those of arguments. -/
theorem completeValues
    {e : Environment}
    {options : List Switch}
    (admitted : r.Admitted c)
    (known : ∀ o ∈ options, o ∈ c.options)
    (completed : CommandLine.completeValues e r options = .ok next) :
    next.Admitted c := by
  induction options generalizing r with
  | nil =>
      cases completed
      exact admitted
  | cons o rest inductionHypothesis =>
      have knownRest : ∀ o ∈ rest, o ∈ c.options := fun o inside =>
        known o (List.mem_cons_of_mem _ inside)
      rw [CommandLine.completeValues] at completed
      split at completed
      · next value _ _ =>
          cases taken : r.take o value with
          | error error =>
              rw [taken] at completed
              cases completed
          | ok middle =>
              rw [taken] at completed
              exact inductionHypothesis (admitted.take (known o List.mem_cons_self) taken)
                knownRest completed
      · exact inductionHypothesis admitted knownRest completed

/-- What completes a reading keeps its values in order. -/
theorem complete
    {e : Environment}
    (admitted : r.Admitted c)
    (completed : CommandLine.complete c e r = .ok next) :
    next.Admitted c := by
  unfold CommandLine.complete at completed
  cases settled : r.settle with
  | error error =>
      rw [settled] at completed
      cases completed
  | ok middle =>
      rw [settled] at completed
      exact (admitted.settle settled).completeValues (fun _ => id) completed

end Reading.Admitted

section Calls

variable
    {c : Command}
    {e : Environment}
    {values : Values}
    {positional : Option String}

/-- Of all values of a call, defaults included, each is one that its option accepts. -/
theorem admits_of_mem_allValues
    (fallbacks : ∀ o ∈ c.options, ∀ value ∈ o.fallback, o.accepts.admits value = true)
    {r : Reading}
    (admitted : r.Admitted c)
    {entry : String × String}
    (inside : entry ∈ allValues c r) :
    c.Admits entry := by
  rcases List.mem_append.mp inside with given | fallen
  · exact admitted.values entry given
  · obtain ⟨o, known, entered⟩ := List.mem_filterMap.mp fallen
    split at entered
    · cases entered
    · obtain ⟨value, fallsTo, rfl⟩ := Option.map_eq_some_iff.mp entered
      exact ⟨o, known, rfl, fallbacks o known value fallsTo⟩

/-- The values that an accepted call hands on are admitted, if the fallbacks of options are. -/
theorem admits_of_accepted
    (fallbacks : ∀ o ∈ c.options, ∀ value ∈ o.fallback, o.accepts.admits value = true)
    {arguments : List String}
    {r : Reading}
    (admitted : r.Admitted c)
    (accepted : readCall c e r arguments = .accepted values positional) :
    ∀ entry ∈ values, c.Admits entry := by
  induction arguments generalizing r with
  | nil =>
      rw [readCall, finishCall] at accepted
      split at accepted
      · cases accepted
      · next completed =>
          split at accepted
          · split at accepted <;> cases accepted
          · split at accepted
            · cases accepted
            · cases accepted
              exact fun entry inside =>
                admits_of_mem_allValues fallbacks (admitted.complete completed) inside
  | cons argument rest inductionHypothesis =>
      rw [readCall] at accepted
      split at accepted
      · cases accepted
      · obtain ⟨turn, turned, accepted⟩ :
            ∃ turn, Turn.Admitted c turn ∧
              (match turn with
              | .next r => readCall c e r rest
              | .over call => call) = .accepted values positional := by
          refine ⟨_, ?_, accepted⟩
          split
          · exact admitted.readPlain argument
          · split
            · exact ⟨admitted.values, admitted.held⟩
            · exact admitted.readLong _ _
            · exact admitted.readShort _
            · exact admitted.readPlain argument
        rcases turn with next | call
        · exact inductionHypothesis turned accepted
        · exact absurd accepted (turned values positional)

/-- What is looked up among values of such a kind is of that kind. -/
theorem admits_of_get?
    {long value : String}
    (admitted : ∀ entry ∈ values, c.Admits entry)
    (got : values.get? long = some value) :
    c.Admits (long, value) := by
  obtain ⟨⟨key, content⟩, found, rfl⟩ := Option.map_eq_some_iff.mp got
  have same : key = long := by
    simpa using List.find?_some found
  exact same ▸ admitted _ (List.mem_of_find?_eq_some found)

end Calls

end Notary.CommandLine
