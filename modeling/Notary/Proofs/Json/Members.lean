import Notary.Json.Members
import Notary.Proofs.Json.RoundTrip

namespace Notary.Json

/-!
# Reading members that were written

Members with different names are read one by one, the known ones to their contents. What
has been read for a name is what the member of that name holds.
-/

variable
    {α : Type}
    {values : List (String × Value)}
    {knows : String → Bool}
    {content : String × Value → α}

/-- The contents of the members with known names. -/
def picked
    (knows : String → Bool)
    (content : String × Value → α)
    (values : List (String × Value)) :
    List (String × α) :=
  (values.filter fun member => knows member.1).map fun member => (member.1, content member)

/-- A member that is known is picked. -/
theorem picked_cons_of_known
    {member : String × Value}
    (known : knows member.1 = true) :
    picked knows content (member :: values) =
      (member.1, content member) :: picked knows content values := by
  simp [picked, known]

/-- A member that is not known is passed over. -/
theorem picked_cons_of_unknown
    {member : String × Value}
    (unknown : knows member.1 = false) :
    picked knows content (member :: values) = picked knows content values := by
  simp [picked, unknown]

/-- Among the contents of known members, a known name finds what the member of that name holds. -/
theorem lookup?_picked
    {name : String}
    (known : knows name = true) :
    lookup? name (picked knows content values) =
      (values.find? (·.1 = name)).map content := by
  induction values with
  | nil =>
      rfl
  | cons member values inductionHypothesis =>
      by_cases same : member.1 = name
      · have memberKnown : knows member.1 = true := by
          rw [same]
          exact known
        rw [picked_cons_of_known memberKnown]
        simp [lookup?, same]
      · rw [List.find?_cons_of_neg (by simpa using same), ← inductionHypothesis]
        cases memberKnown : knows member.1 with
        | true =>
            rw [picked_cons_of_known memberKnown]
            simp [lookup?, same]
        | false =>
            rw [picked_cons_of_unknown memberKnown]

/-- Names that are new and differ from one more name are new after it. -/
theorem fresh_after
    {name : String}
    {seen : List String}
    (differs : name ∉ values.map (·.1))
    (fresh : ∀ member ∈ values, member.1 ∉ seen) :
    ∀ member ∈ values, member.1 ∉ name :: seen := by
  intro member inside again
  rcases List.mem_cons.mp again with same | earlier
  · exact differs (List.mem_map.mpr ⟨member, inside, same⟩)
  · exact fresh member inside earlier

/-- Values with different names are picked in order. -/
theorem pickMembers_eq_picked
    {read : String → Option (Value → Except Mismatch α)}
    {seen : List String}
    (reads : ∀ member ∈ values, ∀ reader, read member.1 = some reader →
      reader member.2 = .ok (content member))
    (distinct : (values.map (·.1)).Nodup)
    (fresh : ∀ member ∈ values, member.1 ∉ seen) :
    pickMembers read seen values =
      .ok (picked (fun name => (read name).isSome) content values) := by
  induction values generalizing seen with
  | nil =>
      rfl
  | cons member values inductionHypothesis =>
      obtain ⟨name, value⟩ := member
      obtain ⟨readsHere, readsRest⟩ := List.forall_mem_cons.mp reads
      obtain ⟨freshHere, freshRest⟩ := List.forall_mem_cons.mp fresh
      obtain ⟨differs, distinctRest⟩ := List.nodup_cons.mp distinct
      cases known : read name with
      | none =>
          rw [pickMembers, known, picked_cons_of_unknown (by rw [known]; rfl)]
          exact inductionHypothesis readsRest distinctRest freshRest
      | some reader =>
          have rest :=
            inductionHypothesis readsRest distinctRest (fresh_after differs freshRest)
          rw [pickMembers, known, picked_cons_of_known (by rw [known]; rfl)]
          simp only [freshHere, if_false, readsHere reader known, rest]
          rfl

section ReadMembers

variable
    {read : String → Option (Tree → Except Flaw α)}
    {keep : Tree → Except Flaw (Option Value)}
    {seen : List String}
    {name : Name}
    {text : String}
    {tree : Tree}
    {members : List (Name × Tree)}
    {rest : Members α}

/-- A member that is known for the first time is read and put before the others. -/
theorem readMembers_cons_of_known
    {reader : Tree → Except Flaw α}
    {found : α}
    (named : name.text = .ok text)
    (known : read text = some reader)
    (fresh : text ∉ seen)
    (reads : reader tree = .ok found)
    (readsRest : readMembers read keep (text :: seen) members = .ok rest) :
    readMembers read keep seen ((name, tree) :: members) = .ok (rest.pushKnown text found) := by
  rw [readMembers, named]
  simp only [Except.mapError, bind, Except.bind, known, fresh, if_false, reads, readsRest]
  rfl

/-- A member that is not known is kept aside, if at all. -/
theorem readMembers_cons_of_unknown
    {kept : Option Value}
    (named : name.text = .ok text)
    (unknown : read text = none)
    (keeps : keep tree = .ok kept)
    (readsRest : readMembers read keep seen members = .ok rest) :
    readMembers read keep seen ((name, tree) :: members) = .ok (rest.pushForeign text kept) := by
  rw [readMembers, named]
  simp only [Except.mapError, bind, Except.bind, unknown, keeps, readsRest]
  rfl

/-- Members with different names are read in order; those with other names are kept. -/
theorem readMembers_eq_picked
    (shown : MembersShow members values)
    (reads : ∀ member ∈ values, ∀ reader, read member.1 = some reader →
      ∀ tree : Tree, tree.Shows member.2 → reader tree = .ok (content member))
    (keeps : ∀ member ∈ values, read member.1 = none →
      ∀ tree : Tree, tree.Shows member.2 → keep tree = .ok (some member.2))
    (distinct : (values.map (·.1)).Nodup)
    (fresh : ∀ member ∈ values, member.1 ∉ seen) :
    readMembers read keep seen members =
      .ok ⟨picked (fun name => (read name).isSome) content values,
        values.filter fun member => (read member.1).isNone⟩ := by
  induction values generalizing seen members with
  | nil =>
      cases shown
      rfl
  | cons member values inductionHypothesis =>
      obtain ⟨text, value⟩ := member
      obtain _ | ⟨named, shows, shownRest⟩ := shown
      obtain ⟨readsHere, readsRest⟩ := List.forall_mem_cons.mp reads
      obtain ⟨keepsHere, keepsRest⟩ := List.forall_mem_cons.mp keeps
      obtain ⟨freshHere, freshRest⟩ := List.forall_mem_cons.mp fresh
      obtain ⟨differs, distinctRest⟩ := List.nodup_cons.mp distinct
      cases known : read text with
      | none =>
          have rest := inductionHypothesis shownRest readsRest keepsRest distinctRest freshRest
          rw [picked_cons_of_unknown (by rw [known]; rfl),
            List.filter_cons_of_pos (by rw [known]; rfl)]
          exact readMembers_cons_of_unknown named known (keepsHere known _ shows) rest
      | some reader =>
          have rest :=
            inductionHypothesis shownRest readsRest keepsRest distinctRest
              (fresh_after differs freshRest)
          rw [picked_cons_of_known (by rw [known]; rfl),
            List.filter_cons_of_neg (by rw [known]; exact Bool.false_ne_true)]
          exact readMembers_cons_of_known named known freshHere (readsHere reader known _ shows) rest

end ReadMembers

end Notary.Json
