import Notary.Config.Load
import Notary.Proofs.Config.Flaws
import Notary.Proofs.Json.RoundTrip

namespace Notary.Config

/-!
# Configuration texts are read by name

A configuration text of the JSON grammar is read as its members say, wherever they stand and
whatever blanks there are. So what is known about members holds for texts: changes that make no
difference leave the document the same, and a flaw leaves none.
-/

open Json (Member Outline Padded Value write)

/-- A text that says an object is read as a document as the object's members say. -/
theorem Document.toOption_ofText
    {members : List Member}
    {text : List Char}
    (said : Padded (.object members) text) :
    (ofText (text.map .char)).toOption = ofMembers? members := by
  obtain ⟨tree, depicts, reads⟩ := said.exists_readTree
  rw [ofText, reads]
  exact (Json.toOption_bind _ _).trans
    ((Option.bind_fun_some _).trans (toOption_readDocument .text depicts))

/-- Any number of changes that make no difference, in either direction, make none together. -/
theorem Document.ofMembers?_of_eqvGen
    {members others : List Member}
    (rearranged : Relation.EqvGen Alters members others) :
    ofMembers? members = ofMembers? others := by
  induction rearranged with
  | rel _ _ altered =>
      exact ofMembers?_of_alters altered
  | refl =>
      rfl
  | symm _ _ _ inductionHypothesis =>
      exact inductionHypothesis.symm
  | trans _ _ _ _ _ first second =>
      exact first.trans second

/-- A text that makes no document makes no snapshot. -/
theorem Snapshot.ofText_ne_ok
    {text : List Char}
    (nothing : (Document.ofText (text.map .char)).toOption = none)
    (s : Snapshot) :
    ofText text ≠ .ok s := by
  rw [ofText, ofSymbols]
  cases made : Document.ofText (text.map .char) with
  | error flaw =>
      intro same
      cases same
  | ok document =>
      rw [made] at nothing
      cases nothing

/--
A configuration text is read by name. Texts whose members differ by changes that make no
difference are read alike: both as the same document, or neither as one. A text whose members
have a flaw makes no snapshot.
-/
theorem Document.readsByName
    {members : List Member}
    {text : List Char}
    (said : Padded (.object members) text) :
    (∀ {others : List Member} {text' : List Char}, Padded (.object others) text' →
      Relation.EqvGen Alters members others →
        (ofText (text.map .char)).toOption = (ofText (text'.map .char)).toOption) ∧
      (Flawed members → ∀ s, Snapshot.ofText text ≠ .ok s) := by
  constructor
  · intro others text' said' rearranged
    rw [toOption_ofText said, toOption_ofText said', ofMembers?_of_eqvGen rearranged]
  · intro flawed
    refine Snapshot.ofText_ne_ok ?_
    rw [toOption_ofText said, ofMembers?_of_flawed flawed]

/-- A verification with its two members. -/
def plainVerification : Value :=
  .object
    [("signatureVerification",
      .array [.object [("id", .string "1"), ("rules", .string "r")]])]

/-- The same verification in another order, among foreign members and empty ones. -/
def mixedVerification : Value :=
  .object
    [("version", .null),
      ("signatureVerification",
        .array
          [.object
            [("rules", .string "r"), ("id", .string "1"), ("note", .array []),
              ("metadata", .string ""), ("description", .null), ("note", .bool true)]])]

/-- An authority without its certificate and its revocation list. -/
def lackingAuthority : Value :=
  .object [("ca", .array [.object [("id", .string "a")]])]

/-- One configuration in two orders, and one that lacks a certificate. -/
theorem readsByName_verification :
    (Document.ofText ((write plainVerification).map .char)).toOption =
        some ⟨[], [], [⟨"1", none, ⟨"r", ""⟩⟩], [], []⟩ ∧
      (Document.ofText ((write plainVerification).map .char)).toOption =
        (Document.ofText ((' ' :: (write mixedVerification ++ ['\n'])).map .char)).toOption ∧
      ∀ s, Snapshot.ofText (write lackingAuthority) ≠ .ok s := by
  have plain : plainVerification.Plain 4 := by
    simp [plainVerification, Value.Plain, Json.PlainItems, Json.PlainMembers]
  have mixed : mixedVerification.Plain 5 := by
    simp [mixedVerification, Value.Plain, Json.PlainItems, Json.PlainMembers]
  have lacking : lackingAuthority.Plain 4 := by
    simp [lackingAuthority, Value.Plain, Json.PlainItems, Json.PlainMembers]
  have entry
      {own others : List Member}
      (altered : Kind.Alters .signatureVerification own others) :
      Relation.EqvGen Document.Alters
        [(some "signatureVerification", .array [.object own])]
        [(some "signatureVerification", .array [.object others])] :=
    .rel _ _ (@Document.Alters.entry .signatureVerification own others [] [] [] altered)
  have rearranged :
      Relation.EqvGen Document.Alters
        (Json.memberOutlines [("signatureVerification",
          .array [.object [("id", .string "1"), ("rules", .string "r")]])])
        (Json.memberOutlines [("version", .null), ("signatureVerification",
          .array [.object [("rules", .string "r"), ("id", .string "1"), ("note", .array []),
            ("metadata", .string ""), ("description", .null), ("note", .bool true)]])]) := by
    refine .trans _ _ _ (entry (@Kind.Alters.foreign _ "note" (.array []) _ rfl rfl)) ?_
    refine .trans _ _ _ (entry (.metadata rfl (by decide))) ?_
    refine .trans _ _ _ (entry (@Kind.Alters.optional _ "description" _ rfl (by decide))) ?_
    refine .trans _ _ _ (entry (@Kind.Alters.foreign _ "note" (.bool true) _ rfl rfl)) ?_
    refine .trans _ _ _ (entry (.reorder (List.reverse_perm _).symm)) ?_
    exact .rel _ _ (.foreign fun kind => by cases kind <;> decide)
  have flawed :
      Document.Flawed [(some "ca", .array [.object [(some "id", .string (some "a"))]])] := by
    refine @Document.Flawed.entry _ .ca _ _ List.mem_cons_self List.mem_cons_self ?_
    exact @Kind.Flawed.lacking _ _ "crl" (.inl ⟨rfl, by decide⟩) (by decide)
  have spaced : Padded mixedVerification.outline (' ' :: (write mixedVerification ++ ['\n'])) :=
    .mk (List.forall_mem_singleton.mpr rfl) mixed.written (List.forall_mem_singleton.mpr rfl)
  have made := Document.toOption_ofText plain.written.padded
  refine ⟨made.trans rfl, ?_, ?_⟩
  · exact (Document.readsByName plain.written.padded).1 spaced rearranged
  · exact (Document.readsByName lacking.written.padded).2 flawed

end Notary.Config
