import Notary.Config.Validation
import Notary.Proofs.Secret.FreshHash
import Notary.Workflow.Guard

namespace Notary.Secret

/-!
# Configured secrets made of fresh hashes

Fresh hashes with white space between them are a secret that validation has nothing to say
against. Whoever presents one of the secrets that were hashed passes the guard, and whoever
presents none is refused.
-/

/-- A hash is one word. -/
theorem isWord_text_ofSecret
    (salt : List UInt8)
    (plain : String) :
    Text.IsWord (StoredHash.ofSecret salt plain).text.toList where
  filled := by
    rw [StoredHash.text, String.toList_ofList]
    exact List.cons_ne_nil _ _
  solid := by
    intro c inside
    rw [StoredHash.text, String.toList_ofList] at inside
    obtain ⟨field, listed, inField⟩ := List.mem_flatMap.mp inside
    rcases List.mem_cons.mp inField with rfl | inField
    · rfl
    · exact (solid_of_mem_fields_ofSecret salt plain field listed c inField).2

/-- A secret that is not empty, and the salt that was drawn to hash it. -/
structure Draw where
  salt : List UInt8
  plain : String
  drawn : salt.length = saltLength
  filled : plain ≠ ""

namespace Draw

/-- The hash that is made of a draw. -/
def hash (draw : Draw) : StoredHash :=
  .ofSecret draw.salt draw.plain

/-- A salt of a legal length always gives a hash. -/
theorem hashSecret?_eq
    (draw : Draw) :
    hashSecret? draw.salt draw.plain = some draw.hash.text := by
  have filled : draw.plain.isEmpty = false := by
    rw [Bool.eq_false_iff, Ne, String.isEmpty_iff]
    exact draw.filled
  rw [hashSecret?, filled]
  rfl

theorem parse_text
    (draw : Draw) :
    StoredHash.parse draw.hash.text = .ok draw.hash :=
  parse_text_ofSecret draw.plain draw.drawn

theorem read_text
    (draw : Draw) :
    verifier.read draw.hash.text = .ok draw.hash := by
  simp only [verifier, draw.parse_text]

theorem verifies
    (draw : Draw) :
    verifier.verifies draw.hash draw.plain = true :=
  verifies_ofSecret draw.plain draw.drawn

end Draw

section Texts

variable
    {draws : List Draw}
    {text : String}

theorem mapM_hashSecret?
    (draws : List Draw) :
    draws.mapM (fun draw => hashSecret? draw.salt draw.plain) =
      some (draws.map fun draw => draw.hash.text) := by
  simp only [Draw.hashSecret?_eq]
  exact List.mapM_pure

/-- The text of a fresh hash is one word, without blanks in it. -/
theorem isWord_of_mem_hashes
    {word : List Char}
    (inside : word ∈ (draws.map fun draw => draw.hash.text).map String.toList) :
    Text.IsWord word := by
  obtain ⟨text, listed, rfl⟩ := List.mem_map.mp inside
  obtain ⟨draw, -, rfl⟩ := List.mem_map.mp listed
  exact isWord_text_ofSecret draw.salt draw.plain

variable
    (spaced : Text.Spaced ((draws.map fun draw => draw.hash.text).map String.toList) text.toList)

include spaced

/-- The tokens of a spaced list of fresh hashes are the hashes. -/
theorem wordsOf_of_spaced :
    Text.wordsOf text = draws.map fun draw => draw.hash.text := by
  rw [Text.wordsOf, spaced.words_eq fun _ => isWord_of_mem_hashes, List.map_map]
  simp

theorem blank_of_spaced :
    Text.blank text = false :=
  spaced.allBlank_eq_false fun _ => isWord_of_mem_hashes

/-- Validation has nothing to say against the hashes. -/
theorem checkSecret_of_spaced :
    Config.checkSecret (some text) = [] := by
  rw [Config.checkSecret, wordsOf_of_spaced spaced]
  refine List.filterMap_eq_nil_iff.mpr ?_
  intro token inside
  obtain ⟨draw, -, rfl⟩ := List.mem_map.mp inside
  rw [draw.parse_text]

end Texts

section HoldAgainst

variable
    {Hash Fault : Type}
    {v : Verifier Hash Fault}
    {candidate : String}
    {tokens : List String}

/-- A secret that one of several readable hashes verifies is let through. -/
theorem holdAgainst_of_verifies
    {token : String}
    {hash : Hash}
    (readable : ∀ token ∈ tokens, ∃ hash, v.read token = .ok hash)
    (inside : token ∈ tokens)
    (reads : v.read token = .ok hash)
    (verifies : v.verifies hash candidate = true) :
    holdAgainst v candidate tokens = ⟨false, []⟩ := by
  induction tokens with
  | nil =>
      cases inside
  | cons first tokens inductionHypothesis =>
      obtain ⟨⟨firstHash, readsFirst⟩, readableRest⟩ := List.forall_mem_cons.mp readable
      rw [holdAgainst, readsFirst]
      by_cases first : v.verifies firstHash candidate = true
      · exact if_pos first
      · have later : token ∈ tokens := by
          rcases List.mem_cons.mp inside with rfl | later
          · rw [reads] at readsFirst
            cases readsFirst
            exact absurd verifies first
          · exact later
        simp only [first, Bool.false_eq_true, if_false]
        exact inductionHypothesis readableRest later

end HoldAgainst

variable
    {draws : List Draw}
    {text : String}
    (spaced : Text.Spaced ((draws.map fun draw => draw.hash.text).map String.toList) text.toList)

include spaced

/-- A caller who knows one of the hashed secrets is let through without a warning. -/
theorem verdict_of_mem
    {draw : Draw}
    (listed : draw ∈ draws) :
    verdict verifier (some text) (some draw.plain) = ⟨false, []⟩ := by
  have readable :
      ∀ token ∈ draws.map (fun draw => draw.hash.text),
        ∃ hash, verifier.read token = .ok hash := by
    intro token inside
    obtain ⟨draw, -, rfl⟩ := List.mem_map.mp inside
    exact ⟨draw.hash, draw.read_text⟩
  rw [verdict, blank_of_spaced spaced, wordsOf_of_spaced spaced]
  exact holdAgainst_of_verifies readable (List.mem_map_of_mem listed) draw.read_text draw.verifies

/-- A caller without a secret is turned away. -/
theorem verdict_of_none :
    verdict verifier (some text) none = ⟨true, []⟩ := by
  rw [verdict, blank_of_spaced spaced]
  rfl

omit spaced

/--
Hashing secrets that are not empty never fails, and a text of the hashes with white space
between them works as the secret of a signing configuration: it adds no problem to those of
the configuration, each of the secrets passes, and no secret does not. The empty secret is
not hashed.
-/
theorem freshSecret_accepted :
    (∀ salt, hashSecret? salt "" = none) ∧
      ∀ draws : List Draw,
        ∃ hashes,
          draws.mapM (fun draw => hashSecret? draw.salt draw.plain) = some hashes ∧
            ∀ text : String, Text.Spaced (hashes.map String.toList) text.toList →
              ∀ entry : Config.SigningEntry,
                (Config.Entry.signature { entry with secret := some text }).problems =
                    (Config.Entry.signature { entry with secret := none }).problems ∧
                  (∀ draw ∈ draws,
                    Guard.checkSecret true { entry with secret := some text }
                        (some draw.plain) =
                      .done ()) ∧
                  Guard.checkSecret true { entry with secret := some text } none =
                    .refuse (.secretRefused entry.id) .unauthorized := by
  refine ⟨fun _ => rfl, fun draws => ⟨_, mapM_hashSecret? draws, ?_⟩⟩
  intro text spaced entry
  refine ⟨?_, ?_, ?_⟩
  · rw [Config.Entry.problems, Config.Entry.ownProblems, checkSecret_of_spaced spaced]
    rfl
  · intro draw listed
    rw [Guard.checkSecret, if_pos rfl, verdict_of_mem spaced listed]
    rfl
  · rw [Guard.checkSecret, if_pos rfl, verdict_of_none spaced]
    rfl

/-- Two hashes on two lines: a caller with the second secret passes, one without secret does not. -/
theorem freshSecret_accepted_two_lines :
    ∃ first second,
      hashSecret? (List.replicate 16 7) "river" = some first ∧
        hashSecret? (List.replicate 16 9) "stone" = some second ∧
        Guard.checkSecret true
            ⟨"s1", "p1", some (first ++ "\n" ++ second), none,
              ⟨"k.p12", "pw", "SHA256", "c14n", .enveloped, none, none, none, none⟩⟩
            (some "stone") =
          .done () ∧
        Guard.checkSecret true
            ⟨"s1", "p1", some (first ++ "\n" ++ second), none,
              ⟨"k.p12", "pw", "SHA256", "c14n", .enveloped, none, none, none, none⟩⟩
            none =
          .refuse (.secretRefused "s1") .unauthorized := by
  let river : Draw := ⟨List.replicate 16 7, "river", rfl, by decide⟩
  let stone : Draw := ⟨List.replicate 16 9, "stone", rfl, by decide⟩
  obtain ⟨hashes, hashed, accepted⟩ := freshSecret_accepted.2 [river, stone]
  have hashedRiver := river.hashSecret?_eq
  have hashedStone := stone.hashSecret?_eq
  rw [mapM_hashSecret?] at hashed
  obtain rfl : [river.hash.text, stone.hash.text] = hashes := Option.some.inj hashed
  generalize river.hash.text = first, stone.hash.text = second at *
  obtain ⟨-, passes, refused⟩ :=
    accepted (first ++ String.singleton '\n' ++ second) (.pair rfl first second)
      ⟨"s1", "p1", none, none,
        ⟨"k.p12", "pw", "SHA256", "c14n", .enveloped, none, none, none, none⟩⟩
  exact ⟨first, second, hashedRiver, hashedStone, passes stone (by simp), refused⟩

end Notary.Secret
