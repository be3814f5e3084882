import Notary.Proofs.Digest.Length
import Notary.Proofs.Text.Base64
import Notary.Proofs.Text.Words
import Notary.Secret.Verify

namespace Notary.Secret

/-!
# Fresh hashes

The text of a fresh hash is a single word that reads as the hash it was written from, and
the recipe that is recovered from it is the one that the hash was made with. So the secret
that was hashed is verified, and as no other parameters are involved, it is verified
whatever stands beside the hash.
-/

open Digest Text

variable
    (salt : List UInt8)
    (plain : String)

/-- A field of a hash that stays whole in a text: no separator of fields, and no white space. -/
def Solid (field : List Char) : Prop :=
  ∀ c ∈ field, c ≠ '$' ∧ isBlank c = false

/-- Base64 without padding holds no dollar sign. -/
theorem solid_encodeUnpadded
    (bytes : List UInt8) :
    Solid (Base64.encodeUnpadded bytes) :=
  Base64.forall_mem_encodeUnpadded (by decide) bytes

theorem isValueChar_of_mem_encodeUnpadded
    (bytes : List UInt8) :
    ∀ c ∈ Base64.encodeUnpadded bytes, isValueChar c = true :=
  Base64.forall_mem_encodeUnpadded (by decide) bytes

theorem byteCount_cons
    (c : Char)
    (cs : List Char) :
    byteCount (c :: cs) = c.utf8Size + byteCount cs := by
  rw [byteCount, String.ofList_cons, String.utf8ByteSize_append, String.utf8ByteSize_singleton]
  rfl

theorem byteCount_of_ascii
    {cs : List Char}
    (ascii : ∀ c ∈ cs, c.utf8Size = 1) :
    byteCount cs = cs.length := by
  induction cs with
  | nil =>
      rfl
  | cons c cs inductionHypothesis =>
      obtain ⟨asciiHere, asciiRest⟩ := List.forall_mem_cons.mp ascii
      rw [byteCount_cons, asciiHere, inductionHypothesis asciiRest, List.length_cons, Nat.add_comm]

/-- The length of base64 without padding, in bytes. -/
theorem byteCount_encodeUnpadded
    (bytes : List UInt8) :
    byteCount (Base64.encodeUnpadded bytes) = (4 * bytes.length + 2) / 3 := by
  rw [byteCount_of_ascii (Base64.forall_mem_encodeUnpadded (by decide) bytes),
    Base64.length_encodeUnpadded]

/-- Base64 of a salt is a salt, if it is neither too short nor too long. -/
theorem readSalt_encodeUnpadded
    {bytes : List UInt8}
    (long : 3 ≤ bytes.length)
    (short : bytes.length ≤ 48) :
    readSalt (Base64.encodeUnpadded bytes) = .ok (Base64.encodeUnpadded bytes) := by
  have allowed :
      (Base64.encodeUnpadded bytes).find? (fun c => !isValueChar c) = none := by
    rw [List.find?_eq_none]
    intro c inside
    simp [isValueChar_of_mem_encodeUnpadded bytes c inside]
  rw [readSalt, byteCount_encodeUnpadded, if_neg (by omega), if_neg (by omega), checkCharacters,
    allowed]
  rfl

/-- Base64 of a digest is read as the digest, if it is neither too short nor too long. -/
theorem readOutput_encodeUnpadded
    {bytes : List UInt8}
    (long : leastOutput ≤ bytes.length)
    (short : bytes.length ≤ greatestOutput) :
    readOutput (Base64.encodeUnpadded bytes) = .ok bytes := by
  have fits : ¬ greatestOutput < decodedLength ((4 * bytes.length + 2) / 3) := by
    simp only [decodedLength, greatestOutput] at short ⊢
    omega
  rw [readOutput, byteCount_encodeUnpadded, if_neg fits,
    Base64.decodeUnpadded?_encodeUnpadded]
  exact if_neg (Nat.not_lt.mpr long)

/-- The digest in a fresh hash. -/
def freshOutput : List UInt8 :=
  Argon2.hash freshSettings plain.toUTF8.toList salt

theorem length_freshOutput :
    (freshOutput salt plain).length = 32 :=
  Argon2.length_hash _ _ _

/-- The fields that all fresh hashes have in common. -/
def freshFields : List (List Char) :=
  ["v=19".toList, "m=19456,t=2,p=1".toList]

/-- The parameters of fresh hashes. -/
def freshParameters : List Parameter :=
  [numberParameter 'm' 19456, numberParameter 't' 2, numberParameter 'p' 1]

/-- The fields of a fresh hash: its version and parameters, its salt and its output. -/
theorem fields_ofSecret :
    (StoredHash.ofSecret salt plain).fields =
      freshFields ++
        [Base64.encodeUnpadded salt, Base64.encodeUnpadded (freshOutput salt plain)] := by
  rfl

/--
No field of a fresh hash holds a dollar sign, so that splitting the text at the dollar signs gives
the fields back.
-/
theorem solid_of_mem_fields_ofSecret :
    ∀ field ∈ "argon2id".toList :: (StoredHash.ofSecret salt plain).fields, Solid field := by
  rw [fields_ofSecret, ← List.cons_append]
  refine List.forall_mem_append.mpr ⟨?_, ?_⟩
  · simp [freshFields, Solid, isBlank]
  · intro field inside
    obtain rfl | rfl :
        field = Base64.encodeUnpadded salt ∨
          field = Base64.encodeUnpadded (freshOutput salt plain) := by
      simpa using inside
    · exact solid_encodeUnpadded _
    · exact solid_encodeUnpadded _

theorem intercalate_cons
    {α : Type}
    (separator : α)
    (part : List α)
    (parts : List (List α)) :
    [separator].intercalate (part :: parts) = part ++ parts.flatMap (separator :: ·) := by
  induction parts generalizing part with
  | nil =>
      simp
  | cons next parts inductionHypothesis =>
      rw [List.intercalate_cons_cons, inductionHypothesis]
      simp

/-- The text of a fresh hash falls apart into its fields. -/
theorem splitOn_text_ofSecret :
    (StoredHash.ofSecret salt plain).text.toList.splitOn '$' =
      [] :: "argon2id".toList :: (StoredHash.ofSecret salt plain).fields := by
  have joined :
      (StoredHash.ofSecret salt plain).text.toList =
        ['$'].intercalate
          ([] :: "argon2id".toList :: (StoredHash.ofSecret salt plain).fields) := by
    rw [intercalate_cons, StoredHash.text, String.toList_ofList]
    rfl
  rw [joined]
  refine List.splitOn_intercalate '$' ?_ (List.cons_ne_nil _ _)
  intro field inside
  rcases List.mem_cons.mp inside with rfl | inside
  · exact List.not_mem_nil
  · intro separator
    exact (solid_of_mem_fields_ofSecret salt plain field inside '$' separator).1 rfl

theorem readName_argon2id :
    readName "argon2id".toList = .ok "argon2id".toList := by
  rfl

/--
Reading the version and the parameters of a fresh hash leaves its salt and its output to be read.
-/
theorem readFromVersion_freshFields
    (rest : List (List Char)) :
    readFromVersion ⟨"argon2id".toList, none, [], none, none⟩ (freshFields ++ rest) =
      readTail ⟨"argon2id".toList, some 19, freshParameters, none, none⟩ rest := by
  rfl

variable {salt}

/-- The text of a fresh hash reads as the hash. -/
theorem parse_text_ofSecret
    (drawn : salt.length = saltLength) :
    StoredHash.parse (StoredHash.ofSecret salt plain).text =
      .ok (StoredHash.ofSecret salt plain) := by
  have saltReads : readSalt (Base64.encodeUnpadded salt) = .ok (Base64.encodeUnpadded salt) :=
    readSalt_encodeUnpadded (by rw [drawn]; decide) (by rw [drawn]; decide)
  have outputReads :
      readOutput (Base64.encodeUnpadded (freshOutput salt plain)) = .ok (freshOutput salt plain) :=
    readOutput_encodeUnpadded (by rw [length_freshOutput]; decide)
      (by rw [length_freshOutput]; decide)
  rw [StoredHash.parse, StoredHash.ofChars, splitOn_text_ofSecret]
  change
    (readName "argon2id".toList).bind
        (fun name => readFromVersion ⟨name, none, [], none, none⟩ _) =
      _
  rw [readName_argon2id, Except.bind, fields_ofSecret, readFromVersion_freshFields, readTail,
    saltReads, outputReads]
  rfl

/-- The parameters of a fresh hash are the default costs. -/
theorem foldlM_set?_freshParameters :
    freshParameters.foldlM Costs.set? Costs.default = some Costs.default := by
  decide

/-- A fresh hash is verified against with the recipe it was made with. -/
theorem recipe?_ofSecret
    (drawn : salt.length = saltLength) :
    (StoredHash.ofSecret salt plain).recipe? =
      some ⟨freshSettings, salt, freshOutput salt plain⟩ := by
  have costs :
      (StoredHash.ofSecret salt plain).parameters.foldlM Costs.set? Costs.default =
        some Costs.default :=
    foldlM_set?_freshParameters
  have saltDecodes := Base64.decodeUnpadded?_encodeUnpadded salt
  have admissible : (Costs.default.admissible && decide (8 ≤ salt.length)) = true := by
    rw [drawn]
    decide
  have size : (freshOutput salt plain).length = freshSettings.size := length_freshOutput salt plain
  rw [StoredHash.recipe?, costs]
  change
    ((Base64.decodeUnpadded? (Base64.encodeUnpadded salt)).bind fun bytes =>
        if (Costs.default.admissible && decide (8 ≤ bytes.length)) = true then
          some
            (Recipe.mk { freshSettings with size := (freshOutput salt plain).length } bytes
              (freshOutput salt plain))
        else none) =
      _
  rw [saltDecodes, Option.bind_some, if_pos admissible, size]

/-- The secret that was hashed is verified against the hash. -/
theorem verifies_ofSecret
    (drawn : salt.length = saltLength) :
    (StoredHash.ofSecret salt plain).verifies plain = true := by
  rw [StoredHash.verifies, recipe?_ofSecret plain drawn]
  exact beq_self_eq_true _

end Notary.Secret
