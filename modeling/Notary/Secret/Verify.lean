import Notary.Digest.Argon2
import Notary.Secret.StoredHash
import Notary.Text.Blank

namespace Notary.Secret

/-!
# Verifying secrets

A stored hash can be verified against when it names an Argon2 variant and a
known version, its parameters are ones that the digest takes, and it carries both
a salt and a digest. A configured secret is a text of such hashes between white
space; a caller's secret matches it when it verifies against one of them.
-/

open Digest

/-- The variant of a name. -/
def variant? (name : List Char) : Option Argon2.Variant :=
  if name = "argon2d".toList then some .d
  else if name = "argon2i".toList then some .i
  else if name = "argon2id".toList then some .id
  else none

/-- The version of a number; the newest one for a hash without version. -/
def version? : Option Nat → Option Argon2.Version
  | none => some .adding
  | some 16 => some .overwriting
  | some 19 => some .adding
  | some _ => none

/-- The costs of a stored hash, with the defaults for those it leaves out. -/
structure Costs where
  memory : Nat
  passes : Nat
  lanes : Nat
  associated : List UInt8
deriving Repr, DecidableEq

/-- The costs of a hash that names none. -/
def Costs.default : Costs := ⟨19456, 2, 1, []⟩

/-- Bytes in Base64, up to a number of them. -/
def boundedBytes? (limit : Nat) (value : List Char) : Option (List UInt8) :=
  (Text.Base64.decodeUnpadded? value).bind fun bytes =>
    if bytes.length ≤ limit then some bytes else none

/-- Take one parameter into the costs; a repeated one replaces the one before. -/
def Costs.set? (c : Costs) (p : Parameter) : Option Costs :=
  if p.name = ['m'] then (readDecimal p.value).toOption.map fun n => { c with memory := n }
  else if p.name = ['t'] then (readDecimal p.value).toOption.map fun n => { c with passes := n }
  else if p.name = ['p'] then (readDecimal p.value).toOption.map fun n => { c with lanes := n }
  else if p.name = "keyid".toList then (boundedBytes? 8 p.value).map fun _ => c
  else if p.name = "data".toList then
    (boundedBytes? 32 p.value).map fun bytes => { c with associated := bytes }
  else none

/-- Whether the digest takes these costs. -/
def Costs.admissible (c : Costs) : Bool :=
  decide (8 ≤ c.memory) && decide (c.lanes * 8 ≤ c.memory) && decide (1 ≤ c.passes) &&
    decide (1 ≤ c.lanes) && decide (c.lanes ≤ 0xFFFFFF)

/-- What the digest needs to recompute a stored hash. -/
structure Recipe where
  settings : Argon2.Settings
  salt : List UInt8
  output : List UInt8
deriving Repr, DecidableEq

/-- The recipe of a stored hash, if it can be verified against. -/
def StoredHash.recipe? (h : StoredHash) : Option Recipe := do
  let written ← h.salt
  let output ← h.output
  let costs ← h.parameters.foldlM Costs.set? Costs.default
  let variant ← variant? h.algorithm
  let version ← version? h.version
  let salt ← Text.Base64.decodeUnpadded? written
  if costs.admissible && decide (8 ≤ salt.length) then
    some {
      settings :=
        { variant, version
          memory := costs.memory
          passes := costs.passes
          lanes := costs.lanes
          size := output.length
          associated := costs.associated }
      salt, output }
  else none

/-- Whether a secret yields the digest of a stored hash. -/
def StoredHash.verifies (h : StoredHash) (candidate : String) : Bool :=
  match h.recipe? with
  | some r => Argon2.hash r.settings candidate.toUTF8.toList r.salt == r.output
  | none => false

/-- How stored hashes are read and verified against. -/
structure Verifier (Hash Fault : Type) where
  read : String → Except Fault Hash
  verifies : Hash → String → Bool

/-- Stored hashes are read in their common text form and verified with Argon2. -/
def verifier : Verifier StoredHash HashFault :=
  ⟨StoredHash.parse, StoredHash.verifies⟩

/-- The outcome of holding a caller's secret against a configured one. -/
structure Verdict (Fault : Type) where
  /-- Whether a secret is configured and the caller's one does not match. -/
  rejects : Bool
  /-- Why tokens were passed over, in order, up to the one that matched. -/
  skipped : List Fault
deriving Repr, DecidableEq

/-- Hold a secret against tokens, up to the first one that it matches. -/
def holdAgainst {Hash Fault : Type}
    (v : Verifier Hash Fault)
    (candidate : String) :
    List String → Verdict Fault
  | [] => ⟨true, []⟩
  | token :: rest =>
      match v.read token with
      | .ok hash =>
          if v.verifies hash candidate then ⟨false, []⟩ else holdAgainst v candidate rest
      | .error fault =>
          let verdict := holdAgainst v candidate rest
          ⟨verdict.rejects, fault :: verdict.skipped⟩

/-- Hold a caller's secret, if there is one, against a configured one, if there is one. -/
def verdict {Hash Fault : Type}
    (v : Verifier Hash Fault)
    (configured candidate : Option String) :
    Verdict Fault :=
  match configured with
  | none => ⟨false, []⟩
  | some text =>
      if Text.blank text then ⟨false, []⟩
      else
        match candidate with
        | none => ⟨true, []⟩
        | some candidate => holdAgainst v candidate (Text.wordsOf text)

/-- The number of random bytes in a fresh salt. -/
def saltLength : Nat := 16

/-- The digest settings of fresh hashes. -/
def freshSettings : Argon2.Settings :=
  { variant := .id
    version := .adding
    memory := Costs.default.memory
    passes := Costs.default.passes
    lanes := Costs.default.lanes
    size := 32
    associated := Costs.default.associated }

/-- A parameter with a number for its value. -/
def numberParameter (name : Char) (n : Nat) : Parameter :=
  ⟨[name], (toString n).toList⟩

/-- The stored hash of a secret with a salt. -/
def StoredHash.ofSecret (salt : List UInt8) (plain : String) : StoredHash :=
  let s := freshSettings
  { algorithm := "argon2id".toList
    version := some s.version.number
    parameters :=
      [numberParameter 'm' s.memory, numberParameter 't' s.passes, numberParameter 'p' s.lanes]
    salt := some (Text.Base64.encodeUnpadded salt)
    output := some (Argon2.hash s plain.toUTF8.toList salt) }

/-- The message for a secret that is empty. -/
def emptySecret : String :=
  "secret must not be empty"

/-- The text of a fresh hash; there is none for the empty secret. -/
def hashSecret? (salt : List UInt8) (plain : String) : Option String :=
  if plain.isEmpty then none else some (StoredHash.ofSecret salt plain).text

end Notary.Secret
