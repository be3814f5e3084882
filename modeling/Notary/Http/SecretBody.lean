import Notary.Http.MediaType
import Notary.Json.Members

namespace Notary.Http

/-!
# Bodies with a secret

The body of a request for a hash is JSON: an object with the secret under
`plainSecret`, or an array whose only item it is. A missing secret is empty. The
words for a defect tell the member or the item in which it was met.
-/

open Json

/-- Why the secret of a message cannot be read. -/
inductive SecretFault where
  | notJson
  | tooLarge
  /-- A flaw of the body; `inside` is the member or the item in which it was met. -/
  | flawed (inside : Option String) (cause : Cause) (position : Position)
deriving Repr, DecidableEq

namespace SecretFault

/-- Whether a body is defective as a text or holds something else than a secret. -/
def kindText : Cause → String
  | .fault _ => "Failed to parse the request body as JSON: "
  | .mismatch _ => "Failed to deserialize the JSON body into the target type: "

/-- The words for a fault. -/
def text : SecretFault → String
  | notJson => "Expected request with \x60Content-Type: application/json\x60"
  | tooLarge => "Failed to buffer the request body: length limit exceeded"
  | flawed inside cause position =>
      kindText cause ++ ((inside.map (· ++ ": ")).getD "") ++ cause.text ++ position.suffix

end SecretFault

/-- A flaw with the member or the item in which it was met. -/
structure PlacedFlaw where
  inside : Option String
  flaw : Flaw
deriving Repr, DecidableEq

/-- The name of the member that holds the secret. -/
def secretMember : String := "plainSecret"

/-- Read the members of a body; `secret` is what was read before. -/
def readSecretMembers (secret : Option String) : List (Name × Tree) → Except PlacedFlaw String
  | [] => .ok (secret.getD "")
  | (name, tree) :: rest =>
      match name.text with
      | .error fault => .error ⟨none, .ofFault fault⟩
      | .ok text =>
          if text = secretMember then
            if secret.isSome then .error ⟨none, .ofMismatch (.repeatedMember text) name.after⟩
            else
              match tree.asString with
              | .ok value => readSecretMembers (some value) rest
              | .error flaw => .error ⟨some text, flaw⟩
          else
            match tree.pass with
            | .ok () => readSecretMembers secret rest
            | .error flaw => .error ⟨some text, flaw⟩

/-- Read a secret from a tree. -/
def readSecretTree : Tree → Except PlacedFlaw String
  | .object members _ => readSecretMembers none members
  | .array [] _ => .ok ""
  | .array (first :: rest) _ =>
      match first.asString, rest with
      | .error flaw, _ => .error ⟨some "[0]", flaw⟩
      | .ok value, [] => .ok value
      | .ok _, extra :: more => .error ⟨none, excessItem .text (more.length + 2) extra⟩
  | tree => (tree.refuse "struct PlainSecret").mapError fun flaw => ⟨none, flaw⟩

/-- Read a secret from a text that must hold nothing else. -/
def readSecretText (text : List Text.Symbol) : Except PlacedFlaw String := do
  let reading := readTree text
  let secret ← readSecretTree reading.root
  match reading.trailing with
  | some fault => .error ⟨none, .ofFault fault⟩
  | none => return secret

/-- Read the secret of a message. -/
def readSecret (bodyLimit : Nat) (m : Message) : Except SecretFault String :=
  match (m.headerText? "content-type").bind MediaType.parse? with
  | some type =>
      if !type.isJson then .error .notJson
      else if bodyLimit < m.body.length then .error .tooLarge
      else
        let text := Text.symbols m.body
        (readSecretText text).mapError fun placed =>
          .flawed placed.inside placed.flaw.cause (.ofOffset text placed.flaw.offset)
  | none => .error .notJson

end Notary.Http
