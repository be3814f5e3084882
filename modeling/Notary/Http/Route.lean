import Notary.Http.Message
import Notary.Workflow.Kind

namespace Notary.Http

/-!
# Routes

What the gateway answers, by path and method.
-/

/-- What is at a path. -/
inductive Resource where
  | authorities
  | secretHash
  | status
  | workflow (workflow : Workflow)
deriving Repr, DecidableEq

namespace Resource

/-- All resources. -/
def all : List Resource :=
  [authorities, secretHash, status] ++ Workflow.all.map workflow

/-- The path of a resource. -/
def path : Resource → String
  | authorities => "/ca"
  | secretHash => "/secrets/hash"
  | status => "/status"
  | workflow w => w.path

/-- The name of what a resource does, in logs and counters. -/
def operation : Resource → String
  | authorities => "ca"
  | secretHash => "hash_secret"
  | status => "status"
  | workflow w => w.name

/-- The methods that a resource allows. -/
def methods : Resource → List String
  | authorities | status => ["GET", "HEAD"]
  | secretHash | workflow _ => ["POST"]

/-- The resource at a path. -/
def atPath? (path : String) : Option Resource :=
  all.find? (·.path = path)

end Resource

/-- Where a message leads. -/
inductive Route where
  | resource (resource : Resource)
  /-- There is nothing at the path. -/
  | unknownPath
  /-- The path allows other methods only. -/
  | otherMethod (allowed : List String)
deriving Repr, DecidableEq

/-- The route of a message. -/
def Message.route (m : Message) : Route :=
  match Resource.atPath? m.path with
  | none => .unknownPath
  | some r => if m.method ∈ r.methods then .resource r else .otherMethod r.methods

end Notary.Http
