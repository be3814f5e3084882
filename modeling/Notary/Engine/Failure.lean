import Notary.Rejection

namespace Notary

/-!
# Failures of the signing engine

A call to the engine can fail in three ways, and the way alone decides how the
request is rejected. The messages go to the log only, outermost first.
-/

/-- Whose fault a failure is. -/
inductive FailureKind where
  | client
  | server
  | processing
deriving Repr, DecidableEq

namespace FailureKind

/-- The label of a kind in logs and counters. -/
def label : FailureKind → String
  | client => "client"
  | server => "server"
  | processing => "processing"

/-- The words before the message of a failure. -/
def heading : FailureKind → String
  | client => "client-side failure"
  | server => "server-side failure"
  | processing => "processing failure"

/-- How a request ends when a call fails in this way. -/
def rejection : FailureKind → Rejection
  | client => .notImplemented
  | server => .serviceUnavailable
  | processing => .internalServerError

end FailureKind

/--
A failure: its kind, the message of its direct cause and the messages of the
causes behind that one.
-/
structure Failure where
  kind : FailureKind
  cause : String
  deeper : List String
deriving Repr, DecidableEq

namespace Failure

/-- The text of a failure alone. -/
def text (f : Failure) : String :=
  f.kind.heading ++ ": " ++ f.cause

/-- The messages of a failure and of all its causes, outermost first. -/
def messages (f : Failure) : List String :=
  f.text :: f.cause :: f.deeper

/-- The text of a failure followed by all its causes. -/
def chain (f : Failure) : String :=
  ": caused by: ".intercalate f.messages

/-- How a request ends when a call fails so. -/
def rejection (f : Failure) : Rejection :=
  f.kind.rejection

end Failure

end Notary
