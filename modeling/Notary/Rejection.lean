namespace Notary

/-!
# Rejections

A workflow that stops early ends with exactly one of six rejections. Each has a
status code and carries no body.
-/

/-- How a workflow that stops early ends. -/
inductive Rejection where
  | badRequest
  | unauthorized
  | notFound
  | notImplemented
  | serviceUnavailable
  | internalServerError
deriving Repr, DecidableEq

namespace Rejection

/-- The status code of a rejection. -/
def status : Rejection → Nat
  | badRequest => 400
  | unauthorized => 401
  | notFound => 404
  | notImplemented => 501
  | serviceUnavailable => 503
  | internalServerError => 500

/-- The words that go with a status code. -/
def phrase : Rejection → String
  | badRequest => "Bad Request"
  | unauthorized => "Unauthorized"
  | notFound => "Not Found"
  | notImplemented => "Not Implemented"
  | serviceUnavailable => "Service Unavailable"
  | internalServerError => "Internal Server Error"

/-- The status line of a rejection: its code and its words. -/
def statusText (r : Rejection) : String :=
  toString r.status ++ " " ++ r.phrase

end Rejection

end Notary
