import Notary.Http.Multipart
import Notary.Workflow.Request

namespace Notary.Http

/-!
# Requests from forms

A request for a workflow comes as a form. The part named `file` is the document;
every other named part is a text field, a later one overwriting an earlier one.
-/

open Journal (Note)

/-- The name of the part that carries the document. -/
def documentPart : String := "file"

/-- What was read from a form: the request, if the form was read whole, and what was noted. -/
structure FormReading where
  request : Option Request
  notes : List Note
deriving Repr, DecidableEq

/-- The words for a message whose boundary is missing or cannot be read. -/
def invalidBoundary : String :=
  "Invalid \x60boundary\x60 for \x60multipart/form-data\x60 request"

/-- The words for a form that breaks off. -/
def unreadableForm : String :=
  "Error parsing \x60multipart/form-data\x60 request"

/-- Put a part into a request. -/
def putPart (r : Request) (part : Part) : Request × List Note :=
  match part.name with
  | none => (r, [])
  | some name =>
      if name = documentPart then ({ r with document := some part.data }, [])
      else r.setNamed name part.text

/-- Put parts into a request, one after another. -/
def putParts (r : Request) : List Part → Request × List Note
  | [] => (r, [])
  | part :: rest =>
      let (r, notes) := putPart r part
      let (r, more) := putParts r rest
      (r, notes ++ more)

/-- The parts of a body, of which none can be read if it is larger than `bodyLimit`. -/
def partsWithin (bodyLimit : Nat) (boundary : String) (body : List UInt8) : Parts :=
  if bodyLimit < body.length then .broken else .ofBody boundary body

/-- Read the form of a message. -/
def readForm (bodyLimit : Nat) (m : Message) : FormReading :=
  match ((m.headerText? "content-type").bind MediaType.parse?).bind MediaType.formBoundary? with
  | none => ⟨none, [.event (.notAForm invalidBoundary)]⟩
  | some boundary =>
      let parts := partsWithin bodyLimit boundary m.body
      let start : Request := { Request.empty with accept := m.headerText? "accept" }
      let (request, notes) := putParts start parts.read
      if parts.complete then ⟨some request, notes⟩
      else ⟨none, notes ++ [.event (.formUnreadable unreadableForm)]⟩

end Notary.Http
