import Notary.Journal.Event

namespace Notary.Journal

/-!
# Notes

What the gateway leaves behind while it works: log events and increments of its
counters, in the order in which they happen.
-/

/-- An increment of a counter, or a sample of the duration histogram. -/
inductive Count where
  | request (operation : String) (status : Nat)
  | duration (operation : String)
  | reload (success : Bool)
  | failure (kind : FailureKind)
deriving Repr, DecidableEq

/-- The name of a counter with its labels, sorted. -/
def Count.name : Count → String
  | request operation status =>
      "gateway_requests_total\x7bstatus=" ++ toString status ++ ",workflow=" ++ operation ++ "\x7d"
  | duration operation => "gateway_request_duration_seconds\x7bworkflow=" ++ operation ++ "\x7d"
  | reload success =>
      "gateway_config_reloads_total\x7bresult=" ++
        (if success then "success" else "failure") ++ "\x7d"
  | failure kind => "gateway_capability_failures_total\x7bkind=" ++ kind.label ++ "\x7d"

/-- A log event or an increment. -/
inductive Note where
  | event (event : Event)
  | count (count : Count)
deriving Repr, DecidableEq

namespace Note

/-- The event of a note, if it is one. -/
def event? : Note → Option Event
  | event e => some e
  | count _ => none

/-- The increment of a note, if it is one. -/
def count? : Note → Option Count
  | count c => some c
  | event _ => none

end Note

/-- The events among notes. -/
def events (notes : List Note) : List Event :=
  notes.filterMap Note.event?

/-- The increments among notes. -/
def counts (notes : List Note) : List Count :=
  notes.filterMap Note.count?

/-- How often a counter is incremented. -/
def total (count : Count) (notes : List Note) : Nat :=
  (counts notes).countP (· = count)

/-- Totals add up. -/
theorem total_append
    (count : Count)
    (first second : List Note) :
    total count (first ++ second) = total count first + total count second := by
  simp [total, counts]

/-- Each counter that was incremented, with how often it was. -/
def totals (notes : List Note) : List (Count × Nat) :=
  (counts notes).eraseDups.map fun count => (count, total count notes)

/-- A note and the request it belongs to, if it is known there. -/
structure Entry where
  note : Note
  span : Option RequestSpan
deriving Repr, DecidableEq

/-- Notes as entries of one request, or of none. -/
def entries (span : Option RequestSpan) (notes : List Note) : List Entry :=
  notes.map fun note => ⟨note, span⟩

/-- The lines of the log among entries. -/
def lines (log : List Entry) : List Line :=
  log.filterMap fun entry => entry.note.event?.map fun event => ⟨event, entry.span⟩

end Notary.Journal
