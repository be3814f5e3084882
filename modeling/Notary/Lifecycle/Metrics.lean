import Notary.Journal.Note

namespace Notary.Lifecycle

/-!
# The metrics endpoint

The endpoint takes its own address and then becomes the recorder of all counts,
of which a process has only one. The gateway runs without it if either fails.
-/

/-- What the endpoint finds when it starts. -/
structure EndpointState where
  /-- Why the address cannot be taken, if it cannot. -/
  addressFault : Option String
  /-- Whether the process has a recorder already. -/
  recorded : Bool
deriving Repr, DecidableEq

/-- The words for a second recorder. -/
def secondRecorder : String :=
  "failed to install exporter as global recorder: attempted to set a recorder after the " ++
    "metrics system was already initialized"

/-- What is logged about the start of the endpoint. -/
def EndpointState.event (s : EndpointState) : Journal.Event :=
  match s.addressFault with
  | some fault => .metricsRefused ("failed to create HTTP listener: " ++ fault)
  | none => if s.recorded then .metricsRefused secondRecorder else .metricsListening

/-- The words for an address that somebody else has taken. -/
def addressInUse : String := "Address already in use (os error 98)"

end Notary.Lifecycle
