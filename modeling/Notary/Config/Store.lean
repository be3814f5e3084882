import Notary.Config.Load

namespace Notary.Config

/-!
# The store

The store holds the snapshot that requests see. A reload publishes a new one only
if the file holds a valid configuration; whoever holds an older snapshot keeps
it. Snapshots are told apart by the number of publications before them.
-/

open Journal (Note)

/-- A published snapshot with its number. -/
structure Published where
  number : Nat
  snapshot : Snapshot

/-- The store of a configuration file. -/
structure Store where
  path : String
  current : Published

namespace Store

/-- A store that holds a given snapshot. -/
def ofSnapshot (path : String) (snapshot : Snapshot) : Store :=
  ⟨path, ⟨0, snapshot⟩⟩

/-- Open the store of a file, which must hold a valid configuration. -/
def ofFile (path : String) (file : File) : Except LoadFault Store × List Note :=
  match Snapshot.load file with
  | .ok snapshot => (.ok (.ofSnapshot path snapshot), [.event (.configurationLoaded path)])
  | .error fault => (.error fault, fault.notes)

/-- Publish a snapshot under a new number. -/
def publish (s : Store) (snapshot : Snapshot) : Store :=
  { s with current := ⟨s.current.number + 1, snapshot⟩ }

/-- What a reload does: the store after it, whether a snapshot was published, and what it notes. -/
structure Reload where
  store : Store
  published : Bool
  notes : List Note

/-- Reload the file, publishing its configuration if it is valid. -/
def reload (s : Store) (file : File) : Reload :=
  match Snapshot.load file with
  | .ok snapshot =>
      ⟨s.publish snapshot, true,
        [.event (.configurationReloaded s.path), .count (.reload true)]⟩
  | .error fault =>
      ⟨s, false,
        fault.notes ++ [.event (.reloadFailed s.path fault.message), .count (.reload false)]⟩

/-- Whether a snapshot taken from the store is still the published one. -/
def isCurrent (s : Store) (held : Published) : Bool :=
  held.number == s.current.number

end Store

end Notary.Config
