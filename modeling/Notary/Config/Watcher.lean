import Notary.Config.Store

namespace Notary.Config

/-!
# Watching the configuration file

The watcher takes notices about the directory of the configuration file, one at
a time, and reloads the store whenever a notice tells that the file was modified.
It looks at its stop flag before each notice and ends for good when the flag is
set or no further notices can come.
-/

open Journal (Note)

/-- A change that the file system reports. -/
structure Change where
  /-- Whether something was modified, moved into place included; creation and removal are not. -/
  modified : Bool
  /-- Whether changes before this one were lost. -/
  rescan : Bool
  /-- The last component of each path concerned; a path may have none. -/
  names : List (Option String)
deriving Repr, DecidableEq

/-- Whether a change is a modification of the file of the given name. -/
def Change.concerns (c : Change) (fileName : String) : Bool :=
  !c.rescan && c.modified && c.names.any (· = some fileName)

/-- What the watcher finds when it waits for the next change. -/
inductive Notice where
  | change (change : Change)
  | fault (error : String)
  /-- Nothing came for a while. -/
  | idle
  /-- Nothing will come any more. -/
  | closed
deriving Repr, DecidableEq

/-- The last component of a path, unless that is a reference to a directory. -/
def fileName? (path : String) : Option String :=
  let parts := (path.toList.splitOn '/').filter fun part => !part.isEmpty && part ≠ ['.']
  match parts.getLast? with
  | some last =>
      if last = ['.', '.'] then none else some (String.ofList last)
  | none => none

/-- A watcher with the store that it reloads. -/
structure Watcher where
  store : Store
  fileName : String
  stopRequested : Bool
  running : Bool

/-- What happens when the watcher moves: the watcher after it and what it notes. -/
structure Watcher.Moved where
  watcher : Watcher
  notes : List Note

namespace Watcher

/-- Ask the watcher to stop. -/
def requestStop (w : Watcher) : Watcher :=
  { w with stopRequested := true }

/-- End the watch. -/
def finish (w : Watcher) : Moved :=
  ⟨{ w with running := false }, [.event (.watchStopped w.store.path)]⟩

/-- Reload the store because the file changed. -/
def reload (w : Watcher) (file : File) : Moved :=
  let r := w.store.reload file
  ⟨{ w with store := r.store }, .event (.changeSeen w.store.path) :: r.notes⟩

/-- Deal with a notice. -/
def receive (w : Watcher) (file : File) : Notice → Moved
  | .change c => if c.concerns w.fileName then w.reload file else ⟨w, []⟩
  | .fault error => ⟨w, [.event (.watchFault error)]⟩
  | .idle => ⟨w, []⟩
  | .closed =>
      let ended := w.finish
      ⟨ended.watcher, .event .watchClosed :: ended.notes⟩

/-- One turn of the watcher: it ends if asked to, and otherwise takes the notice. -/
def step (w : Watcher) (file : File) (notice : Notice) : Moved :=
  if !w.running then ⟨w, []⟩
  else if w.stopRequested then w.finish
  else w.receive file notice

/--
Start watching. There is nothing to watch if the path has no file name or its
directory cannot be watched.
-/
def start (store : Store) (refused : Option String) : Moved :=
  match fileName? store.path with
  | none => ⟨⟨store, "", false, false⟩, [.event (.watchUnnamed store.path)]⟩
  | some name =>
      match refused with
      | some error => ⟨⟨store, name, false, false⟩, [.event (.watchRefused store.path error)]⟩
      | none => ⟨⟨store, name, false, true⟩, [.event (.watchStarted store.path)]⟩

end Watcher

end Notary.Config
