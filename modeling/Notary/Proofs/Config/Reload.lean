import Mathlib.Data.List.Induction
import Notary.Config.Store

namespace Notary.Config

/-!
# Reloads in a row

What reloads leave in the store depends only on the files that they find: it is
the snapshot of the last valid one.
-/

namespace Store

/-- What a reload makes of what it loaded. -/
def settle (s : Store) (loaded : Except LoadFault Snapshot) : Reload :=
  match loaded with
  | .ok snapshot =>
      ⟨s.publish snapshot, true,
        [.event (.configurationReloaded s.path), .count (.reload true)]⟩
  | .error fault =>
      ⟨s, false,
        fault.notes ++ [.event (.reloadFailed s.path fault.message), .count (.reload false)]⟩

/-- A reload loads the file, and publishes what it loaded or keeps what it had. -/
theorem reload_eq_settle
    (s : Store)
    (file : File) :
    s.reload file = s.settle (Snapshot.load file) :=
  rfl

/-- The store after a reload for each file. -/
def reloads (s : Store) (files : List File) : Store :=
  files.foldl (fun store file => (store.reload file).store) s

/-- One more file is one more reload. -/
theorem reloads_concat
    (s : Store)
    (files : List File)
    (file : File) :
    s.reloads (files ++ [file]) = ((s.reloads files).reload file).store :=
  List.foldl_append

end Store

/-- The snapshot of the last valid file, if there is one, and a given snapshot otherwise. -/
def lastValid (initial : Snapshot) (files : List File) : Snapshot :=
  (files.filterMap fun file => (Snapshot.load file).toOption).getLastD initial

/-- A valid file is the last valid one when it comes last. -/
theorem lastValid_concat_of_ok
    {file : File}
    {snapshot : Snapshot}
    (loads : Snapshot.load file = .ok snapshot)
    (initial : Snapshot)
    (files : List File) :
    lastValid initial (files ++ [file]) = snapshot := by
  simp [lastValid, List.filterMap_append, loads, Except.toOption]

/-- A file that is not valid changes nothing. -/
theorem lastValid_concat_of_error
    {file : File}
    {fault : LoadFault}
    (refused : Snapshot.load file = .error fault)
    (initial : Snapshot)
    (files : List File) :
    lastValid initial (files ++ [file]) = lastValid initial files := by
  simp [lastValid, List.filterMap_append, refused, Except.toOption]

/-- If the last file is valid, it is the last valid one, also if no file came after the first. -/
theorem lastValid_of_load_getLastD
    {initial : File}
    {first last : Snapshot}
    {files : List File}
    (firstLoads : Snapshot.load initial = .ok first)
    (lastLoads : Snapshot.load (files.getLastD initial) = .ok last) :
    lastValid first files = last := by
  rcases List.eq_nil_or_concat files with rfl | ⟨earlier, file, rfl⟩
  · exact Except.ok.inj (firstLoads.symm.trans lastLoads)
  · rw [List.concat_eq_append, List.getLastD_concat] at lastLoads
    rw [List.concat_eq_append]
    exact lastValid_concat_of_ok lastLoads first earlier

/-- After reloads, the snapshot of the last valid file is published. -/
theorem Store.snapshot_reloads
    (s : Store)
    (files : List File) :
    (s.reloads files).current.snapshot = lastValid s.current.snapshot files := by
  induction files using List.reverseRecOn with
  | nil =>
      rfl
  | append_singleton files file inductionHypothesis =>
      rw [reloads_concat, reload_eq_settle]
      cases loaded : Snapshot.load file with
      | ok snapshot =>
          rw [lastValid_concat_of_ok loaded]
          rfl
      | error fault =>
          rw [lastValid_concat_of_error loaded]
          exact inductionHypothesis

end Notary.Config
