import Notary.Config.Store
import Notary.Engine.Offline
import Notary.Workflow.Plan

namespace Notary

/-!
# The gateway

The store, the engine and the setup of workflows together. While one request is run
by itself, the published snapshot stays the same.
-/

open Journal (Note)

/-- What is noted about the text of a build version. -/
def Version.notes (build : String) : List Note :=
  match parse? build with
  | some _ => []
  | none => [.event (.versionUnreadable build)]

/-- The setup of workflows for a build. -/
def Setup.ofBuild (secretsEnforced : Bool) (contextPath build : String) : Setup :=
  ⟨secretsEnforced, contextPath, Version.ofBuild build⟩

/-- A gateway. -/
structure Gateway where
  setup : Setup
  store : Config.Store
  /-- The engine, if one is attached. -/
  attached : Option Engine
  /-- The largest body of a request in bytes. -/
  bodyLimit : Nat

namespace Gateway

/-- The snapshot that a request starting now sees. -/
def snapshot (g : Gateway) : Config.Snapshot :=
  g.store.current.snapshot

/-- The engine that calls go to. -/
def engine (g : Gateway) : Engine :=
  g.attached.getD (Offline.engine g.snapshot.authorityIds)

/-- Run a workflow on a request. -/
def run (g : Gateway) (w : Workflow) (r : Request) : Run WorkflowReport :=
  (w.program g.setup r).runOn g.snapshot g.engine []

/-- List the certificate authorities. -/
def authorities (g : Gateway) (accept : Option String) : Run (List String) :=
  (Workflow.authorities accept).run g.engine []

/-- Reload the configuration. -/
def reload (g : Gateway) (file : Config.File) : Gateway × Bool × List Note :=
  let r := g.store.reload file
  ({ g with store := r.store }, r.published, r.notes)

end Gateway

end Notary
