import Notary.Config.Snapshot
import Notary.Engine.Call

namespace Notary

/-!
# Programs

A workflow is a program that makes calls of the engine. A program is a tree: each
node is a call with what comes after each possible answer, a read of the store with
what comes after each possible snapshot, a look-up in the configuration at hand, a
note, or an end. Running a program against an engine takes one path through the tree.
A call that fails ends the run; the failure is classified and noted here, so programs
do not deal with failures at all.
-/

open Config (Snapshot)
open Journal (Note)

/-- A program that yields a value, unless it is rejected. -/
inductive Program (α : Type) where
  | done (value : α)
  | rejected (rejection : Rejection)
  | note (note : Note) (rest : Program α)
  /-- Take the snapshot that is published at this moment. -/
  | read (next : Snapshot → Program α)
  /-- A look-up in the configuration that the request holds; the engine has no part in it. -/
  | look (rest : Unit → Program α)
  | ask (call : Call) (next : call.Answer → Program α)

namespace Program

/-- Go on with the value that a program yields. -/
def bind {α β : Type} (program : Program α) (next : α → Program β) : Program β :=
  match program with
  | done value => next value
  | rejected rejection => rejected rejection
  | note n rest => note n (rest.bind next)
  | read taken => read fun s => (taken s).bind next
  | look rest => look fun _ => (rest ()).bind next
  | ask call answered => ask call fun answer => (answered answer).bind next

instance : Monad Program where
  pure := done
  bind := bind

/-- The snapshot that is published at this moment. -/
def snapshot : Program Snapshot :=
  read done

/-- Make a call and yield its answer. -/
def call (c : Call) : Program c.Answer :=
  ask c done

/-- Note something. -/
def say (n : Note) : Program Unit :=
  note n (done ())

/-- Note several things in order. -/
def sayAll : List Note → Program Unit
  | [] => done ()
  | n :: rest => note n (sayAll rest)

/-- Note why, and reject. -/
def refuse {α : Type} (event : Journal.Event) (rejection : Rejection) : Program α :=
  note (.event event) (rejected rejection)

end Program

/-- How a run ends: with a value, with a rejection, or torn down by a crash of the engine. -/
inductive Ending (α : Type) where
  | finished (value : α)
  | rejected (rejection : Rejection)
  | crashed
deriving Repr, DecidableEq

/-- A run: how it ends, the calls it made and what was noted, both in order. -/
structure Run (α : Type) where
  ending : Ending α
  calls : List Call
  notes : List Note

namespace Run

/-- Put notes in front of a run. -/
def noting {α : Type} (notes : List Note) (r : Run α) : Run α :=
  ⟨r.ending, r.calls, notes ++ r.notes⟩

/-- Put a call in front of a run. -/
def calling {α : Type} (call : Call) (r : Run α) : Run α :=
  ⟨r.ending, call :: r.calls, r.notes⟩

end Run

/-- What is noted about a failure. -/
def Failure.notes (f : Failure) : List Note :=
  [.event (.callFailed f), .count (.failure f.kind)]

namespace Program

/--
Run a program against an engine, after the calls in `history`, while one snapshot is
published.
-/
def runOn {α : Type} (published : Snapshot) (engine : Engine) (history : List Call) :
    Program α → Run α
  | done value => ⟨.finished value, [], []⟩
  | rejected rejection => ⟨.rejected rejection, [], []⟩
  | note n rest => (rest.runOn published engine history).noting [n]
  | read next => (next published).runOn published engine history
  | look rest => (rest ()).runOn published engine history
  | ask call next =>
      let reply := engine.reply history call
      let rest : Run α :=
        match reply.outcome with
        | .answered answer => (next answer).runOn published engine (history ++ [call])
        | .failed failure => ⟨.rejected failure.rejection, [], failure.notes⟩
        | .crashed => ⟨.crashed, [], []⟩
      (rest.noting reply.notes).calling call

/-- Run a program that has no use for a configuration. -/
def run {α : Type} (engine : Engine) (history : List Call) (program : Program α) : Run α :=
  program.runOn .empty engine history

end Program

end Notary
