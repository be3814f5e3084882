import Notary.Lifecycle.Startup
import Notary.Proofs.Lifecycle.Heeding

namespace Notary.Lifecycle

/-!
# A process that serves until a signal comes

Once its listener is bound, the process subscribes for the server, makes a copy of the
coordinator and starts the signal task with it; then it serves. The task sets up its
handlers, takes a signal that comes and sends the signal to stop. The steps of the two may
come between each other in any way. The server's subscriber is there before the task is
started, and stays until it is told. Nobody but the task tells it, and nobody else subscribes.

A bound listener knows its address, and joining the watcher of the configuration changes
nothing here.
-/

open Journal (Note)

/-- How far the main task has come. -/
inductive Stage where
  /-- The listener is bound, and there is a shutdown that nobody listens to. -/
  | bound
  /-- There is a subscriber for the server. -/
  | subscribed (server : Nat)
  /-- There is a second coordinator, for the signal task. -/
  | cloned (server : Nat)
  /-- The signal task is started. -/
  | spawned (server : Nat)
  /-- The server takes connections, and waits for the signal to stop. -/
  | serving (server : Nat)
  /-- The server takes no connections any more, and goes on with those that are open. -/
  | draining
  /-- The server has stopped. -/
  | stopped
  | ended
deriving Repr, DecidableEq

/-- How far the signal task has come. -/
inductive SignalTask where
  | absent
  /-- It is started, and has done nothing yet. -/
  | spawned
  /-- It has handlers for some signals, and has not looked yet at those that came since. -/
  | listening (handled came : List Signal)
  /-- It is about to send the signal to stop. -/
  | received (signal : Signal)
  | triggered (signal : Signal) (notified : Nat)
  | finished (signal : Signal) (notified : Nat)
deriving Repr, DecidableEq

/-- A process that serves until it gets a signal. -/
structure Serving where
  vigil : Vigil
  stage : Stage
  task : SignalTask
  /-- What was noted, but for handlers that could not be set up. -/
  notes : List Note

/-- Something that happens to such a process. -/
inductive Turn where
  /-- The main task takes its next step. -/
  | main
  /-- The server looks for the signal to stop. -/
  | drain
  /-- The signal task sets up its handlers, for those signals for which it can. -/
  | listen (handled : List Signal)
  /-- A signal comes to the process. -/
  | deliver (signal : Signal)
  /-- The signal task looks at a signal that came. -/
  | heed (signal : Signal)
  /-- The signal task takes its next step after that. -/
  | task
  /-- The last connection of a server that drains is closed. -/
  | hangUp
deriving Repr, DecidableEq

/-- Whether the server has been told to stop. -/
def Stage.drains : Stage → Bool
  | draining | stopped | ended => true
  | bound | subscribed _ | cloned _ | spawned _ | serving _ => false

/-- Whether the main task can take a step by itself. -/
def Stage.goesOn : Stage → Bool
  | bound | subscribed _ | cloned _ | spawned _ | stopped => true
  | serving _ | draining | ended => false

/-- How many stages are to come. -/
def Stage.left : Stage → Nat
  | bound => 7
  | subscribed _ => 6
  | cloned _ => 5
  | spawned _ => 4
  | serving _ => 3
  | draining => 2
  | stopped => 1
  | ended => 0

/-- What the main task has noted. -/
def Stage.notes : Stage → List Note
  | bound | subscribed _ | cloned _ | spawned _ => []
  | serving _ => [.event .serverStarting]
  | draining => [.event .serverStarting, .event .serverDraining]
  | stopped => [.event .serverStarting, .event .serverDraining, .event .serverStopped]
  | ended =>
      [.event .serverStarting, .event .serverDraining, .event .serverStopped,
        .event .shutdownComplete]

namespace SignalTask

/-- Whether a signal came for which the task has a handler. -/
def summoned : SignalTask → Bool
  | absent | spawned => false
  | listening _ came => !came.isEmpty
  | received _ | triggered .. | finished .. => true

/-- Whether the signal to stop was sent. -/
def sent : SignalTask → Bool
  | absent | spawned | listening .. | received _ => false
  | triggered .. | finished .. => true

/-- To how many the signal to stop went, if it was sent. -/
def notified? : SignalTask → Option Nat
  | absent | spawned | listening .. | received _ => none
  | triggered _ notified | finished _ notified => some notified

/-- Whether the task has a signal that it has not dealt with to the end. -/
def goesOn : SignalTask → Bool
  | received _ | triggered .. => true
  | absent | spawned | listening .. | finished .. => false

/-- How many coordinators the task has. -/
def coordinators : SignalTask → Nat
  | finished .. => 0
  | absent | spawned | listening .. | received _ | triggered .. => 1

/-- How many steps of the task are to come. -/
def left : SignalTask → Nat
  | absent => 5
  | spawned => 4
  | listening .. => 3
  | received _ => 2
  | triggered .. => 1
  | finished .. => 0

/-- What the task has noted. -/
def notes : SignalTask → List Note
  | absent | spawned | listening .. => []
  | received signal | triggered signal _ => [.event signal.event]
  | finished signal notified => [.event signal.event, .event (.shutdownTriggered notified)]

end SignalTask

namespace Serving

/-- A process whose listener has just been bound. -/
def begin : Serving :=
  ⟨.begin, .bound, .absent, []⟩

/-- The next step of the main task. -/
def advance (serving : Serving) : Serving :=
  match serving.stage with
  | .bound =>
      { serving with
        vigil := serving.vigil.step .subscribe
        stage := .subscribed serving.vigil.shutdown.subscribe.2 }
  | .subscribed server =>
      { serving with vigil := serving.vigil.step .clone, stage := .cloned server }
  | .cloned server => { serving with stage := .spawned server, task := .spawned }
  | .spawned server =>
      { serving with
        stage := .serving server
        notes := serving.notes ++ [.event .serverStarting] }
  | .stopped =>
      { serving with
        vigil := serving.vigil.step .release
        stage := .ended
        notes := serving.notes ++ [.event .shutdownComplete] }
  | .serving _ | .draining | .ended => serving

/-- Let the server look for the signal to stop. If it finds anything, it drains. -/
def drain (serving : Serving) : Serving :=
  match serving.stage with
  | .serving server =>
      let vigil := serving.vigil.step (.poll server)
      if vigil.told server then
        { serving with
          vigil := vigil.step (.leave server)
          stage := .draining
          notes := serving.notes ++ [.event .serverDraining] }
      else { serving with vigil }
  | _ => serving

/-- Let a signal come. Only the signal task can do anything with it, if it has a handler. -/
def deliver (serving : Serving) (signal : Signal) : Serving :=
  match serving.task with
  | .listening handled came =>
      if signal ∈ handled then
        { serving with task := .listening handled (came ++ [signal]) }
      else serving
  | _ => serving

/-- Let the signal task look at a signal. -/
def heed (serving : Serving) (signal : Signal) : Serving :=
  match serving.task with
  | .listening _ came =>
      if signal ∈ came then
        { serving with
          task := .received signal
          notes := serving.notes ++ [.event signal.event] }
      else serving
  | _ => serving

/-- Let the signal task go on with the signal that it received. -/
def proceed (serving : Serving) : Serving :=
  match serving.task with
  | .received signal =>
      { serving with
        vigil := serving.vigil.step .trigger
        task := .triggered signal serving.vigil.shutdown.trigger.notified }
  | .triggered signal notified =>
      { serving with
        vigil := serving.vigil.step .release
        task := .finished signal notified
        notes := serving.notes ++ [.event (.shutdownTriggered notified)] }
  | _ => serving

/-- The process after a turn. -/
def step (serving : Serving) : Turn → Serving
  | .main => serving.advance
  | .drain => serving.drain
  | .listen handled =>
      if serving.task = .spawned then { serving with task := .listening handled [] } else serving
  | .deliver signal => serving.deliver signal
  | .heed signal => serving.heed signal
  | .task => serving.proceed
  | .hangUp =>
      if serving.stage = .draining then
        { serving with
          stage := .stopped
          notes := serving.notes ++ [.event .serverStopped] }
      else serving

/-- The process after the first turns of a schedule. -/
def after (turns : Nat → Turn) : Nat → Serving
  | 0 => begin
  | time + 1 => (after turns time).step (turns time)

/-- Whether the server waits for the signal, and is not asleep. -/
def looksOut (serving : Serving) : Bool :=
  match serving.stage with
  | .serving server => decide (server ∉ serving.vigil.asleep)
  | _ => false

/-- Whether a turn is one that a task of the process is ready to take. -/
def isDue (serving : Serving) : Turn → Bool
  | .main => serving.stage.goesOn
  | .drain => serving.looksOut
  | .listen _ => serving.task = .spawned
  | .heed signal =>
      match serving.task with
      | .listening _ came => decide (signal ∈ came)
      | _ => false
  | .task => serving.task.goesOn
  | .deliver _ | .hangUp => false

/-- How much there is to do. A server that sleeps costs less than a step of a task. -/
def work (serving : Serving) : Nat :=
  2 * (serving.stage.left + serving.task.left) + serving.looksOut.toNat

/-- What a turn makes of a process: the state before it, the turn, and the state after it. -/
inductive Takes : Serving → Turn → Serving → Prop where
  /-- Who takes the turn is not ready for it, or nobody is concerned. -/
  | wait {serving turn} :
      serving.isDue turn = false →
      Takes serving turn serving
  | subscribe {vigil task notes} :
      Takes ⟨vigil, .bound, task, notes⟩ .main
        ⟨vigil.step .subscribe, .subscribed vigil.shutdown.fresh, task, notes⟩
  | clone {vigil server task notes} :
      Takes ⟨vigil, .subscribed server, task, notes⟩ .main
        ⟨vigil.step .clone, .cloned server, task, notes⟩
  | spawn {vigil server task notes} :
      Takes ⟨vigil, .cloned server, task, notes⟩ .main
        ⟨vigil, .spawned server, .spawned, notes⟩
  | serve {vigil server task notes} :
      Takes ⟨vigil, .spawned server, task, notes⟩ .main
        ⟨vigil, .serving server, task, notes ++ [.event .serverStarting]⟩
  | finish {vigil task notes} :
      Takes ⟨vigil, .stopped, task, notes⟩ .main
        ⟨vigil.step .release, .ended, task, notes ++ [.event .shutdownComplete]⟩
  | look {vigil server task notes} :
      (vigil.poll server).told server = false →
      Takes ⟨vigil, .serving server, task, notes⟩ .drain
        ⟨vigil.poll server, .serving server, task, notes⟩
  | drain {vigil server task notes} :
      (vigil.poll server).told server = true →
      Takes ⟨vigil, .serving server, task, notes⟩ .drain
        ⟨(vigil.poll server).step (.leave server), .draining, task,
          notes ++ [.event .serverDraining]⟩
  | hangUp {vigil task notes} :
      Takes ⟨vigil, .draining, task, notes⟩ .hangUp
        ⟨vigil, .stopped, task, notes ++ [.event .serverStopped]⟩
  | listen {vigil stage handled notes} :
      Takes ⟨vigil, stage, .spawned, notes⟩ (.listen handled)
        ⟨vigil, stage, .listening handled [], notes⟩
  | deliver {vigil stage handled came signal notes} :
      signal ∈ handled →
      Takes ⟨vigil, stage, .listening handled came, notes⟩ (.deliver signal)
        ⟨vigil, stage, .listening handled (came ++ [signal]), notes⟩
  | heed {vigil stage handled came signal notes} :
      signal ∈ came →
      Takes ⟨vigil, stage, .listening handled came, notes⟩ (.heed signal)
        ⟨vigil, stage, .received signal, notes ++ [.event signal.event]⟩
  | trigger {vigil stage signal notes} :
      Takes ⟨vigil, stage, .received signal, notes⟩ .task
        ⟨vigil.step .trigger, stage, .triggered signal vigil.shutdown.trigger.notified, notes⟩
  | release {vigil stage signal notified notes} :
      Takes ⟨vigil, stage, .triggered signal notified, notes⟩ .task
        ⟨vigil.step .release, stage, .finished signal notified,
          notes ++ [.event (.shutdownTriggered notified)]⟩

/-- Each turn is one of these. -/
theorem takes_step
    (serving : Serving)
    (turn : Turn) :
    Takes serving turn (serving.step turn) := by
  rcases serving with ⟨vigil, stage, task, notes⟩
  cases turn with
  | main =>
      cases stage with
      | bound => exact .subscribe
      | subscribed server => exact .clone
      | cloned server => exact .spawn
      | spawned server => exact .serve
      | stopped => exact .finish
      | _ => exact .wait rfl
  | drain =>
      cases stage with
      | serving server =>
          simp only [step, Serving.drain]
          split
          · next told => exact .drain told
          · next untold => exact .look (Bool.eq_false_iff.mpr untold)
      | _ => exact .wait rfl
  | listen handled =>
      simp only [step]
      split
      · next spawned => exact spawned ▸ .listen
      · next unspawned => exact .wait (decide_eq_false unspawned)
  | deliver signal =>
      cases task with
      | listening handled came =>
          simp only [step, Serving.deliver]
          split
          · next known => exact .deliver known
          · exact .wait rfl
      | _ => exact .wait rfl
  | heed signal =>
      cases task with
      | listening handled came =>
          simp only [step, Serving.heed]
          split
          · next present => exact .heed present
          · next missing => exact .wait (decide_eq_false missing)
      | _ => exact .wait rfl
  | task =>
      cases task with
      | received signal => exact .trigger
      | triggered signal notified => exact .release
      | _ => exact .wait rfl
  | hangUp =>
      simp only [step]
      split
      · next draining => exact draining ▸ .hangUp
      · exact .wait rfl

/-! ## The server that waits -/

/-- A server that waits for the signal, with so many coordinators that could send it. -/
structure Listens (serving : Serving) (server coordinators : Nat) : Prop where
  awaits : serving.vigil.Awaits server 0 serving.task.sent.toNat
  waiting : serving.vigil.told server = false
  alone : serving.vigil.shutdown.subscribers.length = 1
  held : serving.vigil.shutdown.coordinators = coordinators

variable
    {serving next : Serving}
    {server coordinators : Nat}
    {turn : Turn}

/-- What coordinators do leaves the server's subscriber the only one, as it was. -/
theorem length_subscribers_step
    {vigil : Vigil}
    {move : Move}
    (kind : move = .clone ∨ move = .trigger ∨ move = .release) :
    (vigil.step move).shutdown.subscribers.length = vigil.shutdown.subscribers.length := by
  unfold Vigil.step
  split
  · rfl
  · rcases kind with rfl | rfl | rfl
    · rfl
    · simp [Vigil.make, Vigil.trigger, Shutdown.trigger_eq, vigil.shutdown.send_frame.2.1]
    · rfl

/-- The server goes on waiting while coordinators come and go, and while they send the signal. -/
theorem Listens.step
    {move : Move}
    {left : Nat}
    (listens : serving.Listens server coordinators)
    (held : coordinators ≠ 0)
    (kind : move = .clone ∨ move = .trigger ∨ move = .release)
    (moved : next.vigil = serving.vigil.step move)
    (sent : next.task.sent.toNat = serving.task.sent.toNat + [move].count .trigger)
    (balance : left + [move].count .release = coordinators + [move].count .clone) :
    next.Listens server left := by
  have others : move ≠ .leave server ∧ move ≠ .poll server := by
    rcases kind with rfl | rfl | rfl
    · exact ⟨nofun, nofun⟩
    · exact ⟨nofun, nofun⟩
    · exact ⟨nofun, nofun⟩
  have some : serving.vigil.shutdown.coordinators ≠ 0 :=
    listens.held ▸ held
  have counted := Vigil.coordinators_step some move
  refine ⟨?_, ?_, ?_, ?_⟩
  · rw [moved, sent]
    exact listens.awaits.step others.1
  · rw [moved, Vigil.told_step others.2]
    exact listens.waiting
  · rw [moved, length_subscribers_step kind]
    exact listens.alone
  · rw [moved]
    have before := listens.held
    omega

/-- Nothing but the vigil, and whether the signal was sent, matters to a server that waits. -/
theorem Listens.congr
    (listens : serving.Listens server coordinators)
    (sameVigil : next.vigil = serving.vigil)
    (sameSent : next.task.sent = serving.task.sent) :
    next.Listens server coordinators := by
  obtain ⟨awaits, waiting, alone, held⟩ := listens
  rw [← sameVigil] at awaits waiting alone held
  rw [← sameSent] at awaits
  exact ⟨awaits, waiting, alone, held⟩

/-- The signal ends the wait of a server, as soon as it looks. -/
theorem Listens.told_poll_iff
    (listens : serving.Listens server (coordinators + 1)) :
    (serving.vigil.poll server).told server = true ↔ serving.task.sent = true := by
  have held : serving.vigil.shutdown.coordinators ≠ 0 :=
    listens.held ▸ Nat.succ_ne_zero coordinators
  rw [listens.awaits.told_poll_iff, or_iff_left held]
  cases serving.task.sent with
  | true =>
      simp
  | false =>
      simp

/-- A server that is told nothing goes on waiting. -/
theorem Listens.poll
    (listens : serving.Listens server coordinators)
    (moved : next.vigil = serving.vigil.poll server)
    (sameTask : next.task = serving.task)
    (untold : next.vigil.told server = false) :
    next.Listens server coordinators := by
  refine ⟨?_, untold, ?_, ?_⟩
  · rw [moved, sameTask]
    exact listens.awaits.poll
  · obtain ⟨seen, known, -⟩ := listens.awaits.listens
    rw [moved, Vigil.poll_eq known]
    simpa [Shutdown.put] using listens.alone
  · rw [moved, (serving.vigil.poll_frame server).1]
    exact listens.held

/-! ## What holds at every stage -/

/-- What the main task has done, and what the signal task has done by then. -/
def Staged (serving : Serving) : Prop :=
  match serving.stage with
  | .bound => serving.task = .absent ∧ serving.vigil = .begin
  | .subscribed server => serving.task = .absent ∧ serving.Listens server 1
  | .cloned server => serving.task = .absent ∧ serving.Listens server 2
  | .spawned server | .serving server =>
      serving.task ≠ .absent ∧ serving.Listens server (serving.task.coordinators + 1)
  | .draining | .stopped | .ended => serving.task.sent = true

/-- The signal task is not started twice. -/
theorem Staged.absent_of_cloned
    {vigil : Vigil}
    {task : SignalTask}
    {notes : List Note}
    (staged : Staged ⟨vigil, .cloned server, task, notes⟩) :
    task = .absent :=
  staged.1

/-- Once the signal task is started, the server waits for the signal, or has been told. -/
theorem Staged.of_present
    (staged : serving.Staged)
    (present : serving.task ≠ .absent) :
    (∃ server,
      (serving.stage = .spawned server ∨ serving.stage = .serving server) ∧
        serving.Listens server (serving.task.coordinators + 1)) ∨
      (serving.stage.drains = true ∧ serving.task.sent = true) := by
  rcases serving with ⟨vigil, stage, task, notes⟩
  cases stage with
  | bound | subscribed | cloned =>
      exact absurd staged.1 present
  | spawned server =>
      exact .inl ⟨server, .inl rfl, staged.2⟩
  | serving server =>
      exact .inl ⟨server, .inr rfl, staged.2⟩
  | draining | stopped | ended =>
      exact .inr ⟨rfl, staged⟩

/-- A started signal task, and a server that listens, are where each expects the other. -/
theorem staged_of_listens
    (stage : serving.stage = .spawned server ∨ serving.stage = .serving server)
    (present : serving.task ≠ .absent)
    (listens : serving.Listens server (serving.task.coordinators + 1)) :
    serving.Staged := by
  rcases serving with ⟨vigil, _, task, notes⟩
  rcases stage with rfl | rfl
  · exact ⟨present, listens⟩
  · exact ⟨present, listens⟩

/-- A draining server is as its stage says once the signal has been sent. -/
theorem staged_of_sent
    (drains : serving.stage.drains = true)
    (sent : serving.task.sent = true) :
    serving.Staged := by
  rcases serving with ⟨vigil, stage, task, notes⟩
  cases stage with
  | draining | stopped | ended =>
      exact sent
  | _ =>
      cases drains

/-- A step of the signal task that has nothing to do with the signal to stop. -/
theorem Staged.of_task
    (staged : serving.Staged)
    (present : serving.task ≠ .absent)
    (sameVigil : next.vigil = serving.vigil)
    (sameStage : next.stage = serving.stage)
    (stillPresent : next.task ≠ .absent)
    (sameSent : next.task.sent = serving.task.sent)
    (sameCoordinators : next.task.coordinators = serving.task.coordinators) :
    next.Staged := by
  rcases staged.of_present present with ⟨server, stage, listens⟩ | ⟨drains, sent⟩
  · exact staged_of_listens (sameStage ▸ stage) stillPresent
      (sameCoordinators ▸ listens.congr sameVigil sameSent)
  · exact staged_of_sent (sameStage ▸ drains) (sameSent ▸ sent)

/-- Whatever turn is taken, each task is where the other one expects it. -/
theorem Staged.takes
    (staged : serving.Staged)
    (taken : Takes serving turn next) :
    next.Staged := by
  cases taken with
  | wait =>
      exact staged
  | subscribe =>
      obtain ⟨absent, atFirst⟩ := staged
      dsimp only at absent atFirst
      subst absent atFirst
      exact ⟨rfl, Vigil.Awaits.subscribe Vigil.Numbered.begin nofun, rfl, rfl, rfl⟩
  | clone =>
      obtain ⟨absent, listens⟩ := staged
      exact ⟨absent, listens.step nofun (.inl rfl) rfl rfl rfl⟩
  | spawn =>
      obtain rfl := staged.absent_of_cloned
      exact ⟨nofun, staged.2.congr rfl rfl⟩
  | serve =>
      exact ⟨staged.1, staged.2.congr rfl rfl⟩
  | finish =>
      exact staged
  | look untold =>
      exact ⟨staged.1, staged.2.poll rfl rfl untold⟩
  | drain told =>
      exact staged.2.told_poll_iff.mp told
  | hangUp =>
      exact staged
  | listen =>
      exact staged.of_task nofun rfl rfl nofun rfl rfl
  | deliver =>
      exact staged.of_task nofun rfl rfl nofun rfl rfl
  | heed =>
      exact staged.of_task nofun rfl rfl nofun rfl rfl
  | trigger =>
      -- The server has not been told yet, as nobody else sends the signal.
      rcases staged.of_present nofun with ⟨server, stage, listens⟩ | ⟨-, ⟨⟩⟩
      exact staged_of_listens stage nofun (listens.step nofun (.inr (.inl rfl)) rfl rfl rfl)
  | release =>
      rcases staged.of_present nofun with ⟨server, stage, listens⟩ | ⟨drains, -⟩
      · exact staged_of_listens stage nofun (listens.step nofun (.inr (.inr rfl)) rfl rfl rfl)
      · exact staged_of_sent drains rfl

/-- The signal to stop goes to the server, and to nobody else. -/
theorem notified_takes
    (staged : serving.Staged)
    (one : ∀ notified ∈ serving.task.notified?, notified = 1)
    (taken : Takes serving turn next) :
    ∀ notified ∈ next.task.notified?, notified = 1 := by
  cases taken with
  | trigger =>
      rcases staged.of_present nofun with ⟨server, -, listens⟩ | ⟨-, ⟨⟩⟩
      intro notified known
      rw [← Option.some.inj known, Shutdown.trigger_eq]
      exact listens.alone
  | spawn | listen | deliver | heed =>
      exact nofun
  | _ =>
      exact one

/-- Whether what was noted is what the two tasks note on their ways so far. -/
def Noted (serving : Serving) : Prop :=
  serving.notes.Perm (serving.stage.notes ++ serving.task.notes)

/-- A note of the main task. -/
theorem Noted.main
    {note : Note}
    (noted : serving.Noted)
    (stage : next.stage.notes = serving.stage.notes ++ [note])
    (task : next.task.notes = serving.task.notes)
    (notes : next.notes = serving.notes ++ [note]) :
    next.Noted := by
  rw [Noted, stage, task, notes]
  calc
    (serving.notes ++ [note]).Perm (serving.stage.notes ++ serving.task.notes ++ [note]) :=
      noted.append_right [note]
    _ = serving.stage.notes ++ (serving.task.notes ++ [note]) := List.append_assoc ..
    List.Perm _ (serving.stage.notes ++ ([note] ++ serving.task.notes)) :=
      List.perm_append_comm.append_left _
    _ = serving.stage.notes ++ [note] ++ serving.task.notes := (List.append_assoc ..).symm

/-- A note of the signal task. -/
theorem Noted.task
    {note : Note}
    (noted : serving.Noted)
    (stage : next.stage.notes = serving.stage.notes)
    (task : next.task.notes = serving.task.notes ++ [note])
    (notes : next.notes = serving.notes ++ [note]) :
    next.Noted := by
  rw [Noted, stage, task, notes, ← List.append_assoc]
  exact noted.append_right [note]

/-- After every turn the log holds what the two tasks have noted on their ways. -/
theorem Noted.takes
    (noted : serving.Noted)
    (staged : serving.Staged)
    (taken : Takes serving turn next) :
    next.Noted := by
  cases taken with
  | spawn =>
      obtain rfl := staged.absent_of_cloned
      exact noted
  | serve | finish | drain | hangUp =>
      exact noted.main rfl rfl rfl
  | heed | release =>
      exact noted.task rfl rfl rfl
  | _ =>
      exact noted

/-- What holds of a process at any time. -/
structure Sound (serving : Serving) : Prop where
  staged : serving.Staged
  notified : ∀ notified ∈ serving.task.notified?, notified = 1
  noted : serving.Noted

/-- Every turn keeps a serving sound. -/
theorem Sound.takes
    (sound : serving.Sound)
    (taken : Takes serving turn next) :
    next.Sound :=
  ⟨sound.staged.takes taken, notified_takes sound.staged sound.notified taken,
    sound.noted.takes sound.staged taken⟩

end Serving

end Notary.Lifecycle
