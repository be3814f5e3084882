import Notary.Proofs.Lifecycle.Serving

namespace Notary.Lifecycle

/-!
# A signal to the process makes the server drain

Somebody who is ready to take a turn leaves less to do by taking it, and no turn of anybody
else makes more of it. After a signal that the task gets, somebody is ready until the server
drains. So with any schedule that goes on, however unfair, it does in the end.
-/

open Journal (Note)

namespace Serving

variable
    {serving next : Serving}
    {server coordinators : Nat}
    {turn : Turn}

/-- With a step less to come there is less to do, even if the server is woken by it. -/
theorem work_le_of_left
    (fewer : next.stage.left + next.task.left < serving.stage.left + serving.task.left) :
    next.work + (serving.isDue turn).toNat ≤ serving.work := by
  have woken := Bool.toNat_le next.looksOut
  have ready := Bool.toNat_le (serving.isDue turn)
  unfold work
  omega

/-- A server that was told nothing sleeps. -/
theorem Listens.looksOut_poll
    {vigil : Vigil}
    {task : SignalTask}
    {notes : List Note}
    (listens : Listens ⟨vigil, .serving server, task, notes⟩ server coordinators)
    (untold : (vigil.poll server).told server = false) :
    looksOut ⟨vigil.poll server, .serving server, task, notes⟩ = false := by
  have asleep : server ∈ (vigil.poll server).asleep :=
    listens.awaits.mem_asleep_poll untold
  exact decide_eq_false (not_not_intro asleep)

/-- No turn makes more work, and one that somebody is ready for leaves less of it. -/
theorem work_takes
    (staged : serving.Staged)
    (taken : Takes serving turn next) :
    next.work + (serving.isDue turn).toNat ≤ serving.work := by
  cases taken with
  | wait idle =>
      rw [idle]
      exact Nat.le_refl _
  | spawn =>
      obtain rfl := staged.absent_of_cloned
      exact work_le_of_left (by simp [Stage.left, SignalTask.left])
  | look untold =>
      rw [work, staged.2.looksOut_poll untold]
      exact Nat.le_refl _
  | deliver =>
      exact Nat.le_refl _
  | _ =>
      exact work_le_of_left (by simp [Stage.left, SignalTask.left])

/-- A signal that came stays so. -/
theorem summoned_takes
    (staged : serving.Staged)
    (summoned : serving.task.summoned = true)
    (taken : Takes serving turn next) :
    next.task.summoned = true := by
  cases taken with
  | spawn =>
      obtain rfl := staged.absent_of_cloned
      cases summoned
  | listen =>
      cases summoned
  | deliver =>
      simp [SignalTask.summoned]
  | heed | trigger | release =>
      rfl
  | _ =>
      exact summoned

/-- Nobody drains before the signal to stop is sent. -/
theorem Staged.sent_of_drains
    (staged : serving.Staged)
    (drains : serving.stage.drains = true) :
    serving.task.sent = true := by
  rcases serving with ⟨vigil, stage, task, notes⟩
  cases stage with
  | draining | stopped | ended =>
      exact staged
  | _ =>
      cases drains

/-- After a signal somebody can go on, until the server drains. -/
theorem Staged.exists_isDue
    (staged : serving.Staged)
    (summoned : serving.task.summoned = true)
    (serves : serving.stage.drains = false) :
    ∃ turn, serving.isDue turn = true := by
  rcases serving with ⟨vigil, stage, task, notes⟩
  cases stage with
  | bound | subscribed | cloned | spawned =>
      exact ⟨.main, rfl⟩
  | serving server =>
      cases task with
      | absent | spawned =>
          cases summoned
      | listening handled came =>
          cases came with
          | nil =>
              cases summoned
          | cons signal rest =>
              exact ⟨.heed signal, decide_eq_true List.mem_cons_self⟩
      | received | triggered =>
          exact ⟨.task, rfl⟩
      | finished signal notified =>
          -- The signal was sent, so the server was woken and has not looked since.
          obtain ⟨-, listens⟩ := staged
          refine ⟨.drain, decide_eq_true fun asleep => ?_⟩
          rcases listens.awaits.awake asleep with isTold | ⟨silent, -⟩
          · exact Bool.false_ne_true (listens.waiting.symm.trans isTold)
          · cases silent
  | draining | stopped | ended =>
      cases serves

/-! ## Schedules -/

variable
    {turns : Nat → Turn}
    {time later : Nat}

/-- Two moments one after the other are one turn apart. -/
theorem takes_after
    (turns : Nat → Turn)
    (time : Nat) :
    Takes (after turns time) (turns time) (after turns (time + 1)) :=
  takes_step (after turns time) (turns time)

/-- However the turns are taken, all is well at any time. -/
theorem sound_after
    (turns : Nat → Turn)
    (time : Nat) :
    (after turns time).Sound := by
  induction time with
  | zero =>
      exact ⟨⟨rfl, rfl⟩, nofun, .refl []⟩
  | succ time inductionHypothesis =>
      exact inductionHypothesis.takes (takes_after turns time)

/-- Work does not grow. -/
theorem work_after_le
    (since : time ≤ later) :
    (after turns later).work ≤ (after turns time).work := by
  induction since with
  | refl =>
      exact Nat.le_refl _
  | @step later _ inductionHypothesis =>
      have one := work_takes (sound_after turns later).staged (takes_after turns later)
      exact Nat.le_trans (Nat.le_of_add_right_le one) inductionHypothesis

/-- A task that has been summoned stays so. -/
theorem summoned_after
    (since : time ≤ later)
    (summoned : (after turns time).task.summoned = true) :
    (after turns later).task.summoned = true := by
  induction since with
  | refl =>
      exact summoned
  | @step later _ inductionHypothesis =>
      exact summoned_takes (sound_after turns later).staged inductionHypothesis
        (takes_after turns later)

/--
Whether a schedule goes on: when somebody is ready to take a turn, then now or later
somebody who is ready takes one.
-/
def Busy (turns : Nat → Turn) : Prop :=
  ∀ time turn, (after turns time).isDue turn = true →
    ∃ later, time ≤ later ∧ (after turns later).isDue (turns later) = true

/-- Whether a schedule is fair: a turn that somebody is ready for from some time on is taken. -/
def Fair (turns : Nat → Turn) : Prop :=
  ∀ time turn, (∀ later, time ≤ later → (after turns later).isDue turn = true) →
    ∃ later, time ≤ later ∧ turns later = turn

/-- Who is ready stays so, until somebody who is ready takes a turn. -/
theorem isDue_takes
    {other : Turn}
    (due : serving.isDue turn = true)
    (idle : serving.isDue other = false)
    (taken : Takes serving other next) :
    next.isDue turn = true := by
  cases taken with
  | wait =>
      exact due
  | look | drain =>
      -- A server may look although nothing woke it.
      cases turn with
      | drain =>
          exact absurd (idle.symm.trans due) Bool.false_ne_true
      | _ =>
          exact due
  | hangUp =>
      cases turn with
      | main =>
          rfl
      | _ =>
          exact due
  | deliver =>
      cases turn with
      | heed signal =>
          exact decide_eq_true (List.mem_append_left _ (of_decide_eq_true due))
      | _ =>
          exact due
  | heed present =>
      exact absurd present (of_decide_eq_false idle)
  | _ =>
      cases idle

/-- A fair schedule goes on. -/
theorem Fair.busy
    (fair : Fair turns) :
    Busy turns := by
  intro time turn due
  by_contra nobody
  have idle (later : Nat) (since : time ≤ later) :
      (after turns later).isDue (turns later) = false :=
    Bool.eq_false_iff.mpr fun taken => nobody ⟨later, since, taken⟩
  have ready (later : Nat) (since : time ≤ later) : (after turns later).isDue turn = true := by
    induction since with
    | refl =>
        exact due
    | @step later since inductionHypothesis =>
        exact isDue_takes inductionHypothesis (idle later since) (takes_after turns later)
  obtain ⟨later, since, taken⟩ := fair time turn ready
  exact nobody ⟨later, since, taken ▸ ready later since⟩

/-- A schedule in which everybody gets a turn in every round, and a signal comes. -/
def rounds (time : Nat) : Turn :=
  match time % 6 with
  | 0 => .main
  | 1 => .drain
  | 2 => .listen [.interrupt, .terminate]
  | 3 => .deliver .terminate
  | 4 => .heed .terminate
  | _ => .task

/-! After a signal, nothing is left but to wait for the connections that are open -/

section Finished

variable
    {signal : Signal}
    {notified : Nat}
    (draining : serving.stage = .draining)
    (finished : serving.task = .finished signal notified)

include draining finished

theorem isDue_of_finished
    (turn : Turn) :
    serving.isDue turn = false := by
  rcases serving with ⟨vigil, stage, task, notes⟩
  dsimp only at draining finished
  subst draining finished
  cases turn with
  | _ =>
      rfl

/-- A finished server takes no more turns, but for a caller who hangs up. -/
theorem step_of_finished
    (nobodyHangsUp : turn ≠ .hangUp) :
    serving.step turn = serving := by
  rcases serving with ⟨vigil, stage, task, notes⟩
  dsimp only at draining finished
  subst draining finished
  cases turn with
  | hangUp =>
      exact absurd rfl nobodyHangsUp
  | _ =>
      rfl

end Finished

/-- In four rounds all is done. -/
theorem after_rounds
    (time : Nat) :
    (after rounds (24 + time)).stage = .draining ∧
      (after rounds (24 + time)).task = .finished .terminate 1 := by
  induction time with
  | zero =>
      decide
  | succ time inductionHypothesis =>
      have noHangUp : rounds (24 + time) ≠ .hangUp := by
        unfold rounds
        split <;> nofun
      have same : after rounds (24 + (time + 1)) = after rounds (24 + time) :=
        step_of_finished inductionHypothesis.1 inductionHypothesis.2 noHangUp
      rw [same]
      exact inductionHypothesis

theorem busy_rounds :
    Busy rounds := by
  intro time turn due
  have early : time ≤ 23 := by
    by_contra late
    obtain ⟨rest, rfl⟩ := Nat.exists_eq_add_of_le (Nat.not_le.mp late)
    obtain ⟨draining, finished⟩ := after_rounds rest
    exact Bool.false_ne_true ((isDue_of_finished draining finished turn).symm.trans due)
  exact ⟨23, early, by decide⟩

/-- With any schedule that goes on, a signal makes the server drain in the end. -/
theorem exists_drains
    (busy : Busy turns)
    (summoned : (after turns time).task.summoned = true) :
    ∃ later, time ≤ later ∧ (after turns later).stage.drains = true := by
  induction work : (after turns time).work using Nat.strongRecOn generalizing time with
  | ind work inductionHypothesis =>
      subst work
      by_cases drains : (after turns time).stage.drains = true
      · exact ⟨time, Nat.le_refl time, drains⟩
      · obtain ⟨turn, due⟩ :=
          (sound_after turns time).staged.exists_isDue summoned (Bool.eq_false_iff.mpr drains)
        obtain ⟨later, since, taken⟩ := busy time turn due
        have less : (after turns (later + 1)).work < (after turns time).work := by
          have one := work_takes (sound_after turns later).staged (takes_after turns later)
          have before : (after turns later).work ≤ (after turns time).work := work_after_le since
          rw [taken, Bool.toNat_true] at one
          omega
        have sinceThen : time ≤ later + 1 := Nat.le_succ_of_le since
        obtain ⟨last, afterwards, drained⟩ :=
          inductionHypothesis _ less (summoned_after sinceThen summoned) rfl
        exact ⟨last, Nat.le_trans sinceThen afterwards, drained⟩

/--
Whatever the schedule, when both tasks have come to their ends, what was noted is what a
process notes that is stopped, but perhaps in another order.
-/
theorem perm_stopNotes
    {signal : Signal}
    {notified : Nat}
    (ended : (after turns time).stage = .ended)
    (finished : (after turns time).task = .finished signal notified) :
    (after turns time).notes.Perm (.event .serverStarting :: stopNotes signal) := by
  obtain ⟨-, one, noted⟩ := sound_after turns time
  rw [finished] at one
  obtain rfl : notified = 1 := one notified rfl
  rw [Noted, ended, finished] at noted
  have stops : stopNotes signal =
      [.event signal.event, .event (.shutdownTriggered 1)] ++
        [.event .serverDraining, .event .serverStopped, .event .shutdownComplete] :=
    rfl
  have ends : Stage.ended.notes ++ (SignalTask.finished signal 1).notes =
      .event .serverStarting ::
        ([.event .serverDraining, .event .serverStopped, .event .shutdownComplete] ++
          [.event signal.event, .event (.shutdownTriggered 1)]) :=
    rfl
  rw [stops]
  refine noted.trans ?_
  rw [ends]
  exact List.perm_append_comm.cons _

/-- A schedule in which a signal comes when nothing else is to be done. -/
def inTurn (signal : Signal) (time : Nat) : Turn :=
  [.main, .main, .main, .main, .listen [signal], .deliver signal, .heed signal, .task, .task,
    .drain, .hangUp].getD time .main

/-- There is a schedule with the order in which a process that is stopped notes it. -/
theorem notes_inTurn
    (signal : Signal) :
    (after (inTurn signal) 12).notes = .event .serverStarting :: stopNotes signal := by
  cases signal with
  | interrupt =>
      rfl
  | terminate =>
      rfl

/-- What becomes of a signal to a process, whatever the schedule of its tasks. -/
structure DrainsOnSignal (turns : Nat → Turn) : Prop where
  /-- The server's subscriber is there before the signal task is started. -/
  subscribedFirst :
    ∀ time, (after turns time).task ≠ .absent → (after turns time).stage ≠ .bound
  /-- When the signal to stop is sent, it goes to the server. -/
  notified : ∀ time, ∀ notified ∈ (after turns time).task.notified?, notified = 1
  /-- The server does not drain before the signal to stop is sent. -/
  sent : ∀ time, (after turns time).stage.drains = true → (after turns time).task.sent = true
  /-- When nobody can go on, the server has been told of any signal that came. -/
  settled :
    ∀ time, (∀ turn, (after turns time).isDue turn = false) →
      (after turns time).task.summoned = true → (after turns time).stage.drains = true
  /-- With any schedule that goes on, a signal that comes makes the server drain. -/
  drains :
    Busy turns → ∀ time, (after turns time).task.summoned = true →
      ∃ later, time ≤ later ∧ (after turns later).stage.drains = true
  /-- When both tasks have ended, it was noted what a process notes that is stopped. -/
  noted :
    ∀ time signal notified, (after turns time).stage = .ended →
      (after turns time).task = .finished signal notified →
        (after turns time).notes.Perm (.event .serverStarting :: stopNotes signal)

theorem drainsOnSignal
    (turns : Nat → Turn) :
    DrainsOnSignal turns := by
  have staged (time : Nat) : (after turns time).Staged := (sound_after turns time).staged
  refine {
    subscribedFirst := fun time started bound => ?_
    notified := fun time => (sound_after turns time).notified
    sent := fun time => (staged time).sent_of_drains
    settled := fun time rests summoned => ?_
    drains := fun busy time => exists_drains busy
    noted := fun time signal notified => perm_stopNotes }
  · have absent := staged time
    rw [Staged, bound] at absent
    exact started absent.1
  · by_contra serves
    obtain ⟨turn, due⟩ := (staged time).exists_isDue summoned (Bool.eq_false_iff.mpr serves)
    exact Bool.false_ne_true ((rests turn).symm.trans due)

end Serving

/--
No signal is missed. A subscriber heeds every signal that is sent after it came, whatever
else is done, and also that all coordinators are gone; a signal can be sent whether or not
anybody listens; and a signal to the process makes its server drain, whatever the schedule.
-/
theorem signal_neverMissed
    {before after : List Move}
    (opened : ¬ Abandoned before)
    (stays : .leave (nextSubscriber before) ∉ after)
    (turns : Nat → Turn) :
    Heeds before after (nextSubscriber before)
        (Vigil.begin.run (before ++ .subscribe :: after)) ∧
      (∀ shutdown : Shutdown, shutdown.AlwaysSends) ∧ Serving.DrainsOnSignal turns :=
  ⟨Heeds.of_stays opened stays, Shutdown.alwaysSends, Serving.drainsOnSignal turns⟩

/-- Before the subscriber comes, there is another one, and a signal that is not for it. -/
def crowd : List Move :=
  [.trigger, .subscribe, .clone, .trigger]

/-- Three signals while the subscriber does not look, some of which the other one takes. -/
def burst : List Move :=
  [.release, .trigger, .poll 0, .trigger, .trigger]

/-- A late subscriber that misses two of three signals is told so, and its wait is over. -/
theorem signal_neverMissed_overflowed :
    ¬ Abandoned crowd ∧ .leave (nextSubscriber crowd) ∉ burst ∧ Serving.Busy Serving.rounds ∧
      ((Vigil.begin.run (crowd ++ .subscribe :: burst)).shutdown.receive?
          (nextSubscriber crowd)).map Prod.fst = some (.lagged 2) ∧
      ((Vigil.begin.run (crowd ++ .subscribe :: burst)).step
          (.poll (nextSubscriber crowd))).told (nextSubscriber crowd) = true ∧
      ∃ time, 16 ≤ time ∧ (Serving.after Serving.rounds time).stage.drains = true := by
  have opened : ¬ Abandoned crowd :=
    (Vigil.coordinators_run_eq_zero_iff crowd).not.mp (by decide)
  have stillOpen : ¬ Abandoned (crowd ++ .subscribe :: burst) :=
    (Vigil.coordinators_run_eq_zero_iff _).not.mp (by decide)
  have stays : .leave (nextSubscriber crowd) ∉ burst := by decide
  have unpolled : .poll (nextSubscriber crowd) ∉ burst := by decide
  obtain ⟨heeds, -, process⟩ := signal_neverMissed opened stays Serving.rounds
  exact ⟨opened, stays, Serving.busy_rounds, heeds.counted unpolled stillOpen,
    heeds.told_poll_iff.mpr (.inl (by decide)),
    process.drains Serving.busy_rounds 16 (by decide)⟩

end Notary.Lifecycle
