import Mathlib.Data.List.Induction
import Notary.Lifecycle.Shutdown

namespace Notary.Lifecycle

/-!
# Waiting for the signal to stop

Coordinators send the signal, come and go; subscribers come and go, and look for the
signal as they like. Who looks and finds nothing sleeps, until a signal is sent or the
last coordinator is gone. All this may happen in any order: a history is a list of moves,
each of which is made at once.
-/

/-- Something that is done with a shutdown, or by one of its subscribers. -/
inductive Move where
  /-- A coordinator takes on a subscriber. -/
  | subscribe
  | clone
  | trigger
  /-- A coordinator is dropped. -/
  | release
  /-- The subscriber of a number looks for the signal. -/
  | poll (id : Nat)
  /-- The subscriber of a number goes away. -/
  | leave (id : Nat)
deriving Repr, DecidableEq

/-- Whether a move is made by a coordinator. -/
def Move.isCoordinators : Move → Bool
  | subscribe | clone | trigger | release => true
  | poll _ | leave _ => false

/--
Whether all coordinators have been dropped: at some time as many as there were copies, and
the first one. From then on, nothing comes of the moves of coordinators.
-/
def Abandoned (moves : List Move) : Prop :=
  ∃ earlier, earlier <+: moves ∧ earlier.count .release = earlier.count .clone + 1

/-- A shutdown, and those who wait for its signal. -/
structure Vigil where
  shutdown : Shutdown
  /-- The subscribers that sleep until they are woken. -/
  asleep : List Nat
  /-- What was found so far, each time with the number of who looked. -/
  found : List (Nat × Receipt)
deriving Repr, DecidableEq

namespace Vigil

/-- One coordinator, and nobody who waits. -/
def begin : Vigil :=
  ⟨.new, [], []⟩

/-- Send the signal. It wakes all who sleep, unless there is nobody to send it to. -/
def trigger (vigil : Vigil) : Vigil :=
  { vigil with
    shutdown := vigil.shutdown.trigger.shutdown
    asleep := if vigil.shutdown.offer?.isSome then [] else vigil.asleep }

/-- Drop a coordinator. That of the last one wakes all who sleep. -/
def release (vigil : Vigil) : Vigil :=
  { vigil with
    shutdown := vigil.shutdown.dropCoordinator
    asleep := if vigil.shutdown.dropCoordinator.coordinators = 0 then [] else vigil.asleep }

/-- Look for the signal on behalf of a subscriber, who sleeps if there is nothing. -/
def poll (vigil : Vigil) (id : Nat) : Vigil :=
  match vigil.shutdown.receive? id with
  | none => vigil
  | some (receipt, shutdown) =>
      { shutdown
        asleep := if receipt.resolves then vigil.asleep else id :: vigil.asleep
        found := vigil.found ++ [(id, receipt)] }

/-- The state after a move that there is somebody to make. -/
def make (vigil : Vigil) : Move → Vigil
  | .subscribe => { vigil with shutdown := vigil.shutdown.subscribe.1 }
  | .clone => { vigil with shutdown := vigil.shutdown.clone }
  | .trigger => vigil.trigger
  | .release => vigil.release
  | .poll id => vigil.poll id
  | .leave id =>
      { vigil with
        shutdown := vigil.shutdown.unsubscribe id
        asleep := vigil.asleep.filter (· ≠ id) }

/-- The state after a move. Without a coordinator, nothing comes of the moves of one. -/
def step (vigil : Vigil) (move : Move) : Vigil :=
  if move.isCoordinators = true ∧ vigil.shutdown.coordinators = 0 then vigil
  else vigil.make move

/-- The state after moves in order. -/
def run (vigil : Vigil) (moves : List Move) : Vigil :=
  moves.foldl step vigil

/-- Whether a subscriber has been told: it has looked, and what it found was not nothing. -/
def told (vigil : Vigil) (id : Nat) : Bool :=
  vigil.found.any fun look => look.1 = id && look.2.resolves

theorem run_append
    (vigil : Vigil)
    (first second : List Move) :
    vigil.run (first ++ second) = (vigil.run first).run second :=
  List.foldl_append

end Vigil

namespace Shutdown

/-- How many signals the subscriber of a number has taken or missed. -/
def seen? (shutdown : Shutdown) (id : Nat) : Option Nat :=
  (shutdown.subscribers.find? (·.id = id)).map (·.seen)

variable
    {shutdown : Shutdown}
    {id seen : Nat}

theorem find?_of_seen?
    (known : shutdown.seen? id = some seen) :
    shutdown.subscribers.find? (·.id = id) = some ⟨id, seen⟩ := by
  obtain ⟨⟨other, _⟩, found, rfl⟩ := Option.map_eq_some_iff.mp known
  have same : other = id := by
    simpa using List.find?_some found
  rw [found, same]

/-- A new subscriber has seen what was sent before. -/
theorem seen?_subscribe_fresh
    (numbered : ∀ subscriber ∈ shutdown.subscribers, subscriber.id < shutdown.fresh) :
    shutdown.subscribe.1.seen? shutdown.fresh = some shutdown.sent := by
  have others : shutdown.subscribers.find? (·.id = shutdown.fresh) = none := by
    rw [List.find?_eq_none]
    intro subscriber member
    simpa using Nat.ne_of_lt (numbered subscriber member)
  simp [seen?, subscribe, List.find?_append, others]

/-- A new subscriber does not touch the others. -/
theorem seen?_subscribe
    (known : shutdown.seen? id = some seen) :
    shutdown.subscribe.1.seen? id = some seen := by
  have found := find?_of_seen? known
  simp [seen?, subscribe, List.find?_append, found]

theorem seen?_unsubscribe
    {other : Nat}
    (stays : other ≠ id) :
    (shutdown.unsubscribe other).seen? id = shutdown.seen? id := by
  simp only [seen?, unsubscribe, List.find?_filter]
  congr 2
  funext subscriber
  by_cases own : subscriber.id = id
  · simp [own, Ne.symm stays]
  · simp [own]

/-- A signal leaves everything but the number of signals alone. -/
theorem send_frame
    (shutdown : Shutdown) :
    shutdown.send.coordinators = shutdown.coordinators ∧
      shutdown.send.subscribers = shutdown.subscribers ∧
      shutdown.send.fresh = shutdown.fresh := by
  unfold send
  split
  · exact ⟨rfl, rfl, rfl⟩
  · exact ⟨rfl, rfl, rfl⟩

theorem seen?_send :
    shutdown.send.seen? id = shutdown.seen? id := by
  rw [seen?, seen?, shutdown.send_frame.2.1]

theorem subscribers_ne_nil_of_seen?
    (known : shutdown.seen? id = some seen) :
    shutdown.subscribers ≠ [] := by
  intro nobody
  simp [seen?, nobody] at known

/-- With a subscriber, a signal counts. -/
theorem sent_send
    (known : shutdown.seen? id = some seen) :
    shutdown.send.sent = shutdown.sent + 1 := by
  simp [send, subscribers_ne_nil_of_seen? known]

/-! ## What a look finds -/

/-- A look ends a wait if there is something new, or nobody who could send anything. -/
theorem resolves_look_iff :
    (shutdown.look ⟨id, seen⟩).receipt.resolves = true ↔
      seen ≠ shutdown.sent ∨ shutdown.coordinators = 0 := by
  unfold look
  by_cases upToDate : seen = shutdown.sent
  · by_cases abandoned : shutdown.coordinators = 0
    · simp [Receipt.resolves, upToDate, abandoned]
    · simp [Receipt.resolves, upToDate, abandoned]
  · by_cases next : seen + 1 = shutdown.sent
    · simp [Receipt.resolves, upToDate, next]
    · simp [Receipt.resolves, upToDate, next]

/-- Who finds nothing has seen nothing. -/
theorem subscriber_look_of_not_resolves
    {subscriber : Subscriber}
    (nothing : (shutdown.look subscriber).receipt.resolves = false) :
    (shutdown.look subscriber).subscriber = subscriber := by
  unfold look at nothing ⊢
  split at nothing
  · next upToDate => simp [upToDate]
  · split at nothing
    · cases nothing
    · cases nothing

theorem id_look
    (subscriber : Subscriber) :
    (shutdown.look subscriber).subscriber.id = subscriber.id := by
  unfold look
  split
  · rfl
  · split
    · rfl
    · rfl

/-- Put a subscriber in the place of the one of its number. -/
def put (shutdown : Shutdown) (subscriber : Subscriber) : Shutdown :=
  { shutdown with
    subscribers := shutdown.subscribers.map fun other =>
      if other.id = subscriber.id then subscriber else other }

/--
A known subscriber receives what its look at the channel gives, and is stored as the look leaves
it.
-/
theorem receive?_eq
    (known : shutdown.seen? id = some seen) :
    shutdown.receive? id =
      some ((shutdown.look ⟨id, seen⟩).receipt,
        shutdown.put (shutdown.look ⟨id, seen⟩).subscriber) := by
  rw [receive?, find?_of_seen? known, Option.map_some, put, id_look]

theorem receive?_eq_none
    (unknown : shutdown.seen? id = none) :
    shutdown.receive? id = none := by
  rw [receive?, Option.map_eq_none_iff.mp unknown, Option.map_none]

/-- Storing a subscriber changes what that subscriber has seen, if it is there at all. -/
theorem seen?_put
    {subscriber : Subscriber} :
    (shutdown.put subscriber).seen? id =
      if id = subscriber.id then (shutdown.seen? id).map fun _ => subscriber.seen
      else shutdown.seen? id := by
  have sameIds :
      ((fun other : Subscriber => decide (other.id = id)) ∘ fun other =>
          if other.id = subscriber.id then subscriber else other) =
        fun other => decide (other.id = id) := by
    funext other
    by_cases own : other.id = subscriber.id
    · simp [own]
    · simp [own]
  simp only [seen?, put, List.find?_map, sameIds, Option.map_map]
  split
  · next same =>
      subst same
      cases found : shutdown.subscribers.find? fun other => decide (other.id = subscriber.id) with
      | none =>
          rfl
      | some other =>
          have own : other.id = subscriber.id := by
            simpa using List.find?_some found
          simp [own]
  · next different =>
      cases found : shutdown.subscribers.find? fun other => decide (other.id = id) with
      | none =>
          rfl
      | some other =>
          have own : other.id = id := by
            simpa using List.find?_some found
          simp [own, different]

end Shutdown

namespace Vigil

variable
    {vigil : Vigil}
    {id : Nat}

/--
A poll of a known subscriber stores its look, records its receipt and puts it to sleep unless the
receipt resolves.
-/
theorem poll_eq
    {seen : Nat}
    (known : vigil.shutdown.seen? id = some seen) :
    vigil.poll id =
      ⟨vigil.shutdown.put (vigil.shutdown.look ⟨id, seen⟩).subscriber,
        if (vigil.shutdown.look ⟨id, seen⟩).receipt.resolves then vigil.asleep
          else id :: vigil.asleep,
        vigil.found ++ [(id, (vigil.shutdown.look ⟨id, seen⟩).receipt)]⟩ := by
  rw [poll, Shutdown.receive?_eq known]

theorem poll_of_unknown
    (unknown : vigil.shutdown.seen? id = none) :
    vigil.poll id = vigil := by
  rw [poll, Shutdown.receive?_eq_none unknown]

/-- A look leaves the coordinators and the number of signals alone. -/
theorem poll_frame
    (vigil : Vigil)
    (id : Nat) :
    (vigil.poll id).shutdown.coordinators = vigil.shutdown.coordinators ∧
      (vigil.poll id).shutdown.sent = vigil.shutdown.sent := by
  cases known : vigil.shutdown.seen? id with
  | none =>
      rw [poll_of_unknown known]
      exact ⟨rfl, rfl⟩
  | some seen =>
      rw [poll_eq known]
      exact ⟨rfl, rfl⟩

/-! ## The numbers of subscribers -/

/-- All numbers in use are below that of the next subscriber. -/
structure Numbered (vigil : Vigil) : Prop where
  subscribers : ∀ subscriber ∈ vigil.shutdown.subscribers, subscriber.id < vigil.shutdown.fresh
  asleep : ∀ id ∈ vigil.asleep, id < vigil.shutdown.fresh
  found : ∀ look ∈ vigil.found, look.1 < vigil.shutdown.fresh

namespace Numbered

theorem begin :
    Vigil.begin.Numbered :=
  ⟨nofun, nofun, nofun⟩

theorem trigger
    (numbered : vigil.Numbered) :
    vigil.trigger.Numbered := by
  obtain ⟨-, sameSubscribers, sameFresh⟩ := vigil.shutdown.send_frame
  refine ⟨?_, ?_, ?_⟩
  · simp only [Vigil.trigger, Shutdown.trigger_eq, sameSubscribers, sameFresh]
    exact numbered.subscribers
  · simp only [Vigil.trigger, Shutdown.trigger_eq, sameFresh]
    split
    · exact nofun
    · exact numbered.asleep
  · simp only [Vigil.trigger, Shutdown.trigger_eq, sameFresh]
    exact numbered.found

theorem release
    (numbered : vigil.Numbered) :
    vigil.release.Numbered := by
  refine ⟨numbered.subscribers, ?_, numbered.found⟩
  simp only [Vigil.release]
  split
  · exact nofun
  · exact numbered.asleep

theorem poll
    (numbered : vigil.Numbered)
    (id : Nat) :
    (vigil.poll id).Numbered := by
  cases known : vigil.shutdown.seen? id with
  | none =>
      rwa [poll_of_unknown known]
  | some seen =>
      have below : id < vigil.shutdown.fresh :=
        numbered.subscribers _ (List.mem_of_find?_eq_some (Shutdown.find?_of_seen? known))
      rw [poll_eq known]
      refine ⟨?_, ?_, ?_⟩
      · intro subscriber member
        obtain ⟨other, listed, rfl⟩ := List.mem_map.mp member
        split
        · exact (Shutdown.id_look _).symm ▸ below
        · exact numbered.subscribers other listed
      · split
        · exact numbered.asleep
        · exact List.forall_mem_cons.mpr ⟨below, numbered.asleep⟩
      · intro look member
        rcases List.mem_append.mp member with earlier | last
        · exact numbered.found look earlier
        · rw [List.mem_singleton.mp last]
          exact below

/-- A new subscriber takes the next number, and the next one moves on. -/
theorem subscribe
    (numbered : vigil.Numbered) :
    (vigil.make .subscribe).Numbered := by
  refine ⟨?_, ?_, ?_⟩
  · intro subscriber member
    rcases List.mem_append.mp member with earlier | last
    · exact Nat.lt_succ_of_lt (numbered.subscribers subscriber earlier)
    · rw [List.mem_singleton.mp last]
      exact Nat.lt_succ_self vigil.shutdown.fresh
  · exact fun id member => Nat.lt_succ_of_lt (numbered.asleep id member)
  · exact fun look member => Nat.lt_succ_of_lt (numbered.found look member)

/-- Every move keeps the numbers in use below the next one. -/
theorem step
    (numbered : vigil.Numbered)
    (move : Move) :
    (vigil.step move).Numbered := by
  unfold Vigil.step
  split
  · exact numbered
  · cases move with
    | subscribe =>
        exact numbered.subscribe
    | clone =>
        exact ⟨numbered.subscribers, numbered.asleep, numbered.found⟩
    | trigger =>
        exact numbered.trigger
    | release =>
        exact numbered.release
    | poll id =>
        exact numbered.poll id
    | leave id =>
        refine ⟨fun subscriber member => ?_, fun other member => ?_, numbered.found⟩
        · exact numbered.subscribers subscriber (List.mem_filter.mp member).1
        · exact numbered.asleep other (List.mem_filter.mp member).1

/-- The numbers in use stay below the next one over every schedule. -/
theorem run
    (numbered : vigil.Numbered)
    (moves : List Move) :
    (vigil.run moves).Numbered := by
  induction moves generalizing vigil with
  | nil =>
      exact numbered
  | cons move moves inductionHypothesis =>
      exact inductionHypothesis (numbered.step move)

/-- Nobody has been told anything that has not come yet. -/
theorem told_fresh
    (numbered : vigil.Numbered) :
    vigil.told vigil.shutdown.fresh = false := by
  rw [told, List.any_eq_false]
  intro look member
  have below := numbered.found look member
  simp [Nat.ne_of_lt below]

end Numbered

/-! ## When no coordinator is left -/

/-- Without a coordinator there will be none again. -/
theorem coordinators_step_of_none
    (abandoned : vigil.shutdown.coordinators = 0)
    (move : Move) :
    (vigil.step move).shutdown.coordinators = 0 := by
  unfold step
  split
  · exact abandoned
  · next own =>
      cases move with
      | poll id =>
          exact (vigil.poll_frame id).1.trans abandoned
      | leave id =>
          exact abandoned
      | _ =>
          exact absurd ⟨rfl, abandoned⟩ own

/-- With a coordinator, a copy adds one and a drop takes one away. -/
theorem coordinators_step
    (held : vigil.shutdown.coordinators ≠ 0)
    (move : Move) :
    (vigil.step move).shutdown.coordinators + [move].count .release =
      vigil.shutdown.coordinators + [move].count .clone := by
  have made : vigil.step move = vigil.make move := by
    simp [step, held]
  rw [made]
  cases move with
  | trigger =>
      simp [make, trigger, Shutdown.trigger_eq, vigil.shutdown.send_frame.1]
  | release =>
      simp only [make, release, Shutdown.dropCoordinator, List.count_singleton]
      exact Nat.sub_add_cancel (Nat.pos_of_ne_zero held)
  | poll id =>
      simp [make, (vigil.poll_frame id).1]
  | _ =>
      rfl

/-- The coordinators that are left are the first one and the copies, less those dropped. -/
theorem coordinators_run
    (moves : List Move) :
    (Abandoned moves → (begin.run moves).shutdown.coordinators = 0) ∧
      (¬ Abandoned moves →
        (begin.run moves).shutdown.coordinators + moves.count .release =
          moves.count .clone + 1) := by
  induction moves using List.reverseRecOn with
  | nil =>
      refine ⟨?_, fun _ => rfl⟩
      rintro ⟨earlier, isPrefix, balance⟩
      rw [List.prefix_nil.mp isPrefix] at balance
      cases balance
  | append_singleton moves move inductionHypothesis =>
      obtain ⟨whenAbandoned, whenHeld⟩ := inductionHypothesis
      have ran : begin.run (moves ++ [move]) = (begin.run moves).step move :=
        begin.run_append moves [move]
      by_cases abandoned : Abandoned moves
      · obtain ⟨earlier, isPrefix, balance⟩ := abandoned
        have still : Abandoned (moves ++ [move]) :=
          ⟨earlier, isPrefix.trans (List.prefix_append moves [move]), balance⟩
        rw [ran]
        exact ⟨fun _ => coordinators_step_of_none (whenAbandoned ⟨earlier, isPrefix, balance⟩) move,
          fun held => absurd still held⟩
      · have sum := whenHeld abandoned
        have held : (begin.run moves).shutdown.coordinators ≠ 0 := by
          intro nobody
          exact abandoned ⟨moves, List.prefix_refl moves, by omega⟩
        have balance : ((begin.run moves).step move).shutdown.coordinators +
            (moves ++ [move]).count .release = (moves ++ [move]).count .clone + 1 := by
          have one := coordinators_step held move
          rw [List.count_append, List.count_append]
          omega
        rw [ran]
        refine ⟨?_, fun _ => balance⟩
        rintro ⟨earlier, isPrefix, dropped⟩
        rcases List.prefix_concat_iff.mp isPrefix with rfl | before
        · omega
        · exact absurd ⟨earlier, before, dropped⟩ abandoned

/-- The last coordinator is gone exactly after a schedule that abandons the channel. -/
theorem coordinators_run_eq_zero_iff
    (moves : List Move) :
    (begin.run moves).shutdown.coordinators = 0 ↔ Abandoned moves := by
  obtain ⟨whenAbandoned, whenHeld⟩ := coordinators_run moves
  refine ⟨fun nobody => ?_, whenAbandoned⟩
  by_contra held
  have sum := whenHeld held
  exact held ⟨moves, List.prefix_refl moves, by omega⟩

end Vigil

end Notary.Lifecycle
