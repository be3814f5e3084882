import Notary.Proofs.Lifecycle.Vigil

namespace Notary.Lifecycle

/-!
# No signal to stop is missed

A subscriber that was told nothing yet has seen nothing since it came. So whatever
coordinators and other subscribers do, its next look tells it exactly if a signal was sent
since it came, or no coordinator is left; and it does not sleep while this is so. That more
signals are sent than are kept makes no difference.
-/

/-- What the first look finds after so many signals. -/
def Receipt.ofCount : Nat → Receipt
  | 0 => .empty
  | 1 => .signal
  | missed + 2 => .lagged (missed + 1)

namespace Vigil

variable
    {vigil : Vigil}
    {id : Nat}

/-- A poll tells a subscriber of the stop exactly if its receipt resolves. -/
theorem told_poll
    {seen : Nat}
    (known : vigil.shutdown.seen? id = some seen) :
    (vigil.poll id).told id =
      (vigil.told id || (vigil.shutdown.look ⟨id, seen⟩).receipt.resolves) := by
  simp [poll_eq known, told]

theorem told_poll_of_ne
    {other : Nat}
    (different : other ≠ id) :
    (vigil.poll other).told id = vigil.told id := by
  cases known : vigil.shutdown.seen? other with
  | none =>
      rw [poll_of_unknown known]
  | some seen =>
      simp [poll_eq known, told, different]

/-- Only a look of its own tells a subscriber anything. -/
theorem told_step
    {move : Move}
    (looksAway : move ≠ .poll id) :
    (vigil.step move).told id = vigil.told id := by
  unfold step
  split
  · rfl
  · cases move with
    | poll other =>
        exact told_poll_of_ne fun same => looksAway (congrArg Move.poll same)
    | _ =>
        rfl

/--
What is known of a subscriber that came when `base` signals had been sent, and that
listens since. Triggered `count` times since then, the shutdown has sent as many signals,
unless its coordinators are gone.
-/
structure Awaits (id base count : Nat) (vigil : Vigil) : Prop where
  /-- Until it is told, it has seen nothing that was sent since it came. -/
  listens : ∃ seen, vigil.shutdown.seen? id = some seen ∧ (vigil.told id = true ∨ seen = base)
  base_le : base ≤ vigil.shutdown.sent
  sent_le : vigil.shutdown.sent ≤ base + count
  counted : vigil.shutdown.coordinators ≠ 0 → vigil.shutdown.sent = base + count
  /-- It is not told without a reason. -/
  justified : vigil.told id = true → 0 < count ∨ vigil.shutdown.coordinators = 0
  /-- It does not sleep while there is something to find. -/
  awake :
    id ∈ vigil.asleep →
      vigil.told id = true ∨ (count = 0 ∧ vigil.shutdown.coordinators ≠ 0)

namespace Awaits

variable
    {base count : Nat}

/-- Who has just subscribed has seen all that was sent, and waits. -/
theorem subscribe
    (numbered : vigil.Numbered)
    (held : vigil.shutdown.coordinators ≠ 0) :
    (vigil.step .subscribe).Awaits vigil.shutdown.fresh vigil.shutdown.sent 0 := by
  have made : vigil.step .subscribe = { vigil with shutdown := vigil.shutdown.subscribe.1 } := by
    simp [step, held, make]
  rw [made]
  exact {
    listens := ⟨_, Shutdown.seen?_subscribe_fresh numbered.subscribers, .inr rfl⟩
    base_le := Nat.le_refl _
    sent_le := Nat.le_refl _
    counted := fun _ => rfl
    justified := fun isTold => absurd (numbered.told_fresh.symm.trans isTold) Bool.false_ne_true
    awake := fun asleep => absurd (numbered.asleep _ asleep) (Nat.lt_irrefl _) }

/-- A look tells a subscriber exactly if there is something to be told. -/
theorem told_poll_iff
    (awaits : vigil.Awaits id base count) :
    (vigil.poll id).told id = true ↔ 0 < count ∨ vigil.shutdown.coordinators = 0 := by
  obtain ⟨seen, known, stage⟩ := awaits.listens
  rw [told_poll known, Bool.or_eq_true, Shutdown.resolves_look_iff]
  constructor
  · rintro (isTold | new | abandoned)
    · exact awaits.justified isTold
    · by_cases abandoned : vigil.shutdown.coordinators = 0
      · exact .inr abandoned
      · rcases stage with isTold | rfl
        · exact awaits.justified isTold
        · have counted := awaits.counted abandoned
          exact .inl (by omega)
    · exact .inr abandoned
  · rintro (triggered | abandoned)
    · by_cases abandoned : vigil.shutdown.coordinators = 0
      · exact .inr (.inr abandoned)
      · rcases stage with isTold | rfl
        · exact .inl isTold
        · have counted := awaits.counted abandoned
          exact .inr (.inl (by omega))
    · exact .inr (.inr abandoned)

/-- Who looks and is told nothing sleeps. -/
theorem mem_asleep_poll
    (awaits : vigil.Awaits id base count)
    (untold : (vigil.poll id).told id = false) :
    id ∈ (vigil.poll id).asleep := by
  obtain ⟨seen, known, -⟩ := awaits.listens
  rw [told_poll known, Bool.or_eq_false_iff] at untold
  rw [poll_eq known, untold.2]
  exact List.mem_cons_self

/-- Who sleeps is told already, if there was anything to be told. -/
theorem told_of_mem_asleep
    (awaits : vigil.Awaits id base count)
    (asleep : id ∈ vigil.asleep)
    (called : 0 < count ∨ vigil.shutdown.coordinators = 0) :
    vigil.told id = true := by
  rcases awaits.awake asleep with isTold | ⟨silent, held⟩
  · exact isTold
  · rcases called with triggered | abandoned
    · exact absurd triggered (silent ▸ Nat.lt_irrefl 0)
    · exact absurd abandoned held

/-! Moves that a waiting subscriber goes on waiting through -/

theorem add_subscriber
    (awaits : vigil.Awaits id base count) :
    (vigil.make .subscribe).Awaits id base count := by
  obtain ⟨seen, known, stage⟩ := awaits.listens
  exact {
    listens := ⟨seen, Shutdown.seen?_subscribe known, stage⟩
    base_le := awaits.base_le
    sent_le := awaits.sent_le
    counted := awaits.counted
    justified := awaits.justified
    awake := awaits.awake }

theorem clone
    (awaits : vigil.Awaits id base count)
    (held : vigil.shutdown.coordinators ≠ 0) :
    (vigil.make .clone).Awaits id base count :=
  { awaits with
    counted := fun _ => awaits.counted held
    justified := fun isTold =>
      (awaits.justified isTold).imp_right fun abandoned => absurd abandoned held
    awake := fun asleep =>
      (awaits.awake asleep).imp_right fun waits => ⟨waits.1, Nat.succ_ne_zero _⟩ }

/-- A signal counts, and it wakes everybody. -/
theorem trigger
    (awaits : vigil.Awaits id base count)
    (held : vigil.shutdown.coordinators ≠ 0) :
    vigil.trigger.Awaits id base (count + 1) := by
  obtain ⟨seen, known, stage⟩ := awaits.listens
  have sent : vigil.shutdown.send.sent = vigil.shutdown.sent + 1 :=
    Shutdown.sent_send known
  have heard : vigil.shutdown.offer?.isSome = true := by
    rw [Option.isSome_iff_ne_none, Ne, Shutdown.offer?_eq_none_iff]
    exact Shutdown.subscribers_ne_nil_of_seen? known
  have sum := awaits.counted held
  have triggered : vigil.trigger = ⟨vigil.shutdown.send, [], vigil.found⟩ := by
    rw [Vigil.trigger, heard, Shutdown.trigger_eq]
    rfl
  rw [triggered]
  exact {
    listens := ⟨seen, Shutdown.seen?_send.trans known, stage⟩
    base_le := by simp only [sent]; omega
    sent_le := by simp only [sent]; omega
    counted := fun _ => by simp only [sent]; omega
    justified := fun _ => .inl (Nat.succ_pos count)
    awake := fun asleep => absurd asleep List.not_mem_nil }

/-- The last coordinator wakes everybody when it goes. -/
theorem release
    (awaits : vigil.Awaits id base count)
    (held : vigil.shutdown.coordinators ≠ 0) :
    vigil.release.Awaits id base count := by
  refine { awaits with counted := fun _ => awaits.counted held, justified := ?_, awake := ?_ }
  · exact fun isTold => .inl ((awaits.justified isTold).resolve_right held)
  · simp only [Vigil.release]
    split
    · exact fun asleep => absurd asleep List.not_mem_nil
    · next left =>
        exact fun asleep => (awaits.awake asleep).imp_right fun waits => ⟨waits.1, left⟩

/-- Others may look as they like. -/
theorem poll_of_ne
    {other : Nat}
    (awaits : vigil.Awaits id base count)
    (different : other ≠ id) :
    (vigil.poll other).Awaits id base count := by
  cases found : vigil.shutdown.seen? other with
  | none =>
      rwa [poll_of_unknown found]
  | some others =>
      obtain ⟨seen, known, stage⟩ := awaits.listens
      have sameTold := vigil.told_poll_of_ne different
      rw [poll_eq found] at sameTold ⊢
      refine {
        listens := ⟨seen, ?_, sameTold.symm ▸ stage⟩
        base_le := awaits.base_le
        sent_le := awaits.sent_le
        counted := awaits.counted
        justified := fun isTold => awaits.justified (sameTold ▸ isTold)
        awake := fun asleep => sameTold.symm ▸ awaits.awake ?_ }
      · rw [Shutdown.seen?_put, Shutdown.id_look, if_neg different.symm]
        exact known
      · split at asleep
        · exact asleep
        · exact (List.mem_cons.mp asleep).resolve_left different.symm

/-- Who looks takes what there is, and has been told then. -/
theorem poll
    (awaits : vigil.Awaits id base count) :
    (vigil.poll id).Awaits id base count := by
  obtain ⟨sameCoordinators, sameSent⟩ := vigil.poll_frame id
  obtain ⟨seen, known, stage⟩ := awaits.listens
  have told_iff := awaits.told_poll_iff
  refine {
    listens := ⟨(vigil.shutdown.look ⟨id, seen⟩).subscriber.seen, ?_, ?_⟩
    base_le := sameSent ▸ awaits.base_le
    sent_le := sameSent ▸ awaits.sent_le
    counted := sameSent ▸ sameCoordinators ▸ awaits.counted
    justified := sameCoordinators ▸ told_iff.mp
    awake := fun _ => ?_ }
  · rw [poll_eq known, Shutdown.seen?_put, Shutdown.id_look, if_pos rfl, known, Option.map_some]
  · rw [told_poll known]
    cases resolves : (vigil.shutdown.look ⟨id, seen⟩).receipt.resolves with
    | true =>
        exact .inl (Bool.or_true _)
    | false =>
        rw [Shutdown.subscriber_look_of_not_resolves resolves, Bool.or_false]
        exact stage
  · by_cases isTold : (vigil.poll id).told id = true
    · exact .inl isTold
    · obtain ⟨silent, held⟩ := not_or.mp (told_iff.not.mp isTold)
      exact .inr ⟨Nat.eq_zero_of_not_pos silent, sameCoordinators ▸ held⟩

/-- Who goes away has no part in the wait of another. -/
theorem leave
    {other : Nat}
    (awaits : vigil.Awaits id base count)
    (different : other ≠ id) :
    (vigil.make (.leave other)).Awaits id base count := by
  obtain ⟨seen, known, stage⟩ := awaits.listens
  exact {
    listens := ⟨seen, (Shutdown.seen?_unsubscribe different).trans known, stage⟩
    base_le := awaits.base_le
    sent_le := awaits.sent_le
    counted := awaits.counted
    justified := awaits.justified
    awake := fun asleep => awaits.awake (List.mem_filter.mp asleep).1 }

/-- Without a coordinator, a trigger makes no difference any more. -/
theorem mono
    {more : Nat}
    (awaits : vigil.Awaits id base count)
    (abandoned : vigil.shutdown.coordinators = 0)
    (atLeast : count ≤ more) :
    vigil.Awaits id base more :=
  { awaits with
    sent_le := Nat.le_trans awaits.sent_le (Nat.add_le_add_left atLeast base)
    counted := fun held => absurd abandoned held
    justified := fun _ => .inr abandoned
    awake := fun asleep => (awaits.awake asleep).imp_right fun held => absurd abandoned held.2 }

/-- A subscriber goes on listening through every move but its own leaving. -/
theorem step
    {move : Move}
    (awaits : vigil.Awaits id base count)
    (stays : move ≠ .leave id) :
    (vigil.step move).Awaits id base (count + [move].count .trigger) := by
  unfold Vigil.step
  split
  · next nobody =>
      exact awaits.mono nobody.2 (Nat.le_add_right count _)
  · next allowed =>
      cases move with
      | subscribe =>
          exact awaits.add_subscriber
      | clone =>
          exact awaits.clone fun abandoned => allowed ⟨rfl, abandoned⟩
      | trigger =>
          exact awaits.trigger fun abandoned => allowed ⟨rfl, abandoned⟩
      | release =>
          exact awaits.release fun abandoned => allowed ⟨rfl, abandoned⟩
      | poll other =>
          by_cases own : other = id
          · subst own
            exact awaits.poll
          · exact awaits.poll_of_ne own
      | leave other =>
          exact awaits.leave fun own => stays (congrArg Move.leave own)

/-- A subscriber goes on listening for as long as it does not leave. -/
theorem run
    {moves : List Move}
    (awaits : vigil.Awaits id base count)
    (stays : .leave id ∉ moves) :
    (vigil.run moves).Awaits id base (count + moves.count .trigger) := by
  induction moves generalizing vigil count with
  | nil =>
      exact awaits
  | cons move moves inductionHypothesis =>
      obtain ⟨first, later⟩ := not_or.mp (List.mem_cons.not.mp stays)
      have next := inductionHypothesis (awaits.step (Ne.symm first)) later
      rw [Nat.add_assoc, ← List.count_append] at next
      exact next

/-- What a subscriber finds at its first look tells how many signals there were. -/
theorem receive?_of_not_told
    (awaits : vigil.Awaits id base count)
    (waiting : vigil.told id = false)
    (held : vigil.shutdown.coordinators ≠ 0) :
    (vigil.shutdown.receive? id).map Prod.fst = some (.ofCount count) := by
  obtain ⟨seen, known, stage⟩ := awaits.listens
  obtain rfl : seen = base := stage.resolve_left (waiting ▸ Bool.false_ne_true)
  have counted := awaits.counted held
  rw [Shutdown.receive?_eq known, Option.map_some]
  match count with
  | 0 =>
      simp [Shutdown.look, counted, held, Receipt.ofCount]
  | 1 =>
      simp [Shutdown.look, counted, Receipt.ofCount]
  | missed + 2 =>
      simp [Shutdown.look, counted, Receipt.ofCount]

/-- Without coordinators, whatever a subscriber finds ends its wait. -/
theorem resolves_receive?_dropCoordinators
    (awaits : vigil.Awaits id base count) :
    (vigil.shutdown.dropCoordinators.receive? id).any (·.1.resolves) = true := by
  obtain ⟨seen, known, -⟩ := awaits.listens
  have stillKnown : vigil.shutdown.dropCoordinators.seen? id = some seen := known
  rw [Shutdown.receive?_eq stillKnown, Option.any_some, Shutdown.resolves_look_iff]
  exact .inr rfl

end Awaits

end Vigil

/-- The number of the subscriber that comes next after some moves. -/
def nextSubscriber (moves : List Move) : Nat :=
  (Vigil.begin.run moves).shutdown.fresh

/-- Whether there is anything to tell a subscriber that came between some moves and others. -/
def Called (before after : List Move) : Prop :=
  .trigger ∈ after ∨ Abandoned (before ++ .subscribe :: after)

/-- What there is to be told does not go away. -/
theorem Called.mono
    {before earlier after : List Move}
    (called : Called before earlier)
    (isPrefix : earlier <+: after) :
    Called before after := by
  refine called.imp (fun triggered => isPrefix.subset triggered) ?_
  rintro ⟨first, firstPrefix, balance⟩
  refine ⟨first, firstPrefix.trans ?_, balance⟩
  rw [List.prefix_append_right_inj, List.prefix_cons_inj]
  exact isPrefix

namespace Vigil

variable
    {before after : List Move}

/-- Whoever subscribes with a coordinator that is there listens from then on. -/
theorem awaits_run
    (opened : ¬ Abandoned before)
    (stays : .leave (nextSubscriber before) ∉ after) :
    (begin.run (before ++ .subscribe :: after)).Awaits (nextSubscriber before)
      (begin.run before).shutdown.sent (after.count .trigger) := by
  have held := (coordinators_run_eq_zero_iff before).not.mpr opened
  have joined := Awaits.subscribe (Numbered.begin.run before) held
  have listening := joined.run stays
  rw [Nat.zero_add] at listening
  rw [run_append]
  exact listening

/--
A subscriber is called by a trigger after it subscribed, or by the loss of the last coordinator.
-/
theorem called_iff
    (before after : List Move) :
    0 < after.count .trigger ∨
        (begin.run (before ++ .subscribe :: after)).shutdown.coordinators = 0 ↔
      Called before after :=
  or_congr List.count_pos_iff (coordinators_run_eq_zero_iff _)

/-- Who has just come has not been told. -/
theorem told_run_subscribe
    (before : List Move) :
    (begin.run (before ++ [.subscribe])).told (nextSubscriber before) = false := by
  have looksAway : Move.subscribe ≠ .poll (nextSubscriber before) := nofun
  rw [run_append]
  exact (told_step looksAway).trans (Numbered.begin.run before).told_fresh

/--
A subscriber has been told exactly if it has looked at a time at which a signal had been
sent since it came, or no coordinator was left.
-/
theorem told_run_iff
    (opened : ¬ Abandoned before)
    (stays : .leave (nextSubscriber before) ∉ after) :
    (begin.run (before ++ .subscribe :: after)).told (nextSubscriber before) = true ↔
      ∃ earlier, earlier ++ [.poll (nextSubscriber before)] <+: after ∧ Called before earlier := by
  induction after using List.reverseRecOn with
  | nil =>
      rw [told_run_subscribe]
      simp
  | append_singleton after move inductionHypothesis =>
      have staysBefore : .leave (nextSubscriber before) ∉ after :=
        fun left => stays (List.mem_append_left _ left)
      have ran : begin.run (before ++ .subscribe :: (after ++ [move])) =
          (begin.run (before ++ .subscribe :: after)).step move := by
        rw [← List.cons_append, ← List.append_assoc, run_append]
        rfl
      rw [ran]
      by_cases looks : move = .poll (nextSubscriber before)
      · subst looks
        have listening := awaits_run opened staysBefore
        refine (listening.told_poll_iff.trans (called_iff before after)).trans ⟨?_, ?_⟩
        · exact fun called => ⟨after, List.prefix_refl _, called⟩
        · rintro ⟨earlier, isPrefix, called⟩
          refine called.mono ?_
          rcases List.prefix_concat_iff.mp isPrefix with last | inside
          · exact (List.append_inj_left' last rfl) ▸ List.prefix_refl _
          · exact (List.prefix_append earlier _).trans inside
      · rw [told_step looks, inductionHypothesis staysBefore]
        refine exists_congr fun earlier => and_congr_left fun _ => ?_
        have prolonged : after <+: after ++ [move] := List.prefix_append after [move]
        refine ⟨fun isPrefix => isPrefix.trans prolonged, fun isPrefix => ?_⟩
        refine (List.prefix_concat_iff.mp isPrefix).resolve_left fun last => looks ?_
        exact (List.singleton_inj.mp (List.append_inj_right' last rfl)).symm

end Vigil

/--
What holds of a subscriber that came after some moves, when others were made since. It waits
to be told anything at all.
-/
structure Heeds (before after : List Move) (id : Nat) (vigil : Vigil) : Prop where
  /--
  It has been told exactly if it has looked at a time at which a signal had been sent since
  it came, or all coordinators had been dropped.
  -/
  told_iff :
    vigil.told id = true ↔
      ∃ earlier, earlier ++ [.poll id] <+: after ∧ Called before earlier
  /-- If there is anything to be told by now, one look is enough for it; else it sleeps. -/
  told_poll_iff : (vigil.step (.poll id)).told id = true ↔ Called before after
  sleeps : ¬ Called before after → id ∈ (vigil.step (.poll id)).asleep
  /-- If all coordinators are dropped now, its next look ends its wait. -/
  dropped : (vigil.shutdown.dropCoordinators.receive? id).any (·.1.resolves) = true
  /-- It is not left asleep when there is something that it was not told. -/
  woken : id ∈ vigil.asleep → Called before after → vigil.told id = true
  /-- Its first look tells how many signals were sent, be they more than are kept. -/
  counted :
    .poll id ∉ after → ¬ Abandoned (before ++ .subscribe :: after) →
      (vigil.shutdown.receive? id).map Prod.fst = some (.ofCount (after.count .trigger))

/-- Whoever subscribes, and does not leave, heeds every signal. -/
theorem Heeds.of_stays
    {before after : List Move}
    (opened : ¬ Abandoned before)
    (stays : .leave (nextSubscriber before) ∉ after) :
    Heeds before after (nextSubscriber before)
      (Vigil.begin.run (before ++ .subscribe :: after)) := by
  have listening := Vigil.awaits_run opened stays
  have called_iff := Vigil.called_iff before after
  have told_iff := Vigil.told_run_iff opened stays
  have told_poll_iff := listening.told_poll_iff.trans called_iff
  refine {
    told_iff := told_iff
    told_poll_iff := told_poll_iff
    sleeps := fun silent =>
      listening.mem_asleep_poll (Bool.eq_false_iff.mpr (told_poll_iff.not.mpr silent))
    dropped := listening.resolves_receive?_dropCoordinators
    woken := fun asleep called => listening.told_of_mem_asleep asleep (called_iff.mpr called)
    counted := fun unpolled stillOpen => ?_ }
  have held := (Vigil.coordinators_run_eq_zero_iff _).not.mpr stillOpen
  refine listening.receive?_of_not_told ?_ held
  rw [← Bool.not_eq_true, told_iff]
  rintro ⟨earlier, isPrefix, -⟩
  exact unpolled (isPrefix.subset (List.mem_append_right _ List.mem_cons_self))

/-- A signal can always be sent; that nobody listens only means that nobody is notified. -/
structure Shutdown.AlwaysSends (shutdown : Shutdown) : Prop where
  refused_iff : shutdown.offer? = none ↔ shutdown.subscribers = []
  notified : shutdown.trigger.notified = shutdown.subscribers.length
  unheard : shutdown.subscribers = [] → shutdown.trigger.shutdown = shutdown
  heard :
    shutdown.subscribers ≠ [] →
      shutdown.trigger.shutdown = { shutdown with sent := shutdown.sent + 1 }

/-- An offer is refused only where nobody listens, and a trigger gets by without a listener. -/
theorem Shutdown.alwaysSends
    (shutdown : Shutdown) :
    shutdown.AlwaysSends where
  refused_iff := shutdown.offer?_eq_none_iff
  notified := by rw [trigger_eq]
  unheard nobody := by simp [trigger_eq, send, nobody]
  heard somebody := by simp [trigger_eq, send, somebody]

end Notary.Lifecycle
