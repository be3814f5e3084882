import Notary.Proofs.Config.Deeds

namespace Notary.Config

/-!
# A watch is a sequence of whole turns

Seen from outside, a watcher takes its turns one after another, each with what the file
holds and with the first notice of the channel; it may be asked to stop between any two of
them. Whatever comes between the small steps of a watch, it has come to what such turns
make of it: a request to stop that comes in the midst of a turn takes effect after it, and
a reload shows what the file held when it was read.
-/

open Journal (Note)

namespace Watcher

/-- Something that happens to a watcher whose turns nothing comes between. -/
inductive Event where
  | stop
  /-- A turn, with what the file holds and the first notice of the channel, if there is one. -/
  | turn (file : File) (found : Option Notice)

/-- The notice that is taken from the channel. -/
def Event.notice? : Event → Option Notice
  | stop => none
  | turn _ found => found

/-- A turn takes its notice, and a request to stop takes none. -/
theorem Event.notices_turn
    (file : File)
    (found : Option Notice)
    (asked : Bool) :
    (turn file found :: if asked then [stop] else []).filterMap notice? = found.toList := by
  cases asked with
  | true =>
      cases found <;> rfl
  | false =>
      cases found <;> rfl

/-- What a watcher has come to after one more event. -/
def Moved.after (moved : Moved) : Event → Moved
  | .stop => { moved with watcher := moved.watcher.requestStop }
  | .turn file found =>
      let next := moved.watcher.step file (found.getD .idle)
      ⟨next.watcher, moved.notes ++ next.notes⟩

/-- What a watcher has come to after events in order. -/
def Moved.follow (moved : Moved) (events : List Event) : Moved :=
  events.foldl after moved

theorem Moved.follow_append
    (moved : Moved)
    (first second : List Event) :
    moved.follow (first ++ second) = (moved.follow first).follow second :=
  List.foldl_append

/-- To deal with a notice has nothing to do with the stop flag. -/
theorem receive_stopRequested
    (watcher : Watcher)
    (flag : Bool)
    (file : File)
    (notice : Notice) :
    receive { watcher with stopRequested := flag } file notice =
      { watcher.receive file notice with
        watcher := { (watcher.receive file notice).watcher with stopRequested := flag } } := by
  cases notice with
  | change change =>
      simp only [receive]
      split
      · rfl
      · rfl
  | _ =>
      rfl

/--
A whole turn of a watcher that was not asked to stop, and then a request if there was one
meanwhile, come to what dealing with the notice alone comes to.
-/
theorem Moved.follow_turn
    {watcher : Watcher}
    (running : watcher.running = true)
    (unasked : watcher.stopRequested = false)
    (notes : List Note)
    (file : File)
    (found : Option Notice)
    (asked : Bool) :
    let received := receive { watcher with stopRequested := asked } file (found.getD .idle)
    (⟨watcher, notes⟩ : Moved).follow (.turn file found :: if asked then [.stop] else []) =
      ⟨received.watcher, notes ++ received.notes⟩ := by
  intro received
  have turn : watcher.step file (found.getD .idle) = watcher.receive file (found.getD .idle) := by
    simp [step, running, unasked]
  cases asked with
  | true =>
      have same := receive_stopRequested watcher true file (found.getD .idle)
      simp only [received, same, follow, List.foldl, after, turn, requestStop, if_true]
  | false =>
      have same : { watcher with stopRequested := false } = watcher := by
        rw [← unasked]
      simp only [received, same, follow, List.foldl, after, turn, Bool.false_eq_true, if_false]

end Watcher

namespace Watching

open Watcher (Event Moved)

/-- A notice about the file makes the watcher reload. -/
theorem receive_of_isTracked
    {watcher : Watcher}
    {notice : Notice}
    (tracked : isTracked watcher.fileName notice = true)
    (file : File) :
    watcher.receive file notice = watcher.reload file := by
  cases notice with
  | change change =>
      have concerned : change.concerns watcher.fileName = true := tracked
      simp [Watcher.receive, concerned]
  | _ =>
      cases tracked

/--
How a watch stands when its turns that are over have come to something, and the one under way
has taken a notice, if there was one. Who asks to stop sets the flag at once, though the turn
under way goes on as it began.
-/
inductive Follows : Moved → Option Notice → Watcher → Phase → List Note → Prop where
  | polling {watcher notes} :
      watcher.running = true →
      Follows ⟨watcher, notes⟩ none watcher .polling notes
  | ended {watcher notes} :
      watcher.running = false →
      Follows ⟨watcher, notes⟩ none watcher .ended notes
  | waiting {watcher asked notes} :
      watcher.running = true →
      watcher.stopRequested = false →
      Follows ⟨watcher, notes⟩ none { watcher with stopRequested := asked } .waiting notes
  | taken {watcher asked found notes} :
      watcher.running = true →
      watcher.stopRequested = false →
      Follows ⟨watcher, notes⟩ found { watcher with stopRequested := asked }
        (.taken (found.getD .idle)) notes
  | reading {watcher asked found notes} :
      watcher.running = true →
      watcher.stopRequested = false →
      isTracked watcher.fileName (found.getD .idle) = true →
      Follows ⟨watcher, notes⟩ found { watcher with stopRequested := asked } .reading
        (notes ++ [.event (.changeSeen watcher.store.path)])
  | parsing {watcher asked found notes} (file : File) :
      watcher.running = true →
      watcher.stopRequested = false →
      isTracked watcher.fileName (found.getD .idle) = true →
      Follows ⟨watcher, notes⟩ found { watcher with stopRequested := asked } (.parsing file)
        (notes ++ [.event (.changeSeen watcher.store.path)])
  | settling {watcher asked found notes} (file : File) :
      watcher.running = true →
      watcher.stopRequested = false →
      isTracked watcher.fileName (found.getD .idle) = true →
      Follows ⟨watcher, notes⟩ found { watcher with stopRequested := asked }
        (.settling (Snapshot.load file)) (notes ++ [.event (.changeSeen watcher.store.path)])

/-- What comes of one more move: some events, and the notices that they take. -/
def FollowsOn (moved : Moved) (found : Option Notice) (deed : Option Deed) (next : State) : Prop :=
  ∃ events later,
    Follows (moved.follow events) later next.watcher next.phase next.notes ∧
      found.toList ++ deed.toList.filterMap Deed.notice? =
        events.filterMap Event.notice? ++ later.toList

namespace Follows

variable
    {state : State}
    {moved : Moved}
    {found : Option Notice}

/-- In the midst of a turn, no event is over. -/
theorem goesOn
    {deed : Option Deed}
    {next : State}
    (later : Option Notice)
    (follows : Follows moved later next.watcher next.phase next.notes)
    (taken : found.toList ++ deed.toList.filterMap Deed.notice? = later.toList) :
    FollowsOn moved found deed next :=
  ⟨[], later, follows, taken⟩

/-- Between two turns, the watch is what the turns that are over have come to. -/
theorem between
    {watcher : Watcher}
    {phase : Phase}
    (stage : phase = if watcher.running then .polling else .ended)
    (notes : List Note) :
    Follows ⟨watcher, notes⟩ none watcher phase notes := by
  cases running : watcher.running with
  | true =>
      rw [stage, running]
      exact .polling running
  | false =>
      rw [stage, running]
      exact .ended running

/-- At its end, a turn was a whole one; who asked to stop meanwhile did so after it. -/
theorem ends
    {watcher : Watcher}
    {notes : List Note}
    {asked : Bool}
    {file : File}
    {received : Moved}
    {deed : Option Deed}
    {next : State}
    (running : watcher.running = true)
    (unasked : watcher.stopRequested = false)
    (dealt :
      Watcher.receive { watcher with stopRequested := asked } file (found.getD .idle) = received)
    (sameWatcher : next.watcher = received.watcher)
    (stage : next.phase = if next.watcher.running then .polling else .ended)
    (sameNotes : next.notes = notes ++ received.notes)
    (nothing : deed.toList.filterMap Deed.notice? = []) :
    FollowsOn ⟨watcher, notes⟩ found deed next := by
  refine ⟨.turn file found :: if asked then [.stop] else [], none, ?_, ?_⟩
  · rw [Moved.follow_turn running unasked, dealt, ← sameWatcher, ← sameNotes]
    exact between stage next.notes
  · rw [nothing, Event.notices_turn]
    rfl

/-- Looking at the stop flag begins a turn, or is the whole of the one that ends the watch. -/
theorem poll
    (state : State)
    (running : state.watcher.running = true) :
    FollowsOn ⟨state.watcher, state.notes⟩ none none state.poll := by
  cases asked : state.watcher.stopRequested with
  | true =>
      have turn : state.watcher.step state.file .idle = state.watcher.finish := by
        simp [Watcher.step, running, asked]
      refine ⟨[.turn state.file none], none, ?_, rfl⟩
      rw [Moved.follow, List.foldl_cons, Moved.after, Option.getD_none, turn]
      simp only [State.poll, asked, if_true]
      exact .ended rfl
  | false =>
      simp only [State.poll, asked, Bool.false_eq_true, if_false]
      have waiting :
          Follows ⟨state.watcher, state.notes⟩ none
            { state.watcher with stopRequested := state.watcher.stopRequested } .waiting
            state.notes :=
        .waiting running asked
      exact goesOn none waiting rfl

/-- Every step of the watcher goes on with a turn, or ends one. -/
theorem advance
    (follows : Follows moved found state.watcher state.phase state.notes) :
    FollowsOn moved found (state.deed? .advance) state.advance := by
  rcases state with ⟨watcher, phase, file, owed, channel, reads, notes⟩
  dsimp only at follows
  cases follows with
  | polling running =>
      exact poll ⟨watcher, .polling, file, owed, channel, reads, notes⟩ running
  | @waiting watcher asked _ running unasked =>
      -- On an empty channel the wait runs out, and the turn goes on without a notice.
      cases channel with
      | nil =>
          exact goesOn none (@Follows.taken watcher asked none notes running unasked) rfl
      | cons notice rest =>
          exact goesOn (some notice)
            (@Follows.taken watcher asked (some notice) notes running unasked) rfl
  | @taken watcher asked _ _ running unasked =>
      cases tracked : isTracked watcher.fileName (found.getD .idle) with
      | true =>
          simp only [State.advance, State.examine, tracked, if_true]
          exact goesOn found (.reading running unasked tracked) (List.append_nil _)
      | false =>
          simp only [State.advance, State.examine, tracked, Bool.false_eq_true, if_false]
          exact ends running unasked rfl rfl rfl rfl rfl
  | reading running unasked tracked =>
      exact goesOn found (.parsing file running unasked tracked) (List.append_nil _)
  | parsing file running unasked tracked =>
      exact goesOn found (.settling file running unasked tracked) (List.append_nil _)
  | @settling watcher asked _ _ file running unasked tracked =>
      have dealt :
          Watcher.receive { watcher with stopRequested := asked } file (found.getD .idle) =
            Watcher.reload { watcher with stopRequested := asked } file :=
        @receive_of_isTracked { watcher with stopRequested := asked } _ tracked file
      refine ends running unasked dealt rfl ?_ ?_ rfl
      · simp [State.advance, State.settle, running]
      · simp [State.advance, State.settle, Watcher.reload, Store.reload_eq_settle]
  | ended stopped =>
      exact goesOn none (.ended stopped) rfl

/-- A request to stop is an event between two turns, and has to wait in the midst of one. -/
theorem requestStop
    (follows : Follows moved found state.watcher state.phase state.notes) :
    FollowsOn moved found none (state.step .requestStop) := by
  rcases state with ⟨watcher, phase, file, owed, channel, reads, notes⟩
  dsimp only at follows
  cases follows with
  | polling running =>
      exact ⟨[.stop], none, .polling running, rfl⟩
  | ended stopped =>
      exact ⟨[.stop], none, .ended stopped, rfl⟩
  | waiting running unasked =>
      exact goesOn none (.waiting running unasked) rfl
  | taken running unasked =>
      exact goesOn found (.taken running unasked) (List.append_nil _)
  | reading running unasked tracked =>
      exact goesOn found (.reading running unasked tracked) (List.append_nil _)
  | parsing file running unasked tracked =>
      exact goesOn found (.parsing file running unasked tracked) (List.append_nil _)
  | settling file running unasked tracked =>
      exact goesOn found (.settling file running unasked tracked) (List.append_nil _)

/-- What happens to the file and to the channel does not touch the watcher. -/
theorem step
    (follows : Follows moved found state.watcher state.phase state.notes)
    (move : Move) :
    FollowsOn moved found (state.deed? move) (state.step move) := by
  cases move with
  | advance =>
      exact follows.advance
  | requestStop =>
      exact follows.requestStop
  | notify change =>
      refine goesOn found ?_ (List.append_nil _)
      simp only [State.step, State.notify]
      split
      · exact follows
      · exact follows
  | replace | intrude =>
      exact goesOn found follows (List.append_nil _)

end Follows

/--
In any interleaving, a watch follows some events from its very beginning: whole turns, each
with the notice that it took and what it found in the file, and requests to stop.
-/
theorem State.exists_follows
    (store : Store)
    (refused : Option String)
    (file : File)
    (moves : List Move) :
    let first := State.begin store refused file
    let state := first.run moves
    ∃ events found,
      Follows ((Watcher.start store refused).follow events) found state.watcher state.phase
          state.notes ∧
        (first.deeds moves).filterMap Deed.notice? =
          events.filterMap Event.notice? ++ found.toList := by
  intro first
  -- From the back: what the turns so far have come to is where the next move starts.
  induction moves using List.reverseRecOn with
  | nil =>
      exact ⟨[], none, .between rfl _, rfl⟩
  | append_singleton moves move inductionHypothesis =>
      obtain ⟨events, found, follows, taken⟩ := inductionHypothesis
      obtain ⟨more, later, goesOn, takenOn⟩ := follows.step move
      rw [deeds_concat, run_append]
      refine ⟨events ++ more, later, ?_, ?_⟩
      · rw [Moved.follow_append]
        exact goesOn
      · rw [List.filterMap_append, taken, List.append_assoc, takenOn, List.filterMap_append,
          List.append_assoc]

end Watching

end Notary.Config
