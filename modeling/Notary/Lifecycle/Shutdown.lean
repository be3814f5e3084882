import Notary.Journal.Note

namespace Notary.Lifecycle

/-!
# Shutdown

Any coordinator may send the signal to stop, and every subscriber is to notice
it. One signal is kept: a subscriber that is several signals behind is told how
many it missed before it gets the one that is kept. When the last coordinator is
gone and nothing is left to take, the subscriber is told that too.
-/

open Journal (Note)

/-- A subscriber: the number that names it, and how many signals it has taken or missed. -/
structure Subscriber where
  id : Nat
  seen : Nat
deriving Repr, DecidableEq

/-- The coordinators and subscribers of a shutdown. -/
structure Shutdown where
  coordinators : Nat
  /-- The number of signals that were sent while somebody was listening. -/
  sent : Nat
  subscribers : List Subscriber
  /-- The number for the next subscriber. -/
  fresh : Nat
deriving Repr, DecidableEq

/-- What a subscriber finds when it looks for the signal. -/
inductive Receipt where
  | signal
  /-- Nothing was sent since the last look. -/
  | empty
  /-- So many signals were missed; another one can be taken. -/
  | lagged (missed : Nat)
  /-- Nothing is left, and nothing can come any more. -/
  | closed
deriving Repr, DecidableEq

/-- Whether somebody who waits for the signal goes on. -/
def Receipt.resolves : Receipt → Bool
  | signal | lagged _ | closed => true
  | empty => false

/-- What looking for the signal brings about. -/
structure Look where
  receipt : Receipt
  subscriber : Subscriber
deriving Repr, DecidableEq

namespace Shutdown

/-- One coordinator that nobody listens to. -/
def new : Shutdown := ⟨1, 0, [], 0⟩

/-- Add a coordinator. -/
def clone (s : Shutdown) : Shutdown :=
  { s with coordinators := s.coordinators + 1 }

/-- Add a subscriber, who gets the signals that are sent from now on. -/
def subscribe (s : Shutdown) : Shutdown × Nat :=
  ({ s with subscribers := s.subscribers ++ [⟨s.fresh, s.sent⟩], fresh := s.fresh + 1 }, s.fresh)

/-- Remove a subscriber. -/
def unsubscribe (s : Shutdown) (id : Nat) : Shutdown :=
  { s with subscribers := s.subscribers.filter (·.id ≠ id) }

/-- Remove a coordinator. -/
def dropCoordinator (s : Shutdown) : Shutdown :=
  { s with coordinators := s.coordinators - 1 }

/-- Remove all coordinators. -/
def dropCoordinators (s : Shutdown) : Shutdown :=
  { s with coordinators := 0 }

/-- Send the signal; without a subscriber it is lost. -/
def send (s : Shutdown) : Shutdown :=
  if s.subscribers.isEmpty then s else { s with sent := s.sent + 1 }

/-- What is noted about sending the signal. -/
def sendNotes (s : Shutdown) : List Note :=
  [.event (.shutdownTriggered s.subscribers.length)]

/-- What comes of a signal: how many subscribers it went to, and the shutdown afterwards. -/
structure Sending where
  notified : Nat
  shutdown : Shutdown
deriving Repr, DecidableEq

/-- Offer a signal to the subscribers; it is refused if there are none. -/
def offer? (s : Shutdown) : Option Sending :=
  if s.subscribers.isEmpty then none
  else some ⟨s.subscribers.length, { s with sent := s.sent + 1 }⟩

/-- Send the signal, whoever listens: if it is refused, nobody was notified. -/
def trigger (s : Shutdown) : Sending :=
  s.offer?.getD ⟨0, s⟩

theorem offer?_eq_none_iff (s : Shutdown) : s.offer? = none ↔ s.subscribers = [] := by
  simp [offer?]

theorem trigger_eq (s : Shutdown) : s.trigger = ⟨s.subscribers.length, s.send⟩ := by
  cases h : s.subscribers <;> simp [trigger, offer?, send, h]

theorem sendNotes_eq (s : Shutdown) :
    s.sendNotes = [.event (.shutdownTriggered s.trigger.notified)] := by
  rw [trigger_eq, sendNotes]

/-- Look for the signal on behalf of a subscriber. -/
def look (s : Shutdown) (subscriber : Subscriber) : Look :=
  if subscriber.seen = s.sent then
    ⟨if s.coordinators = 0 then .closed else .empty, subscriber⟩
  else if subscriber.seen + 1 = s.sent then ⟨.signal, { subscriber with seen := s.sent }⟩
  else ⟨.lagged (s.sent - 1 - subscriber.seen), { subscriber with seen := s.sent - 1 }⟩

/-- Look for the signal on behalf of the subscriber of a number. -/
def receive? (s : Shutdown) (id : Nat) : Option (Receipt × Shutdown) :=
  (s.subscribers.find? (·.id = id)).map fun subscriber =>
    let found := s.look subscriber
    (found.receipt,
      { s with
        subscribers := s.subscribers.map fun other =>
          if other.id = id then found.subscriber else other })

end Shutdown

end Notary.Lifecycle
