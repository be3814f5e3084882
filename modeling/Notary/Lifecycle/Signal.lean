import Notary.Journal.Note

namespace Notary.Lifecycle

/-!
# Signals to the process

The process is asked to stop by one of two signals of the operating system.
-/

/-- A signal that asks the process to stop. -/
inductive Signal where
  | interrupt
  | terminate
deriving Repr, DecidableEq

namespace Signal

/-- The number of a signal. -/
def number : Signal → Nat
  | interrupt => 2
  | terminate => 15

/-- The signal of a number, if it is one that asks the process to stop. -/
def ofNumber? (n : Nat) : Option Signal :=
  [interrupt, terminate].find? (·.number = n)

/-- What is logged about a signal. -/
def event : Signal → Journal.Event
  | interrupt => .interruptReceived
  | terminate => .terminateReceived

end Signal

end Notary.Lifecycle
