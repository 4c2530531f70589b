/-!
# Events and signals of a copy

What happens during a copy, one event for every request it makes of another party, and the signal
that asks it to stop.
-/

namespace SafeFetch.Transfer

/-- A request that a copy makes. -/
inductive Event where
  /-- The cancel signal is looked at. -/
  | poll
  /-- The source is asked for at most `size` bytes, or for all of them. -/
  | read (size : Option Int)
  /-- A buffer is handed a chunk. -/
  | write (name : String) (length : Nat)
  deriving DecidableEq, Repr

/-- A signal that asks a copy to stop. It may be set from outside, and it may be set for good from
its look number `threshold` on. -/
structure CancelSignal where
  threshold : Option Nat
  isRaised : Bool
  polls : Nat
  deriving DecidableEq, Repr

namespace CancelSignal

/-- A signal that nobody has looked at. -/
def fresh (threshold : Option Nat) : CancelSignal := { threshold, isRaised := false, polls := 0 }

/-- Set a signal from outside. -/
def setRaised (s : CancelSignal) : CancelSignal := { s with isRaised := true }

/-- Look at a signal. -/
def poll (s : CancelSignal) : Bool × CancelSignal :=
  let s := { s with polls := s.polls + 1 }
  (s.isRaised || s.threshold.any (· ≤ s.polls), s)

end CancelSignal

end SafeFetch.Transfer
