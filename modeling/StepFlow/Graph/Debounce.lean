import StepFlow.Connection

/-!
Debouncing of connection requests: a request that repeats the one before it within a short window
is taken for a double click.
-/
namespace StepFlow

def defaultWindow : Nat := 500

/-- The window and the clock readings are in milliseconds. `last` is the request that was let
through most recently, whatever became of it. -/
structure Debounce where
  window : Nat := defaultWindow
  last : Option (Connection × Int) := none
  deriving DecidableEq, Repr

namespace Debounce

/-- A clock that went back counts as no time passed. -/
def repeats (debounce : Debounce) (request : Connection) (now : Int) : Bool :=
  match debounce.last with
  | none => false
  | some (previous, reading) => previous = request && (now - reading).toNat < debounce.window

/-- The state after a request that is let through, `none` for a repeat. A repeat does not extend
the window, so a burst is measured from its first request. -/
def admit? (debounce : Debounce) (request : Connection) (now : Int) : Option Debounce :=
  if debounce.repeats request now then none else some { debounce with last := some (request, now) }

end Debounce

end StepFlow
