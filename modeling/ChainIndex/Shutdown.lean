/-!
# Shutdown

A run stops at the first of three causes: a signal to terminate, a signal to interrupt, or a request
from within. Whatever the cause, the run is told once and finishes the chunk that it is at.
-/

namespace ChainIndex

inductive ShutdownCause where
  | terminate | interrupt | internal
  deriving DecidableEq, Repr

def ShutdownCause.name : ShutdownCause → String
  | .terminate => "SIGTERM"
  | .interrupt => "SIGINT"
  | .internal => "INTERNAL"

/-- What a run is told of shutdown: the first cause, if there is one yet. -/
structure StopToken where
  cause? : Option ShutdownCause
  deriving DecidableEq, Repr

namespace StopToken

/-- The token of a run that goes on. -/
def running : StopToken := ⟨none⟩

/-- Tells the run to stop. A second cause changes nothing. -/
def stop (t : StopToken) (cause : ShutdownCause) : StopToken :=
  match t.cause? with
  | some _ => t
  | none => ⟨some cause⟩

def stopped (t : StopToken) : Bool := t.cause?.isSome

end StopToken

end ChainIndex
