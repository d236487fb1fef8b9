import ChainIndex.Number.Bound
import ChainIndex.Retry

/-!
# Retry against a script

An action whose attempts succeed or fail as a script says, on a clock that only its sleeps move.
-/

namespace ChainIndex.Simulation

/-- A sleep that ends beyond what a clock can show ends after thirty years of this many seconds. -/
def farFuture : Nat := 86400 * 365 * 30

/-- The milliseconds for which a sleep lasts. -/
def sleepMillis (d : Duration) : Nat :=
  if signedBound ≤ d.secs.toNat then farFuture * 1000 else d.ceilMillis

/-- What a script was told at its end. -/
inductive Report where
  | onSuccess (value : UInt32)
  | onFailure (error : String) (attempts : UInt32)
  deriving DecidableEq, Repr

/-- The clock, the outcomes that are left, the attempts made so far with their times, and the reports. -/
structure Script where
  now : Nat
  outcomes : List (Option String)
  calls : List (UInt32 × Nat)
  reports : List Report

namespace Script

abbrev Run := StateM Script

def sleep (d : Duration) : Run Unit :=
  modify fun s => { s with now := s.now + sleepMillis d }

/-- Makes one attempt: it fails with the next text of the script, and succeeds with its own number
where the script has none. -/
def attempt (n : UInt32) : Run (Except String UInt32) := do
  let s ← get
  set { s with outcomes := s.outcomes.tail, calls := s.calls ++ [(n, s.now)] }
  match s.outcomes with
  | some text :: _ => pure (.error text)
  | _ => pure (.ok n)

/-- Tries the scripted action; the texts in `fatal` end it at once. -/
def runIf (p : Retry.Params) (fatal : List String) (outcomes : List (Option String)) :
    Retry.Outcome String UInt32 × Script :=
  (Retry.runIf sleep p (fun e => !fatal.contains e) attempt).run ⟨0, outcomes, [], []⟩

def report (r : Report) : Run Unit :=
  modify fun s => { s with reports := s.reports ++ [r] }

/-- Tries the scripted action and reports what came of it. -/
def runThen (p : Retry.Params) (outcomes : List (Option String)) : Script :=
  ((Retry.runThen sleep p attempt (report <| .onSuccess ·) (report <| .onFailure · ·)).run ⟨0, outcomes, [], []⟩).2

end Script

end ChainIndex.Simulation
