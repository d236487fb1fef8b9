import ChainIndex.Time.Duration

/-!
# Bounded retry

An action is tried until it succeeds, fails for a reason that trying again cannot mend, or has
failed as often as allowed. After failed attempt `n`, if there is a next one, it sleeps `n` times the
backoff unit, and after every so many attempts an extra pause on top.

The action and the sleep run in any monad, so the same loop paces requests to a node, inserts into
storage, and a script of outcomes.
-/

namespace ChainIndex.Retry

structure Params where
  /-- How often the action is tried in all; zero counts as one. -/
  amount : UInt32
  /-- The pause follows every attempt whose number is a multiple of this; zero means none. -/
  pauseEvery : UInt32
  pause : Duration
  backoff : Duration
  deriving DecidableEq, Repr

namespace Params

/-- One attempt and no sleep. -/
def once : Params := ⟨1, 0, .zero, .zero⟩

/-- Three attempts, a fifth of a second apart and then two fifths. -/
def usual : Params := ⟨3, 0, .zero, .ofMillis 200⟩

/-- How often the action is tried at most. -/
def attempts (p : Params) : UInt32 :=
  if p.amount = 0 then 1 else p.amount

/-- The sleep after a failed attempt. -/
def delayAfter (p : Params) (attempt : UInt32) : Duration :=
  let delay := p.backoff.mul attempt
  if 0 < p.pauseEvery ∧ attempt % p.pauseEvery = 0 then delay.add p.pause else delay

end Params

/-- What came of all attempts. -/
inductive Outcome (ε α : Type) where
  | success (value : α)
  | failure (error : ε) (attempts : UInt32)
  deriving DecidableEq, Repr

namespace Outcome

variable {ε α : Type}

def isSuccess : Outcome ε α → Bool
  | .success _ => true
  | .failure .. => false

def toExcept : Outcome ε α → Except ε α
  | .success value => .ok value
  | .failure error _ => .error error

end Outcome

variable {m : Type → Type} [Monad m] {ε α : Type}

/-- Tries the action with attempt `n`, and `more` times again at most. -/
def attemptFrom (sleep : Duration → m Unit) (p : Params) (retryable : ε → Bool) (act : UInt32 → m (Except ε α)) :
    (more : Nat) → (n : UInt32) → m (Outcome ε α)
  | 0, n => do
    match ← act n with
    | .ok value => pure (.success value)
    | .error e => pure (.failure e n)
  | more + 1, n => do
    match ← act n with
    | .ok value => pure (.success value)
    | .error e =>
      if retryable e then
        sleep (p.delayAfter n)
        attemptFrom sleep p retryable act more (n + 1)
      else
        pure (.failure e n)

/-- Tries the action as often as the parameters allow, but not again after an error that is not
retryable. -/
def runIf (sleep : Duration → m Unit) (p : Params) (retryable : ε → Bool) (act : UInt32 → m (Except ε α)) :
    m (Outcome ε α) :=
  attemptFrom sleep p retryable act (p.attempts.toNat - 1) 1

/-- Tries the action as often as the parameters allow. -/
def run (sleep : Duration → m Unit) (p : Params) (act : UInt32 → m (Except ε α)) : m (Outcome ε α) :=
  runIf sleep p (fun _ => true) act

/-- Reports what came of all attempts through exactly one of two actions. -/
def runThen (sleep : Duration → m Unit) (p : Params) (act : UInt32 → m (Except ε α))
    (onSuccess : α → m Unit) (onFailure : ε → UInt32 → m Unit) : m Unit := do
  match ← run sleep p act with
  | .success value => onSuccess value
  | .failure e n => onFailure e n

end ChainIndex.Retry
