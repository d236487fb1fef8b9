import ChainIndex.Time.Duration

/-!
# The pace of a token bucket

A bucket holds `capacity` tokens and is meant to get as many back per window. It gets them in ticks:
the window is cut into as many parts as there are tokens, but no tick comes sooner than a millisecond
after the last, and a tick gives back so many tokens that the rate is kept up.
-/

namespace ChainIndex.RateLimit

/-- The shortest time between two ticks. -/
def leastPeriod : Duration := .ofMillis 1

/-- A window is cut into this many parts at most. -/
def mostParts : Nat := 4294967295

/-- The number of tokens that a window of this length owes for a period, rounded up, but one at least
and no more than the bucket holds. -/
def tokensPerTick (capacity : Nat) (window period : Duration) : Nat :=
  if window.toNanos = 0 then
    capacity
  else
    let owed := (capacity * period.toNanos + (window.toNanos - 1)) / window.toNanos
    max 1 (min owed capacity)

structure Pace where
  capacity : Nat
  period : Duration
  amount : Nat
  deriving DecidableEq, Repr

def Pace.of (capacity : Nat) (window : Duration) : Pace :=
  let capacity := max capacity 1
  let period := (window.div (min capacity mostParts).toUInt32).max leastPeriod
  { capacity, period, amount := tokensPerTick capacity window period }

/-- The millisecond at which tick `k` is due: `k` periods after the start, rounded up. -/
def Pace.dueAt (p : Pace) (k : Nat) : Nat :=
  (k * p.period.toNanos + (nanosPerMilli - 1)) / nanosPerMilli

/-- How many ticks are due by a millisecond. -/
def Pace.ticksBy (p : Pace) (ms : Nat) : Nat :=
  ms * nanosPerMilli / p.period.toNanos

end ChainIndex.RateLimit
