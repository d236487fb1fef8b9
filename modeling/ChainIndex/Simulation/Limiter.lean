import ChainIndex.RateLimit.Limiter

/-!
# Callers in front of a limiter

A clock that moves only when asked to, and callers that take tokens from one limiter: the one that
moves the clock, and waiters that it starts. Waiters are numbered in order of arrival.
-/

namespace ChainIndex.Simulation

open RateLimit

/-- A limiter with its callers. -/
structure Queueing where
  now : Nat
  limiter : Limiter
  waiters : Nat
  /-- The waiters that got a token, and when. -/
  served : List (Nat × Nat)

namespace Queueing

def make? (capacity : Nat) (window : Duration) : Option Queueing :=
  (Limiter.make? capacity window).map (⟨0, ·, 0, []⟩)

/-- In the queue, the caller that moves the clock is zero and waiter `i` is `i + 1`. -/
def waiterOf : Nat × Nat → Option (Nat × Nat)
  | (0, _) => none
  | (i + 1, ms) => some (i, ms)

/-- Moves the clock and lets all ticks pass that are due by then. -/
def moveTo (q : Queueing) (ms : Nat) : Queueing :=
  let (served, limiter) := q.limiter.settle ms
  { q with now := ms, limiter, served := q.served ++ served.filterMap waiterOf }

/-- Asks for `n` tokens without waiting and counts those it gets on top of `count`. -/
def allow (q : Queueing) (count : Nat := 0) : (n : Nat) → Nat × Queueing
  | 0 => (count, q)
  | n + 1 =>
    match q.limiter.bucket.allow with
    | (false, _) => (count, q)
    | (true, bucket) => allow { q with limiter := { q.limiter with bucket } } (count + 1) n

/-- Starts `n` waiters. -/
def start (q : Queueing) : (n : Nat) → Queueing
  | 0 => q
  | n + 1 =>
    let (taken, bucket) := q.limiter.bucket.wait (q.waiters + 1)
    start
      { q with
        limiter := { q.limiter with bucket }
        waiters := q.waiters + 1
        served := if taken then q.served ++ [(q.waiters, q.now)] else q.served }
      n

/-- Lets ticks pass until the caller that moves the clock is served or `limit` is reached. -/
def awaitToken (limit : Nat) : (fuel : Nat) → Queueing → Bool × Queueing
  | 0, q => (false, q)
  | fuel + 1, q =>
    let due := q.limiter.nextDue
    if q.limiter.bucket.closed ∨ limit ≤ due then
      let q := { q with limiter := { q.limiter with bucket := q.limiter.bucket.leave 0 } }
      (false, q.moveTo limit)
    else
      let (served, limiter) := q.limiter.tick
      let q := { q with limiter, now := due, served := q.served ++ (served.map (·, due)).filterMap waiterOf }
      if served.contains 0 then (true, q.moveTo due) else awaitToken limit fuel q

/-- Waits for one token, less than `limit` milliseconds. -/
def waitOne (q : Queueing) (limit : Nat) : Bool × Queueing :=
  match q.limiter.bucket.wait 0 with
  | (true, bucket) => (true, { q with limiter := { q.limiter with bucket } })
  | (false, bucket) =>
    awaitToken (q.now + limit) bucket.queue.length { q with limiter := { q.limiter with bucket } }

/-- Waits for `n` tokens one after another, up to the first that takes too long, and counts those it
gets on top of `count`. -/
def wait (q : Queueing) (limit : Nat) (count : Nat := 0) : (n : Nat) → Nat × Queueing
  | 0 => (count, q)
  | n + 1 =>
    match waitOne q limit with
    | (false, q) => (count, q)
    | (true, q) => wait q limit (count + 1) n

def close (q : Queueing) : Queueing :=
  { q with limiter := { q.limiter with bucket := q.limiter.bucket.close } }

/-- Forgets who was served so far. -/
def forget (q : Queueing) : Queueing := { q with served := [] }

end Queueing

end ChainIndex.Simulation
