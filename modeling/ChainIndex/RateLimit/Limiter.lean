import ChainIndex.RateLimit.Bucket

/-!
# A bucket on a clock

A limiter is a bucket, its pace, and the number of ticks that have passed. `settle` lets every tick
pass that is due by a millisecond and says which queued caller got its token when. Once nobody is
queued the remaining ticks only fill the bucket, so they are taken in one step. A limiter that was
closed is settled after it has found out.
-/

namespace ChainIndex.RateLimit

structure Limiter where
  pace : Pace
  bucket : Bucket
  ticks : Nat
  deriving DecidableEq, Repr

namespace Limiter

def new (capacity : Nat) (window : Duration) : Limiter :=
  let pace := Pace.of capacity window
  ⟨pace, .full pace.capacity, 0⟩

/-- A new limiter, if a bucket can hold its tokens. -/
def make? (capacity : Nat) (window : Duration) : Option Limiter :=
  if max capacity 1 ≤ Bucket.mostTokens then some (new capacity window) else none

/-- The millisecond at which the next tick is due. -/
def nextDue (l : Limiter) : Nat := l.pace.dueAt (l.ticks + 1)

/-- Lets one tick pass and gives the callers it served. -/
def tick (l : Limiter) : List Nat × Limiter :=
  let (served, bucket) := l.bucket.tick l.pace.amount
  (served, { l with bucket, ticks := l.ticks + 1 })

/-- Lets ticks pass one by one, `fuel` at most, while someone is queued and the next is due. -/
def serve (ms : Nat) : (fuel : Nat) → Limiter → List (Nat × Nat) × Limiter
  | 0, l => ([], l)
  | fuel + 1, l =>
    if l.bucket.queue ≠ [] ∧ l.nextDue ≤ ms then
      let due := l.nextDue
      let (served, l) := l.tick
      let (later, l) := serve ms fuel l
      (served.map (·, due) ++ later, l)
    else
      ([], l)

/-- Lets every tick pass that is due by a millisecond. Gives the callers served and when. -/
def settle (l : Limiter) (ms : Nat) : List (Nat × Nat) × Limiter :=
  let due := l.pace.ticksBy ms
  if l.bucket.closed then
    ([], { l with ticks := max l.ticks due })
  else
    let (served, l) := serve ms l.bucket.queue.length l
    (served, { l with bucket := l.bucket.idleTicks l.pace.amount (due - l.ticks), ticks := max l.ticks due })

end Limiter

end ChainIndex.RateLimit
