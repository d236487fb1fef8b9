import ChainIndex.RateLimit.Pace

/-!
# Token buckets

A caller takes a token if there is one, and otherwise leaves or joins the end of a queue. A tick looks
how many tokens the bucket has room for and then puts back that many at most; they go to the queue
first, one to each caller in order of arrival, and only what is left over goes into the bucket. So no
one is queued while there is a token, and no caller overtakes the queue.

The look and the putting back are separate steps. Callers may act between the two; since they only
take tokens, the room can only have grown.
-/

namespace ChainIndex.RateLimit

/-- A bucket with the callers that wait for a token, in order of arrival. -/
structure Bucket where
  capacity : Nat
  available : Nat
  queue : List Nat
  closed : Bool
  deriving DecidableEq, Repr

namespace Bucket

/-- How many tokens a bucket can hold: one less than two to the sixty-first. -/
def mostTokens : Nat := 2305843009213693951

def full (capacity : Nat) : Bucket := ⟨capacity, capacity, [], false⟩

/-- Takes a token if there is one. -/
def allow (b : Bucket) : Bool × Bucket :=
  if 0 < b.available then (true, { b with available := b.available - 1 }) else (false, b)

/-- Takes a token or joins the queue. The flag says which. -/
def wait (b : Bucket) (caller : Nat) : Bool × Bucket :=
  if 0 < b.available then
    (true, { b with available := b.available - 1 })
  else
    (false, { b with queue := b.queue ++ [caller] })

/-- Gives up waiting. -/
def leave (b : Bucket) (caller : Nat) : Bucket :=
  { b with queue := b.queue.filter (· ≠ caller) }

/-- How many tokens a tick sees room for. -/
def room (b : Bucket) : Nat := b.capacity - b.available

/-- Puts tokens back: to the queue first, then into the bucket. Gives the callers that got one. -/
def putBack (b : Bucket) (n : Nat) : List Nat × Bucket :=
  (b.queue.take n,
    { b with queue := b.queue.drop n, available := b.available + (n - b.queue.length) })

/-- A tick with nobody acting between its look and its putting back. A bucket that was closed, and whose ticks have
ended, has none. -/
def tick (b : Bucket) (amount : Nat) : List Nat × Bucket :=
  if b.closed then ([], b) else b.putBack (min amount b.room)

/-- Tells the ticks to end. Tokens that are in the bucket stay there. -/
def close (b : Bucket) : Bucket := { b with closed := true }

/-- What a bucket shows: its tokens, its size, and whether it is empty or full. -/
structure Status where
  available : Nat
  capacity : Nat
  isEmpty : Bool
  isFull : Bool
  deriving DecidableEq, Repr

def status (b : Bucket) : Status :=
  let available := min b.available b.capacity
  ⟨available, b.capacity, available = 0, available = b.capacity⟩

/-- The bucket after `n` ticks while nobody is queued. -/
def idleTicks (b : Bucket) (amount n : Nat) : Bucket :=
  if b.closed then b else { b with available := max b.available (min b.capacity (b.available + n * amount)) }

end Bucket

end ChainIndex.RateLimit
