import ChainIndex.Number.Fixed
import ChainIndex.Time.Duration

/-!
# Throughput over a sliding window

Counts are gathered in a bucket that is open for a sixtieth of the window and then stored under the
time at which it was opened. Buckets that were opened a window ago or longer no longer count: a
reading skips them, and closing a bucket drops those in front.

Times are nanoseconds since the counter was made, and a time before another is taken to be no later.
-/

namespace ChainIndex

structure Throughput where
  window : Duration
  /-- Closed buckets by the time at which each was opened, the oldest first. -/
  buckets : List (Nat × UInt64)
  /-- The count of the open bucket, and when it was opened. -/
  count : UInt64
  opened : Nat

namespace Throughput

def new (window : Duration) : Throughput := ⟨window, [], 0, 0⟩

/-- How long a bucket is open. -/
def span (t : Throughput) : Nat := (t.window.div 60).toNanos

/-- Whether a bucket opened at `time` no longer counts. -/
def expired (t : Throughput) (now time : Nat) : Bool := t.window.toNanos ≤ now - time

/-- Adds a count, after closing the open bucket if its time is up. -/
def add (t : Throughput) (count : UInt64) (now : Nat) : Throughput :=
  if t.span ≤ now - t.opened then
    let kept := t.buckets.dropWhile fun (time, _) => t.expired now time
    { t with
      buckets := if 0 < t.count then kept ++ [(t.opened, t.count)] else kept
      count := count
      opened := now }
  else
    { t with count := t.count + count }

/-- The count of the buckets that still count. -/
def total (t : Throughput) (now : Nat) : UInt64 :=
  (t.buckets.dropWhile fun (time, _) => t.expired now time).foldl (fun sum (_, c) => sum + c) 0 + t.count

/-- The time over which a reading spreads the total. -/
def divisor (t : Throughput) (now : Nat) : Duration :=
  match t.buckets with
  | (time, _) :: _ => if t.expired now time then t.window else .ofNanos (now - time)
  | [] => .ofNanos (now - t.opened)

/-- The count per second; zero while no time has passed. -/
def rate (t : Throughput) (now : Nat) : Float :=
  let seconds := (t.divisor now).toSeconds
  if 0 < seconds then (t.total now).toFloat / seconds else 0

/-- A rate as it is logged. -/
def rateText (rate : Float) : String := fixedDecimal 2 rate.toBits

end Throughput

end ChainIndex
