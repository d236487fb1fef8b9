import ChainIndex.Chunking
import ChainIndex.Error
import ChainIndex.Program.Plan
import ChainIndex.Retry

/-!
# Fetching side by side

Every request takes a token before it is sent. One way waits for the token; the other sends nothing
when there is none, and says what it would have asked for.

One strand fetches each height or digest. A failed request is repeated while that is worth it, and
each attempt takes a token of its own. Every strand gives one result, so an item that could not be
fetched is told apart from one that was not asked for.
-/

namespace ChainIndex

open Node

/-! ## Requests behind the rate limiter -/

/-- Waits for a token, then asks. -/
def Node.Request.send (r : Request) : Strand r.Answer := do
  Strand.token
  Strand.request r

/-- Asks if there is a token, and fails otherwise. -/
def Node.Request.trySend (r : Request) : Strand r.Answer := do
  if ← Strand.tryToken then
    Strand.request r
  else
    pure (.error ⟨r.target, .rateLimitExhausted⟩)

/-! ## Requests that are repeated -/

/-- A request, repeated while its failure is worth it. -/
def Node.Request.fetch (retry : Retry.Params) (r : Request) : Strand r.Answer := do
  let outcome ← Retry.runIf Strand.sleep retry Error.retryable fun _ => r.send
  pure outcome.toExcept

/-- Why no run makes sense of a range that ends before it begins. -/
def invalidRange (r : HeightRange) : IndexError :=
  .validation ("invalid block range: from " ++ toString r.first.toNat ++ " > to " ++ toString r.last.toNat)

/-- The heights of a range, from the first to the last. -/
def HeightRange.heights (r : HeightRange) : List UInt64 :=
  (List.range (r.last.toNat + 1 - r.first.toNat)).map fun i => r.first + i.toUInt64

/-- Fetches the blocks of a range. The results are in the order in which they came. The range has to be countable, since
its heights are counted before they are fetched, and the number of all heights there are overflows. Every chunk of a run
is countable. -/
def fetchBlocks (retry : Retry.Params) (r : HeightRange) : Plan (Except IndexError (List (Except Error Block))) :=
  if r.last < r.first then
    pure (.error (invalidRange r))
  else do
    let results ← Plan.unordered (r.heights.map fun h => (Request.block h).fetch retry)
    pure (.ok results)

/-- Fetches executed transactions by their digests. The results are in the order in which they came. -/
def fetchExecutions (retry : Retry.Params) (hashes : List String) : Plan (List (Except Error Execution)) :=
  Plan.unordered (hashes.map fun hash => (Request.execution hash).fetch retry)

/-- Fetches the height of the newest block. -/
def fetchLatest (retry : Retry.Params) : Strand (Except Error UInt64) :=
  Request.latest.fetch retry

/-- What was fetched, without the failures. -/
def successes {α : Type} (results : List (Except Error α)) : List α :=
  results.filterMap Except.toOption

end ChainIndex
