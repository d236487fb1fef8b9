import ChainIndex.Fetch
import ChainIndex.Pieces
import ChainIndex.Processing

/-!
# Indexing one chunk

A chunk is a range of heights. Its blocks are fetched side by side, then the transactions that they
list, batch after batch. What was fetched is stored in two phases: first everything that hands out ids,
then the rows that only look ids up. The second phase begins when all of the first is done, and only if
nothing in it failed.

So the row of a block is there only if the rows of its transactions and messages are: the block rows
are what a later run trusts when it looks where to go on.
-/

namespace ChainIndex

/-- What is indexed and how. -/
structure Indexer where
  processor : Processor
  /-- How fetches are repeated. -/
  fetchRetry : Retry.Params
  /-- How many heights a chunk has at most. -/
  blockChunk : UInt64
  /-- How many transactions are fetched side by side at most. -/
  transactionChunk : UInt64
  /-- How long to wait when there is nothing to do. -/
  idle : Duration

inductive ChunkOutcome where
  | processed
  /-- No block of the range could be fetched. -/
  | empty
  | failed (text : String)
  deriving DecidableEq, Repr

structure ChunkReport where
  range : HeightRange
  blocks : Nat
  transactions : Nat
  outcome : ChunkOutcome
  deriving DecidableEq, Repr

namespace ChunkReport

def ofEmpty (range : HeightRange) : ChunkReport := ⟨range, 0, 0, .empty⟩

def ofError (range : HeightRange) (e : IndexError) : ChunkReport := ⟨range, 0, 0, .failed e.message⟩

end ChunkReport

/-- The time of the block at a height; of the last such block, if there are several. -/
def timeAt (blocks : List Block) (height : UInt64) : Option Moment :=
  (blocks.reverse.find? (·.height = height)).map (·.time)

/-- Executed transactions with the times of their blocks. One that happened elsewhere is passed over. -/
def timed (blocks : List Block) (executions : List Execution) : List TimedExecution :=
  executions.filterMap fun e => (timeAt blocks e.height).map (⟨e, ·⟩)

/-- The first error among results. -/
def firstError {ε α : Type} : List (Except ε α) → Except ε Unit
  | [] => .ok ()
  | .error e :: _ => .error e
  | .ok _ :: rest => firstError rest

namespace Indexer

/-- Fetches batches of transactions, one batch after another. -/
def fetchBatches (ix : Indexer) : List (List String) → Plan (List Execution)
  | [] => pure []
  | batch :: rest => do
    let results ← fetchExecutions ix.fetchRetry batch
    let later ← fetchBatches ix rest
    pure (successes results ++ later)

/-- Fetches the transactions that blocks list. -/
def fetchTransactions (ix : Indexer) (blocks : List Block) : Plan (List TimedExecution) := do
  let executions ← ix.fetchBatches (pieces ix.transactionChunk.toNat (blocks.flatMap (·.transactions)))
  pure (timed blocks executions)

/-- Stores what hands out ids: the validators of blocks, transactions, and their messages. -/
def firstPhase (ix : Indexer) (blocks : List Block) (decoded : List DecodedExecution) :
    Plan (Except IndexError Unit) := do
  let p := ix.processor
  let results ← Plan.joined
    [Except.map (fun _ => ()) <$> p.validatorAddresses blocks, Except.map (fun _ => ()) <$> p.transactions decoded,
      Except.map (fun _ => ()) <$> p.messages decoded]
  pure (firstError results)

/-- Stores blocks and their signings. -/
def secondPhase (ix : Indexer) (blocks : List Block) : Plan (Except IndexError Unit) := do
  let results ← Plan.joined [ix.processor.blocks blocks, ix.processor.signings blocks]
  pure (firstError results)

/-- Stores the blocks of a range with all that they list. -/
def storeChunk (ix : Indexer) (range : HeightRange) (blocks : List Block) : Plan (Except IndexError ChunkReport) := do
  let transactions ← ix.fetchTransactions blocks
  match ← ix.firstPhase blocks (decodeAll transactions) with
  | .error e => pure (.error e)
  | .ok () =>
    match ← ix.secondPhase blocks with
    | .error e => pure (.error e)
    | .ok () => pure (.ok ⟨range, blocks.length, transactions.length, .processed⟩)

/-- Indexes a range of heights as one chunk. -/
def chunk (ix : Indexer) (range : HeightRange) : Plan (Except IndexError ChunkReport) := do
  match ← fetchBlocks ix.fetchRetry range with
  | .error e => pure (.error e)
  | .ok results =>
    let blocks := successes results
    if blocks.isEmpty then
      pure (.ok (.ofEmpty range))
    else
      ix.storeChunk range blocks

end Indexer

end ChainIndex
