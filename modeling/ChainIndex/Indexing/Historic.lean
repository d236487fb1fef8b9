import ChainIndex.Indexing.Chunk

/-!
# Indexing a range once

The range is cut into chunks, and they are indexed one after another. A chunk that fails is reported
and the run goes on; indexing it again later stores what is missing and leaves the rest as it is.
-/

namespace ChainIndex.Indexer

/-- Indexes chunks one after another and reports on each. -/
def chunksInTurn (ix : Indexer) : List HeightRange → Plan (List ChunkReport)
  | [] => pure []
  | range :: rest => do
    let result ← ix.chunk range
    let report :=
      match result with
      | .ok report => report
      | .error e => .ofError range e
    let later ← chunksInTurn ix rest
    pure (report :: later)

/-- Indexes every height of a range. -/
def historic (ix : Indexer) (range : HeightRange) : Plan (Except IndexError (List ChunkReport)) :=
  if range.last < range.first then
    pure (.error (invalidRange range))
  else do
    let reports ← ix.chunksInTurn (chunkRanges range.first range.last ix.blockChunk)
    pure (.ok reports)

end ChainIndex.Indexer

namespace ChainIndex

/-- The number of blocks that a run stored. -/
def blocksOf (reports : List ChunkReport) : Nat := reports.foldl (fun n r => n + r.blocks) 0

/-- The chunks that failed. -/
def failedOf (reports : List ChunkReport) : List ChunkReport :=
  reports.filter fun r =>
    match r.outcome with
    | .failed _ => true
    | _ => false

end ChainIndex
