import ChainIndex.Indexing.Chunk

/-!
# Following the head of the chain

A run begins above the highest stored height, or at the head if it is told not to look into storage.
Round after round it reads the head and indexes the next chunk up to it. The cursor moves on only when
a chunk was stored; a chunk that was empty or failed is tried again after a pause. The run looks whether
it was told to stop between rounds, so a chunk that was begun is finished.

A run that would have to go on behind the highest height breaks off.
-/

namespace ChainIndex

/-- Why a run ends that was not told to stop. -/
inductive Halt where
  | failed (e : IndexError)
  /-- There is no height to go on with, and the sum that would give it overflows. -/
  | overflow
  deriving DecidableEq, Repr

/-- The height behind another. -/
def heightAfter (height : UInt64) : Except Halt UInt64 :=
  if height = highestHeight then .error .overflow else .ok (height + 1)

theorem heightAfter_highestHeight : heightAfter highestHeight = .error .overflow := rfl

theorem heightAfter_of_ne {height : UInt64} (below : height ≠ highestHeight) :
    heightAfter height = .ok (height + 1) := if_neg below

theorem heightAfter_eq_ok {height next : UInt64} (h : heightAfter height = .ok next) :
    height ≠ highestHeight ∧ next = height + 1 := by
  by_cases top : height = highestHeight
  · rw [top, heightAfter_highestHeight] at h
    cases h
  · rw [heightAfter_of_ne top] at h
    exact ⟨top, (Except.ok.inj h).symm⟩

theorem heightAfter_eq_error {height : UInt64} {e : Halt} (h : heightAfter height = .error e) :
    height = highestHeight ∧ e = .overflow := by
  by_cases top : height = highestHeight
  · rw [top, heightAfter_highestHeight] at h
    exact ⟨top, (Except.error.inj h).symm⟩
  · rw [heightAfter_of_ne top] at h
    cases h

namespace Indexer

/-- The height at which a run begins. -/
def startingHeight (ix : Indexer) (skipStorage : Bool) : Strand (Except Halt UInt64) := do
  if skipStorage then
    match ← fetchLatest ix.fetchRetry with
    | .ok head => pure (.ok head)
    | .error e => pure (.error (.failed (.ofNode e)))
  else
    match ← Strand.call (.lastHeight ix.processor.chain) with
    | .ok (some height) => pure (heightAfter height)
    | .ok none => pure (.ok 1)
    | .error e => pure (.error (.failed (.persistence e)))

/-- Picks up the addresses that others stored meanwhile. -/
def refreshBooks (ix : Indexer) : Plan Unit := do
  let _ ← Plan.joined [ix.processor.accounts.refresh, ix.processor.validators.refresh]

/-- Waits for something to do. -/
def rest (ix : Indexer) : Plan Unit := Plan.alone (Strand.pause ix.idle)

/-- Indexes the next chunk and gives the height to go on with. -/
def advance (ix : Indexer) (next head : UInt64) : Plan (Except Halt UInt64) := do
  let last := chunkEnd next head ix.blockChunk
  match ← ix.chunk ⟨next, last⟩ with
  | .ok report =>
    if report.outcome = .processed then
      pure (heightAfter last)
    else
      ix.rest
      pure (.ok next)
  | .error _ =>
    ix.refreshBooks
    ix.rest
    pure (.ok next)

/-- One round: gives the height to go on with, or nothing if the run is to stop. -/
def round (ix : Indexer) (next : UInt64) : Plan (Except Halt (Option UInt64)) := do
  if ← Plan.alone Strand.stopped then
    pure (.ok none)
  else
    match ← Plan.alone (fetchLatest ix.fetchRetry) with
    | .error _ =>
      ix.rest
      pure (.ok (some next))
    | .ok head =>
      if head < next then
        ix.rest
        pure (.ok (some next))
      else
        let after ← ix.advance next head
        pure (after.map some)

/-- Up to `rounds` rounds from a height on. Gives the height that is left to do if they were not
enough. -/
def roundsFrom (ix : Indexer) : (rounds : Nat) → (next : UInt64) → Plan (Except Halt (Option UInt64))
  | 0, next => pure (.ok (some next))
  | rounds + 1, next => do
    match ← ix.round next with
    | .error e => pure (.error e)
    | .ok none => pure (.ok none)
    | .ok (some next) => roundsFrom ix rounds next

/-- Follows the head for up to `rounds` rounds. -/
def live (ix : Indexer) (rounds : Nat) (skipStorage : Bool) : Plan (Except Halt (Option UInt64)) := do
  match ← Plan.alone (ix.startingHeight skipStorage) with
  | .error e => pure (.error e)
  | .ok next => ix.roundsFrom rounds next

end Indexer

end ChainIndex
