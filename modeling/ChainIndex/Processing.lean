import ChainIndex.Address.Solver
import ChainIndex.Program.Plan
import ChainIndex.Rows.Build

/-!
# Processing what was fetched

Blocks and transactions are turned into rows and stored in one batch per table. An item that yields no
row is passed over; a failure of storage fails the operation, and what is stored by then stays.

The rows of blocks and of signings need the ids of validators, which another operation finds before
them. The operations on transactions and on messages find the ids of accounts themselves, each on its
own, so they may run in any order or side by side.
-/

namespace ChainIndex

open Storage

/-- The chain that is indexed, with its two address books and how new addresses get their ids. -/
structure Processor where
  chain : String
  accounts : BookRef
  validators : BookRef
  solver : SolverSettings
  deriving DecidableEq, Repr

namespace Processor

open Strand

/-- Stores a batch unless it is empty, and counts the new rows. -/
def store (batch : Batch) : Strand (Except IndexError UInt64) := do
  if batch.length = 0 then
    pure (.ok 0)
  else
    match ← call (.insert batch) with
    | .ok written => pure (.ok written)
    | .error e => pure (.error (.persistence e))

/-- Finds ids for the validators of blocks. -/
def validatorAddresses (p : Processor) (blocks : List Block) : Strand (Except IndexError SolveSummary) := do
  match ← p.validators.solve p.solver (blocks.flatMap Block.validators) with
  | .ok summary => pure (.ok summary)
  | .error e => pure (.error (.persistence e))

def blocks (p : Processor) (blocks : List Block) : Strand (Except IndexError UInt64) := do
  let validators ← book p.validators .entries
  store (.blocks (keepGood (blockRow p.chain validators) blocks))

def signings (p : Processor) (blocks : List Block) : Strand (Except IndexError UInt64) := do
  let validators ← book p.validators .entries
  store (.signings (keepGood (signingRow p.chain validators) blocks))

def transactions (p : Processor) (decoded : List DecodedExecution) : Strand (Except IndexError UInt64) := do
  match ← p.accounts.solve p.solver (decoded.flatMap (·.envelope.signers)) with
  | .error e => pure (.error (.persistence e))
  | .ok _ =>
    let accounts ← book p.accounts .entries
    store (.transactions (keepGood (DecodedExecution.row p.chain accounts) decoded))

def messages (p : Processor) (decoded : List DecodedExecution) : Strand (Except IndexError UInt64) := do
  match ← p.accounts.solve p.solver (decoded.flatMap DecodedExecution.addresses) with
  | .error e => pure (.error (.persistence e))
  | .ok _ =>
    let accounts ← book p.accounts .entries
    let rows := MessageRows.concat (keepGood (DecodedExecution.messageRows p.chain accounts) decoded)
    if rows.length = 0 then
      pure (.ok 0)
    else
      match ← query (.insertAll rows.batches) with
      | .ok written => pure (.ok written)
      | .error e => pure (.error (.persistence e))

end Processor

end ChainIndex
