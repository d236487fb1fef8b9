import ChainIndex.Envelope.Decode
import ChainIndex.Program.Strand
import ChainIndex.Retry

/-!
# Giving ids to addresses

Addresses without an entry in the book are looked up in storage first, since others may have stored
them. Those that storage does not have either are inserted together, as often as the settings allow. If
that fails to the end, they are inserted one by one, so that one bad address does not keep the others
out; the failures of single inserts are passed over. A second lookup tells the ids.

Ids come from lookups alone. So whatever is entered into a book at whatever time is what storage says.
-/

namespace ChainIndex

structure SolverSettings where
  /-- How the addresses are inserted together. -/
  retry : Retry.Params
  /-- Whether they are inserted one by one after that. -/
  oneByOne : Bool
  deriving DecidableEq, Repr

/-- What became of the addresses of one call. -/
structure SolveSummary where
  /-- How many there are, each counted once and the empty one not. -/
  requested : Nat := 0
  cached : Nat := 0
  /-- How many the first lookup found. -/
  recovered : Nat := 0
  /-- How many the second lookup found. -/
  inserted : Nat := 0
  /-- How many have no id still. -/
  unresolved : Nat := 0
  deriving DecidableEq, Repr

namespace BookRef

open Strand

/-- Enters ids, one address after another. -/
def learnAll (book : BookRef) (ids : AddressIds) : Strand Unit :=
  ids.toList.forM fun (address, id) => Strand.book book (.learn address id)

/-- Inserts addresses together, and one by one if that fails and the settings say so. -/
def insertMissing (book : BookRef) (settings : SolverSettings) (missing : List String) :
    Strand (Except Storage.Error Unit) := do
  let outcome ← Retry.run Strand.sleep settings.retry fun _ => call (.insertAddresses book.space missing)
  match outcome with
  | .success () => pure (.ok ())
  | .failure e _ =>
    if settings.oneByOne then
      for address in missing do
        let _ ← call (.insertAddresses book.space [address])
      pure (.ok ())
    else
      pure (.error e)

/-- Gives ids to addresses that storage did not have, and enters them. -/
def solveMissing (book : BookRef) (settings : SolverSettings) (summary : SolveSummary) (missing : List String) :
    Strand (Except Storage.Error SolveSummary) := do
  match ← book.insertMissing settings missing with
  | .error e => pure (.error e)
  | .ok () =>
    match ← call (.find book.space missing) with
    | .error e => pure (.error e)
    | .ok assigned =>
      book.learnAll assigned
      pure (.ok
        { summary with inserted := assigned.size, unresolved := missing.length - assigned.size })

/-- Makes sure that the book has an id for every address, as far as storage lets it. -/
def solve (book : BookRef) (settings : SolverSettings) (addresses : List String) :
    Strand (Except Storage.Error SolveSummary) := do
  let requested := (firstOccurrences addresses).filter (· ≠ "")
  let entries ← Strand.book book .entries
  let unknown := requested.filter fun address => !entries.contains address
  let summary : SolveSummary :=
    { requested := requested.length, cached := requested.length - unknown.length }
  if unknown.isEmpty then
    pure (.ok summary)
  else
    match ← call (.find book.space unknown) with
    | .error e => pure (.error e)
    | .ok found =>
      let missing := unknown.filter fun address => !found.contains address
      book.learnAll found
      let summary := { summary with recovered := found.size }
      if missing.isEmpty then
        pure (.ok summary)
      else
        book.solveMissing settings summary missing

/-- Replaces the entries by all that storage has, and gives their number. -/
def load (book : BookRef) : Strand (Except Storage.Error Nat) := do
  match ← call (.newer book.space 0) with
  | .error e => pure (.error e)
  | .ok (ids, highest) =>
    Strand.book book .clear
    book.learnAll ids
    Strand.book book (.setMark highest)
    pure (.ok ids.size)

/-- Enters what storage has beyond the mark, and gives the number of it. -/
def refresh (book : BookRef) : Strand (Except Storage.Error Nat) := do
  let since ← Strand.book book .mark
  match ← call (.newer book.space since) with
  | .error e => pure (.error e)
  | .ok (ids, highest) =>
    book.learnAll ids
    Strand.book book (.raiseMark highest)
    pure (.ok ids.size)

end BookRef

end ChainIndex
