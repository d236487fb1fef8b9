import ChainIndex.Envelope.Decode
import ChainIndex.Error
import ChainIndex.Number.Bound
import ChainIndex.Program.Query

/-!
# Building rows

Rows are built from what was fetched and from the ids that are known. An item yields its row, or all
its rows, only if every address that it names has an id; there is no row with a hole in it. The rows of
a list of items are those of the items that yield any, in the order of the items.
-/

namespace ChainIndex

open Storage

/-- The id of an address; an address without one is an error. -/
def resolve (role : AddressRole) (ids : AddressIds) (address : String) : Except IndexError AddressId :=
  match ids.getD address 0 with
  | 0 => .error (.unresolvedAddress role address)
  | id => .ok id

/-- The ids of addresses, or the error of the first without one. -/
def resolveAll (role : AddressRole) (ids : AddressIds) (addresses : List String) : Except IndexError (List AddressId) :=
  addresses.mapM (resolve role ids)

/-- A height as it is stored. -/
def storedHeight (height : UInt64) : Except IndexError Int64 :=
  if height.toNat < signedBound then
    .ok height.toInt64
  else
    .error (.validation ("height " ++ toString height.toNat ++ " does not fit in storage"))

/-- The results of the items that yield one. -/
def keepGood {α β : Type} (f : α → Except IndexError β) (items : List α) : List β :=
  items.filterMap fun item => (f item).toOption

/-! ## Blocks -/

def blockRow (chain : String) (validators : AddressIds) (b : Block) : Except IndexError BlockRow := do
  let hash ←
    match Base64.decodeText b.hash with
    | .ok hash => pure hash
    | .error e => throw (.validation ("block #" ++ toString b.height.toNat ++ " has an invalid hash: " ++ e.message))
  let height ← storedHeight b.height
  let proposer ← resolve .validator validators b.proposer
  pure { hash, height, time := b.time, chain, proposer, transactions := b.transactions }

def signingRow (chain : String) (validators : AddressIds) (b : Block) : Except IndexError SigningRow := do
  let height ← storedHeight b.height
  let proposer ← resolve .validator validators b.proposer
  let signed ← resolveAll .validator validators b.signers
  pure { height, time := b.time, chain, proposer, signed }

/-! ## Transactions -/

/-- An executed transaction with what its envelope says. -/
structure DecodedExecution where
  timed : TimedExecution
  envelope : Transaction
  deriving DecidableEq, Repr

/-- Decodes the envelope of an executed transaction. -/
def TimedExecution.decode (t : TimedExecution) : Except IndexError DecodedExecution :=
  match decodeTransactionText t.execution.envelope with
  | .ok envelope => .ok ⟨t, envelope⟩
  | .error e => .error (.decode e)

/-- Those executed transactions whose envelopes can be decoded. -/
def decodeAll (executions : List TimedExecution) : List DecodedExecution :=
  keepGood TimedExecution.decode executions

namespace DecodedExecution

def row (chain : String) (accounts : AddressIds) (d : DecodedExecution) : Except IndexError TransactionRow := do
  let execution := d.timed.execution
  let height ← storedHeight execution.height
  let signers ← resolveAll .account accounts d.envelope.signers
  pure
    { hash := d.envelope.hash
      chain, height, signers
      time := d.timed.time
      messageType? := d.envelope.type?.map MessageType.name
      memo := d.envelope.memo
      fee := d.envelope.fee
      gasWanted := execution.gasWanted
      gasUsed := execution.gasUsed
      success := execution.succeeded
      events := .arr (execution.events.map Event.toJson) }

/-! ## Messages -/

/-- The row of one message, in the table of its type. -/
def messageRow (accounts : AddressIds) (head : MessageHead) : Message → Except IndexError MessageRows
  | .send m => do
    let sender ← resolve .account accounts m.sender
    let recipient ← resolve .account accounts m.recipient
    pure { send := [{ head, sender, recipient, amount := m.amount }] }
  | .call m => do
    let caller ← resolve .account accounts m.caller
    pure
      { call :=
          [{ head, caller, path := m.path, function := m.function, args := m.args, send := m.send
             maxDeposit := m.maxDeposit }] }
  | .addPackage m => do
    let signer ← resolve .account accounts m.signer
    pure { addPackage := [{ head, signer, package := m.package, send := m.send, maxDeposit := m.maxDeposit }] }
  | .run m => do
    let signer ← resolve .account accounts m.signer
    pure { run := [{ head, signer, package := m.package, send := m.send, maxDeposit := m.maxDeposit }] }

/-- The rows of all messages of a transaction. -/
def messageRows (chain : String) (accounts : AddressIds) (d : DecodedExecution) : Except IndexError MessageRows := do
  let signers ← resolveAll .account accounts d.envelope.signers
  let rows ← d.envelope.messages.mapM fun m =>
    let head := ⟨d.envelope.hash, chain, m.counter, d.timed.time, signers⟩
    messageRow accounts head m.message
  pure (MessageRows.concat rows)

/-- Every account that the messages of a transaction name. -/
def addresses (d : DecodedExecution) : List String :=
  d.envelope.messages.flatMap (·.message.addresses)

end DecodedExecution

end ChainIndex
