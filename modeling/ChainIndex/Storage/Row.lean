import ChainIndex.Address.Role
import ChainIndex.Chain.Block
import ChainIndex.Envelope.Message

/-!
# Rows

What is stored of blocks, of who signed them, of transactions and of their messages. Addresses are
replaced by their ids. An id is positive; zero stands for an address that has none, and no row holds it.
-/

namespace ChainIndex

/-- What stands for an address in storage. -/
abbrev AddressId := Int

namespace Storage

structure BlockRow where
  hash : List UInt8
  height : Int64
  time : Moment
  chain : String
  proposer : AddressId
  transactions : List String
  deriving DecidableEq, Repr

/-- Who proposed a block and who signed the one before it. -/
structure SigningRow where
  height : Int64
  time : Moment
  chain : String
  proposer : AddressId
  signed : List AddressId
  deriving DecidableEq, Repr

structure TransactionRow where
  hash : String
  chain : String
  height : Int64
  time : Moment
  /-- The name of the type of its first message, also where later ones are of others; none if there are no messages. -/
  messageType? : Option String
  signers : List AddressId
  memo : String
  fee : Coin
  gasWanted : Int64
  gasUsed : Int64
  success : Bool
  events : Json

/-- What the rows of all messages have in common: the transaction, the place in it, and its signers. -/
structure MessageHead where
  hash : String
  chain : String
  counter : Int16
  time : Moment
  signers : List AddressId
  deriving DecidableEq, Repr

structure SendRow where
  head : MessageHead
  sender : AddressId
  recipient : AddressId
  amount : List Coin
  deriving DecidableEq, Repr

structure CallRow where
  head : MessageHead
  caller : AddressId
  path : String
  function : String
  args : List String
  send : List Coin
  maxDeposit : List Coin
  deriving DecidableEq, Repr

/-- A package that is stored on the chain or run once. -/
structure PackageRow where
  head : MessageHead
  signer : AddressId
  package : Package
  send : List Coin
  maxDeposit : List Coin
  deriving DecidableEq, Repr

/-- The rows of messages, by the table that they belong to. -/
structure MessageRows where
  send : List SendRow := []
  call : List CallRow := []
  addPackage : List PackageRow := []
  run : List PackageRow := []
  deriving DecidableEq, Repr

namespace MessageRows

/-- The rows of all, table by table. -/
def concat (parts : List MessageRows) : MessageRows :=
  { send := parts.flatMap (·.send)
    call := parts.flatMap (·.call)
    addPackage := parts.flatMap (·.addPackage)
    run := parts.flatMap (·.run) }

def length (rows : MessageRows) : Nat :=
  rows.send.length + rows.call.length + rows.addPackage.length + rows.run.length

end MessageRows

/-- Rows for one table. -/
inductive Batch where
  | blocks (rows : List BlockRow)
  | signings (rows : List SigningRow)
  | transactions (rows : List TransactionRow)
  | sends (rows : List SendRow)
  | calls (rows : List CallRow)
  | packages (rows : List PackageRow)
  | runs (rows : List PackageRow)

namespace Batch

def length : Batch → Nat
  | .blocks rows => rows.length
  | .signings rows => rows.length
  | .transactions rows => rows.length
  | .sends rows => rows.length
  | .calls rows => rows.length
  | .packages rows => rows.length
  | .runs rows => rows.length

end Batch

/-- One batch for each table that the rows of messages have rows for. -/
def MessageRows.batches (rows : MessageRows) : List Batch :=
  [.sends rows.send, .calls rows.call, .packages rows.addPackage, .runs rows.run].filter (0 < ·.length)

end Storage

end ChainIndex
