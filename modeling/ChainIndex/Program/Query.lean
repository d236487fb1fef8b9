import Std.Data.TreeMap
import ChainIndex.Node.Error
import ChainIndex.Storage.Error
import ChainIndex.Storage.Row
import ChainIndex.Time.Duration

/-!
# Questions to the world

All that the indexer does to the world, and all that it learns from it, passes through the questions
below: it asks the node, it calls storage, it looks into its address books and writes into them, it
takes tokens, and it sleeps. A program is a tree of such questions, so whoever answers them decides
what the world is like: the order in which concurrent parts are answered, what fails, and what others
write in between.
-/

namespace ChainIndex

/-- Addresses with their ids. -/
abbrev AddressIds := Std.TreeMap String AddressId

namespace Node

/-- A question to the node. -/
inductive Request where
  | block (height : UInt64)
  | execution (hash : String)
  | latest
  | health
  deriving DecidableEq, Repr

/-- What is asked for, as failures name it. -/
def Request.target : Request → Target
  | .block height => .height height
  | .execution hash => .hash hash
  | .latest => .latest
  | .health => .health

/-- What the node tells if nothing fails. -/
def Request.Payload : Request → Type
  | .block _ => Block
  | .execution _ => Execution
  | .latest => UInt64
  | .health => Unit

abbrev Request.Answer (r : Request) : Type := Except Error r.Payload

end Node

namespace Storage

/-- A call to storage. All writers leave what is stored already as it is. -/
inductive Call where
  /-- The highest stored height of a chain. -/
  | lastHeight (chain : String)
  /-- The ids of those addresses that have one. -/
  | find (space : AddressSpace) (addresses : List String)
  /-- All addresses with an id above another, and the highest id. -/
  | newer (space : AddressSpace) (since : AddressId)
  /-- Gives ids to those addresses that have none. -/
  | insertAddresses (space : AddressSpace) (addresses : List String)
  /-- Stores rows and counts the new ones. -/
  | insert (batch : Batch)

/-- What storage tells if nothing fails. -/
def Call.Payload : Call → Type
  | .lastHeight _ => Option UInt64
  | .find .. => AddressIds
  | .newer .. => AddressIds × AddressId
  | .insertAddresses .. => Unit
  | .insert _ => UInt64

abbrev Call.Answer (c : Call) : Type := Except Error c.Payload

end Storage

/-- One of the address books that the indexer keeps, with the space that it is about. -/
structure BookRef where
  space : AddressSpace
  index : Nat
  deriving DecidableEq, Repr

/-- A look into an address book, or an entry into it. -/
inductive BookStep where
  /-- All entries as they are now. -/
  | entries
  | learn (address : String) (id : AddressId)
  | clear
  /-- The id up to which the book is known to be complete. -/
  | mark
  | setMark (id : AddressId)
  | raiseMark (id : AddressId)
  deriving DecidableEq, Repr

def BookStep.Answer : BookStep → Type
  | .entries => AddressIds
  | .mark => AddressId
  | .learn .. | .clear | .setMark _ | .raiseMark _ => Unit

inductive Query where
  | request (r : Node.Request)
  | call (c : Storage.Call)
  /-- Stores batches side by side and counts the new rows, up to the first failure. -/
  | insertAll (batches : List Storage.Batch)
  | book (ref : BookRef) (step : BookStep)
  /-- Waits for a token of the rate limiter. -/
  | token
  /-- Takes a token if there is one. -/
  | tryToken
  | sleep (d : Duration)
  /-- Sleeps, but no longer than until the run is told to stop. -/
  | pause (d : Duration)
  /-- Whether the run was told to stop. -/
  | stopped

def Query.Answer : Query → Type
  | .request r => r.Answer
  | .call c => c.Answer
  | .insertAll _ => Except Storage.Error UInt64
  | .book _ step => step.Answer
  | .tryToken | .stopped => Bool
  | .token | .sleep _ | .pause _ => Unit

end ChainIndex
