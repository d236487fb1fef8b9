import ChainIndex.Json.Value
import ChainIndex.Time.Moment

/-!
# What a node tells

A block lists its transactions by the digests of their envelopes. What an execution did is asked for
separately, by that digest; it names the height that it happened at, and the time of the block at that
height is the time of the transaction.
-/

namespace ChainIndex

structure Block where
  height : UInt64
  /-- The digest of the block, in base64. -/
  hash : String
  time : Moment
  chainId : String
  proposer : String
  /-- The digests of the envelopes in the block, in order. -/
  transactions : List String
  /-- The validators that signed the block before this one. -/
  signers : List String
  deriving DecidableEq, Repr

/-- Every validator that a block names: who proposed it, and who signed. -/
def Block.validators (b : Block) : List String := b.proposer :: b.signers

structure EventAttribute where
  key : String
  value : String
  deriving DecidableEq, Repr

/-- Something that a transaction reported while it ran. -/
structure Event where
  atType : String
  type : String
  packagePath : String
  attributes : List EventAttribute
  deriving DecidableEq, Repr

namespace Event

def attributeJson (a : EventAttribute) : Json :=
  .obj [("key", .str a.key), ("value", .str a.value)]

/-- An event as it is stored. -/
def toJson (e : Event) : Json :=
  .obj
    [("@type", .str e.atType), ("attrs", .arr (e.attributes.map attributeJson)), ("pkg_path", .str e.packagePath),
      ("type", .str e.type)]

end Event

/-- An executed transaction. -/
structure Execution where
  /-- The digest by which it was asked for. -/
  hash : String
  height : UInt64
  /-- Its place in the block. -/
  index : UInt32
  /-- The envelope, in base64. -/
  envelope : String
  gasWanted : Int64
  gasUsed : Int64
  /-- Why it failed, if it did. -/
  error? : Option String
  events : List Event
  deriving DecidableEq, Repr

def Execution.succeeded (e : Execution) : Bool := e.error?.isNone

/-- An executed transaction with the time of its block. -/
structure TimedExecution where
  execution : Execution
  time : Moment
  deriving DecidableEq, Repr

end ChainIndex
