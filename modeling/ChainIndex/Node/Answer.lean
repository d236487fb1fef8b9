import ChainIndex.Chain.Block
import ChainIndex.Envelope.Decode
import ChainIndex.Json.Shape
import ChainIndex.Node.Error
import ChainIndex.Time.Timestamp

/-!
# Answers of a node

The parts of an answer that are read, and what is made of them. A block is accepted only if it is the
one that was asked for, has a hash, and lists nothing but envelopes whose digests can be told; a block
with a hole in it is no block.
-/

namespace ChainIndex.Node

open Json

/-! ## Shapes -/

/-- An error that the node reports. -/
structure Refusal where
  code : Int64
  message : String
  data : Json

def refusal : Shape Refusal := fun depth j => do
  let m ← members ["code", "message", "data"] depth j
  let code ← m.need "code" fun _ j =>
    match j with
    | .number n => Int64.ofInt <$> Shape.wholeNumber? n
    | _ => none
  let message ← m.need "message" Shape.text
  let data ← m.getOr "data" .null Shape.value
  some ⟨code, message, data⟩

/-- What the node says, with its data if there are any. -/
def Refusal.describe (r : Refusal) : String :=
  match r.data with
  | .null => r.message
  | .str data => r.message ++ ": " ++ if data = "" then Json.quote data else data
  | data => r.message ++ ": " ++ data.render

/-- An answer: a result, an error, both, or neither. -/
structure Reply (α : Type) where
  result : Option α
  refusal : Option Refusal

def reply {α : Type} (result : Shape α) : Shape (Reply α) := fun depth j => do
  let m ← members ["result", "error"] depth j
  let result ← m.optional "result" result
  let refusal ← m.getOr "error" none (Shape.nullable refusal)
  some ⟨result, refusal⟩

/-- The parts of a block that are read. -/
structure BlockParts where
  hash : Option String
  chainId : String
  height : UInt64
  time : Moment
  proposer : String
  envelopes : List String
  /-- A place for every validator; those that did not sign leave it empty. -/
  precommits : List (Option String)

def time : Shape Moment := Shape.map? Timestamp.parse? Shape.text

def blockHash : Shape (Option String) := fun depth j => do
  let m ← members ["block_id"] depth j
  m.need "block_id" fun depth j => do
    let m ← members ["hash"] depth j
    m.getOr "hash" none (Shape.nullable Shape.text)

def header : Shape (String × UInt64 × Moment × String) := fun depth j => do
  let m ← members ["chain_id", "height", "time", "proposer_address"] depth j
  let chainId ← m.need "chain_id" Shape.text
  let height ← m.need "height" Shape.word64
  let time ← m.need "time" time
  let proposer ← m.getOr "proposer_address" "" Shape.text
  some (chainId, height, time, proposer)

def envelopes : Shape (List String) := fun depth j => do
  let m ← members ["txs"] depth j
  m.getOr "txs" [] (Shape.nullAs [] (Shape.list Shape.text))

def precommit : Shape String := fun depth j => do
  let m ← members ["validator_address"] depth j
  m.need "validator_address" Shape.text

def precommits : Shape (List (Option String)) := fun depth j => do
  let m ← members ["precommits"] depth j
  m.getOr "precommits" [] (Shape.nullAs [] (Shape.list (Shape.nullable precommit)))

def blockParts : Shape BlockParts := fun depth j => do
  let m ← members ["block_meta", "block"] depth j
  let hash ← m.need "block_meta" blockHash
  m.need "block" fun depth j => do
    let m ← members ["header", "data", "last_commit"] depth j
    let (chainId, height, time, proposer) ← m.need "header" header
    let envelopes ← m.getOr "data" [] envelopes
    let commit ← m.getOr "last_commit" none (Shape.nullable precommits)
    some ⟨hash, chainId, height, time, proposer, envelopes, commit.getD []⟩

/-- The parts of an executed transaction that are read. -/
structure ExecutionParts where
  hash : String
  height : UInt64
  index : UInt64
  envelope : String
  gasWanted : Int64
  gasUsed : Int64
  error : Json
  events : List Event
  log : String

def eventAttribute : Shape EventAttribute := fun depth j => do
  let m ← members ["key", "value"] depth j
  some ⟨← m.need "key" Shape.text, ← m.need "value" Shape.text⟩

def event : Shape Event := fun depth j => do
  let m ← members ["@type", "type", "pkg_path", "attrs"] depth j
  let atType ← m.getOr "@type" "" Shape.text
  let type ← m.getOr "type" "" Shape.text
  let packagePath ← m.getOr "pkg_path" "" Shape.text
  let attributes ← m.getOr "attrs" [] (Shape.nullAs [] (Shape.list eventAttribute))
  some { atType, type, packagePath, attributes }

def outcome : Shape (Json × List Event × String) := fun depth j => do
  let m ← members ["Error", "Events", "Log"] depth j
  let error ← m.getOr "Error" .null Shape.value
  let events ← m.getOr "Events" [] (Shape.nullAs [] (Shape.list event))
  let log ← m.getOr "Log" "" (Shape.nullAs "" Shape.text)
  some (error, events, log)

def executionParts : Shape ExecutionParts := fun depth j => do
  let m ← members ["hash", "height", "index", "tx_result", "tx"] depth j
  let hash ← m.need "hash" Shape.text
  let height ← m.need "height" Shape.word64
  let index ← m.getOr "index" 0 Shape.word64
  let envelope ← m.need "tx" Shape.text
  m.need "tx_result" fun depth j => do
    let m ← members ["ResponseBase", "GasWanted", "GasUsed"] depth j
    let (error, events, log) ← m.need "ResponseBase" outcome
    let gasWanted ← m.getOr "GasWanted" 0 Shape.int64
    let gasUsed ← m.getOr "GasUsed" 0 Shape.int64
    some { hash, height, index, envelope, gasWanted, gasUsed, error, events, log }

def latestHeight : Shape UInt64 := fun depth j => do
  let m ← members ["sync_info"] depth j
  m.need "sync_info" fun depth j => do
    let m ← members ["latest_block_height"] depth j
    m.need "latest_block_height" Shape.word64

/-! ## What is made of them -/

/-- The digests of envelopes, or the fault of the first that cannot be read. -/
def digests (envelopes : List String) : Except DecodeError (List String) := envelopes.mapM transactionHashOfText

/-- The block that was asked for. -/
def BlockParts.toBlock (p : BlockParts) (requested : UInt64) : Except Error Block :=
  let refuse (text : String) : Except Error Block := .error ⟨.height requested, .invalidResponse text⟩
  if p.height ≠ requested then
    refuse ("node returned block #" ++ toString p.height.toNat ++ " instead")
  else
    match p.hash.filter (· ≠ "") with
    | none => refuse "missing block hash"
    | some hash =>
      match digests p.envelopes with
      | .error e => refuse e.message
      | .ok transactions =>
        .ok
          { height := p.height
            hash
            time := p.time
            chainId := p.chainId
            proposer := p.proposer
            transactions
            signers := p.precommits.filterMap id }

/-- Why an execution failed: in its own words if it left any, else as the node puts it. -/
def ExecutionParts.failure (p : ExecutionParts) : Option String :=
  match p.error with
  | .null => none
  | error => some (if p.log = "" then error.render else p.log)

/-- The executed transaction that the node tells of. -/
def ExecutionParts.toExecution (p : ExecutionParts) : Except Error Execution :=
  if p.index.toNat < UInt32.size then
    .ok
      { hash := p.hash
        height := p.height
        index := p.index.toUInt32
        envelope := p.envelope
        gasWanted := p.gasWanted
        gasUsed := p.gasUsed
        error? := p.failure
        events := p.events }
  else
    .error ⟨.hash p.hash, .invalidResponse ("transaction index " ++ toString p.index.toNat ++ " out of range")⟩

end ChainIndex.Node
