import ChainIndex.Chain.Block
import ChainIndex.Envelope.Message

/-!
# How scripts write blocks and transactions

What a script leaves out is empty or zero.
-/

namespace ChainIndex

def Json.strings (j : Json) : List String := j.items.map Json.text

def Json.ofStrings (ss : List String) : Json := .arr (ss.map .str)

/-- Objects whose fields are given in any order. -/
def Json.object (fields : List (String × Json)) : Json := .ofFields fields

def Json.ofNat (n : Nat) : Json := .int n

def Moment.ofJson (j : Json) : Moment :=
  match j.items with
  | [secs, nanos] => ⟨secs.number, nanos.nat.toUInt32⟩
  | _ => ⟨0, 0⟩

def Moment.toJson (t : Moment) : Json := .arr [.int t.secs, .ofNat t.nanos.toNat]

def Coin.ofJson (j : Json) : Coin :=
  match j.items with
  | [amount, denom] => ⟨Int64.ofInt amount.number, denom.text⟩
  | _ => ⟨0, ""⟩

def Coin.toJson (c : Coin) : Json := .arr [.int c.amount.toInt, .str c.denom]

def Block.ofJson (j : Json) : Block where
  height := (j.field "height").nat.toUInt64
  hash := (j.field "hash").text
  time := .ofJson (j.field "time")
  chainId := (j.field "chain_id").text
  proposer := (j.field "proposer").text
  transactions := (j.field "txs").strings
  signers := (j.field "signers").strings

def Block.toJson (b : Block) : Json :=
  .object
    [("height", .ofNat b.height.toNat), ("hash", .str b.hash), ("time", b.time.toJson), ("chain_id", .str b.chainId),
      ("proposer", .str b.proposer), ("txs", .ofStrings b.transactions), ("signers", .ofStrings b.signers),
      ("validators", .ofStrings b.validators)]

def Event.ofJson (j : Json) : Event where
  atType := (j.field "@type").text
  type := (j.field "type").text
  packagePath := (j.field "pkg_path").text
  attributes := (j.field "attrs").items.map fun a => ⟨(a.field "key").text, (a.field "value").text⟩

def Execution.ofJson (j : Json) : Execution where
  hash := (j.field "hash").text
  height := (j.field "height").nat.toUInt64
  index := (j.field "index").nat.toUInt32
  envelope := (j.field "raw").text
  gasWanted := Int64.ofInt (j.field "gas_wanted").number
  gasUsed := Int64.ofInt (j.field "gas_used").number
  error? := (j.field "error").text?
  events := (j.field "events").items.map .ofJson

def Execution.toJson (e : Execution) : Json :=
  .object
    [("hash", .str e.hash), ("height", .ofNat e.height.toNat), ("index", .ofNat e.index.toNat),
      ("raw", .str e.envelope), ("gas_wanted", .int e.gasWanted.toInt), ("gas_used", .int e.gasUsed.toInt),
      ("error", match e.error? with
        | some text => .str text
        | none => .null),
      ("events", .arr (e.events.map Event.toJson)), ("success", .bool e.succeeded)]

def TimedExecution.ofJson (j : Json) : TimedExecution := ⟨.ofJson j, .ofJson (j.field "time")⟩

end ChainIndex
