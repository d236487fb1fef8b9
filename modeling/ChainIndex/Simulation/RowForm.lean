import ChainIndex.Bytes.Hex
import ChainIndex.Simulation.ChainForm
import ChainIndex.Storage.Row

/-!
# How scripts write rows
-/

namespace ChainIndex.Storage

def idsJson (ids : List AddressId) : Json := .arr (ids.map .int)

def idsOfJson (j : Json) : List AddressId := j.items.map Json.number

def coinsJson (coins : List Coin) : Json := .arr (coins.map Coin.toJson)

def coinsOfJson (j : Json) : List Coin := j.items.map Coin.ofJson

def BlockRow.toJson (r : BlockRow) : Json :=
  .object
    [("hash", .str (Hex.encode r.hash)), ("height", .int r.height.toInt), ("time", r.time.toJson),
      ("chain", .str r.chain), ("proposer", .int r.proposer), ("txs", .ofStrings r.transactions)]

def BlockRow.ofJson (j : Json) : BlockRow where
  hash := (Hex.decode? (j.field "hash").text).getD []
  height := Int64.ofInt (j.field "height").number
  time := .ofJson (j.field "time")
  chain := (j.field "chain").text
  proposer := (j.field "proposer").number
  transactions := (j.field "txs").strings

def SigningRow.toJson (r : SigningRow) : Json :=
  .object
    [("height", .int r.height.toInt), ("time", r.time.toJson), ("chain", .str r.chain), ("proposer", .int r.proposer),
      ("signed", idsJson r.signed)]

def SigningRow.ofJson (j : Json) : SigningRow where
  height := Int64.ofInt (j.field "height").number
  time := .ofJson (j.field "time")
  chain := (j.field "chain").text
  proposer := (j.field "proposer").number
  signed := idsOfJson (j.field "signed")

def TransactionRow.toJson (r : TransactionRow) : Json :=
  .object
    [("hash", .str r.hash), ("chain", .str r.chain), ("height", .int r.height.toInt), ("time", r.time.toJson),
      ("msg_type", match r.messageType? with
        | some name => .str name
        | none => .null),
      ("signers", idsJson r.signers), ("memo", .str r.memo), ("fee", r.fee.toJson),
      ("gas_wanted", .int r.gasWanted.toInt), ("gas_used", .int r.gasUsed.toInt), ("success", .bool r.success),
      ("events", r.events)]

def TransactionRow.ofJson (j : Json) : TransactionRow where
  hash := (j.field "hash").text
  chain := (j.field "chain").text
  height := Int64.ofInt (j.field "height").number
  time := .ofJson (j.field "time")
  messageType? := (j.field "msg_type").text?
  signers := idsOfJson (j.field "signers")
  memo := (j.field "memo").text
  fee := .ofJson (j.field "fee")
  gasWanted := Int64.ofInt (j.field "gas_wanted").number
  gasUsed := Int64.ofInt (j.field "gas_used").number
  success := (j.field "success").flag
  events := j.field "events"

def headFields (h : MessageHead) : List (String × Json) :=
  [("hash", .str h.hash), ("chain", .str h.chain), ("counter", .int h.counter.toInt), ("time", h.time.toJson),
    ("signers", idsJson h.signers)]

def MessageHead.ofJson (j : Json) : MessageHead where
  hash := (j.field "hash").text
  chain := (j.field "chain").text
  counter := Int16.ofInt (j.field "counter").number
  time := .ofJson (j.field "time")
  signers := idsOfJson (j.field "signers")

def SendRow.toJson (r : SendRow) : Json :=
  .object (headFields r.head ++ [("from", .int r.sender), ("to", .int r.recipient), ("amount", coinsJson r.amount)])

def SendRow.ofJson (j : Json) : SendRow where
  head := .ofJson j
  sender := (j.field "from").number
  recipient := (j.field "to").number
  amount := coinsOfJson (j.field "amount")

def CallRow.toJson (r : CallRow) : Json :=
  .object (headFields r.head ++
    [("caller", .int r.caller), ("pkg_path", .str r.path), ("func", .str r.function), ("args", .ofStrings r.args),
      ("send", coinsJson r.send), ("max_deposit", coinsJson r.maxDeposit)])

def CallRow.ofJson (j : Json) : CallRow where
  head := .ofJson j
  caller := (j.field "caller").number
  path := (j.field "pkg_path").text
  function := (j.field "func").text
  args := (j.field "args").strings
  send := coinsOfJson (j.field "send")
  maxDeposit := coinsOfJson (j.field "max_deposit")

/-- A row whose signer stands under a name of the table's own. -/
def PackageRow.toJson (signer : String) (r : PackageRow) : Json :=
  .object (headFields r.head ++
    [(signer, .int r.signer), ("pkg_path", .str r.package.path), ("pkg_name", .str r.package.name),
      ("files", .ofStrings r.package.files), ("send", coinsJson r.send), ("max_deposit", coinsJson r.maxDeposit)])

def PackageRow.ofJson (signer : String) (j : Json) : PackageRow where
  head := .ofJson j
  signer := (j.field signer).number
  package := ⟨(j.field "pkg_path").text, (j.field "pkg_name").text, (j.field "files").strings⟩
  send := coinsOfJson (j.field "send")
  maxDeposit := coinsOfJson (j.field "max_deposit")

end ChainIndex.Storage
