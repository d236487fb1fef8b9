import ChainIndex.Sql.Insert

/-!
# The tables

How the rows of each kind are written: the statement, how many columns it names, and the values of a row in their
order.
-/

namespace ChainIndex.Sql

open Storage

namespace Param

/-- A text that is there. -/
def ofText (s : String) : Param := .text (some s)

def ofTime (t : Moment) : Param := .time (micros t)

end Param

/-- Addresses of a space. -/
def addresses (space : AddressSpace) : Table String where
  operation := "insert_addresses"
  opening := "INSERT INTO " ++ space.role.table ++ " (address, chain_name) "
  width := 2
  bind address := [.ofText address, .ofText space.chain]

def blocks : Table BlockRow where
  operation := "insert_blocks"
  opening := "INSERT INTO blocks (hash, height, timestamp, chain_name, proposer_address, txs) "
  width := 6
  bind row :=
    [.bytes row.hash, .int8 row.height, .ofTime row.time, .ofText row.chain, .int4 row.proposer,
      .texts row.transactions]

def signings : Table SigningRow where
  operation := "insert_validator_block_signings"
  opening := "INSERT INTO validator_block_signing (block_height, timestamp, chain_name, proposer, signed_vals) "
  width := 5
  bind row := [.int8 row.height, .ofTime row.time, .ofText row.chain, .int4 row.proposer, .int4s row.signed]

def transactions : Table TransactionRow where
  operation := "insert_transactions_general"
  opening :=
    "INSERT INTO transaction_general (tx_hash, chain_name, block_height, timestamp, msg_type, signers, memo, " ++
      "fee_amount, fee_denom, gas_wanted, gas_used, success, events) "
  width := 13
  bind row :=
    [.ofText row.hash, .ofText row.chain, .int8 row.height, .ofTime row.time, .text row.messageType?,
      .int4s row.signers, .ofText row.memo, .int8 row.fee.amount, .ofText row.fee.denom, .int8 row.gasWanted,
      .int8 row.gasUsed, .bool row.success, .json row.events]

/-! ## Messages -/

/-- The values that the rows of all messages begin with. -/
def headValues (head : MessageHead) : List Param :=
  [.ofText head.hash, .ofText head.chain, .int2 head.counter, .ofTime head.time, .int4s head.signers]

def sends : Table SendRow where
  operation := "insert_msg_send"
  opening :=
    "INSERT INTO bank_msg_send (tx_hash, chain_name, message_counter, timestamp, signers, from_address, " ++
      "to_address, amount) "
  width := 8
  bind row := headValues row.head ++ [.int4 row.sender, .int4 row.recipient, coins row.amount]

def calls : Table CallRow where
  operation := "insert_msg_call"
  opening :=
    "INSERT INTO vm_msg_call (tx_hash, chain_name, message_counter, timestamp, signers, caller, pkg_path, " ++
      "func_name, args, send, max_deposit) "
  width := 11
  bind row :=
    headValues row.head ++
      [.int4 row.caller, .ofText row.path, .ofText row.function, .texts row.args, coins row.send,
        coins row.maxDeposit]

/-- The values of a message with a package. -/
def packageValues (row : PackageRow) : List Param :=
  headValues row.head ++
    [.int4 row.signer, .ofText row.package.path, .ofText row.package.name, .texts row.package.files,
      coins row.send, coins row.maxDeposit]

def packages : Table PackageRow where
  operation := "insert_msg_add_package"
  opening :=
    "INSERT INTO vm_msg_add_package (tx_hash, chain_name, message_counter, timestamp, signers, creator, " ++
      "pkg_path, pkg_name, pkg_file_names, send, max_deposit) "
  width := 11
  bind := packageValues

def runs : Table PackageRow where
  operation := "insert_msg_run"
  opening :=
    "INSERT INTO vm_msg_run (tx_hash, chain_name, message_counter, timestamp, signers, caller, pkg_path, " ++
      "pkg_name, pkg_file_names, send, max_deposit) "
  width := 11
  bind := packageValues

end ChainIndex.Sql
