/-!
# Typed messages of a transaction

A transaction carries messages of four types. Each type has a URL, by which it is recognised on the
wire, and a name, under which it is stored. Every message is signed by one account; a transfer also
names the account that receives it.
-/

namespace ChainIndex

/-- An amount of one denomination. -/
structure Coin where
  amount : Int64
  denom : String
  deriving DecidableEq, Repr, Inhabited

/-- The four types of messages. -/
inductive MessageType where
  | send | call | addPackage | run
  deriving DecidableEq, Repr

namespace MessageType

def all : List MessageType := [.send, .call, .addPackage, .run]

/-- The name under which messages of the type are stored. -/
def name : MessageType → String
  | .send => "bank_msg_send"
  | .call => "vm_msg_call"
  | .addPackage => "vm_msg_add_package"
  | .run => "vm_msg_run"

/-- The name of the type in its module, as faults report it. -/
def wireName : MessageType → String
  | .send => "bank.MsgSend"
  | .call => "vm.m_call"
  | .addPackage => "vm.m_addpkg"
  | .run => "vm.m_run"

/-- The URL by which the type is recognised on the wire. -/
def typeUrl : MessageType → String
  | .send => "/bank.MsgSend"
  | .call => "/vm.m_call"
  | .addPackage => "/vm.m_addpkg"
  | .run => "/vm.m_run"

def ofTypeUrl? (url : String) : Option MessageType :=
  all.find? (·.typeUrl == url)

@[simp] theorem ofTypeUrl?_typeUrl (t : MessageType) : ofTypeUrl? t.typeUrl = some t := by
  cases t <;> decide

theorem typeUrl_of_ofTypeUrl? {url : String} {t : MessageType} (h : ofTypeUrl? url = some t) :
    t.typeUrl = url := by
  simpa using List.find?_some h

end MessageType

/-- Source files under a path. -/
structure Package where
  path : String
  name : String
  files : List String
  deriving DecidableEq, Repr, Inhabited

/-- A transfer of coins. -/
structure SendMessage where
  sender : String
  recipient : String
  amount : List Coin
  deriving DecidableEq, Repr, Inhabited

/-- A call of a function that stands on the chain. -/
structure CallMessage where
  caller : String
  path : String
  function : String
  args : List String
  send : List Coin
  maxDeposit : List Coin
  deriving DecidableEq, Repr, Inhabited

/-- A package with the account that pays for it: to be stored on the chain, or to be run once. -/
structure PackageMessage where
  signer : String
  package : Package
  send : List Coin
  maxDeposit : List Coin
  deriving DecidableEq, Repr, Inhabited

inductive Message where
  | send (m : SendMessage)
  | call (m : CallMessage)
  | addPackage (m : PackageMessage)
  | run (m : PackageMessage)
  deriving DecidableEq, Repr

namespace Message

def type : Message → MessageType
  | .send _ => .send
  | .call _ => .call
  | .addPackage _ => .addPackage
  | .run _ => .run

/-- The account that signs the message. -/
def signer : Message → String
  | .send m => m.sender
  | .call m => m.caller
  | .addPackage m => m.signer
  | .run m => m.signer

/-- Every account that the message names. -/
def addresses : Message → List String
  | .send m => [m.sender, m.recipient]
  | m => [m.signer]

theorem signer_mem_addresses (m : Message) : m.signer ∈ m.addresses := by
  cases m <;> simp [addresses, signer]

end Message

/-- A message with its place in the transaction, counted from zero. -/
structure NumberedMessage where
  counter : Int16
  message : Message
  deriving DecidableEq, Repr

/-- What a signed envelope says, apart from its signatures. -/
structure Transaction where
  /-- The digest of the envelope, the key under which the transaction is stored. -/
  hash : String
  /-- The messages' signers, each once, in the order of their first messages. -/
  signers : List String
  memo : String
  fee : Coin
  gasWanted : Int64
  messages : List NumberedMessage
  deriving DecidableEq, Repr

/-- The type under which a transaction is stored: that of its first message. -/
def Transaction.type? (t : Transaction) : Option MessageType :=
  t.messages.head?.map (·.message.type)

end ChainIndex
