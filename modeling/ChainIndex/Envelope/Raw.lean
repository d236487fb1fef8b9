import ChainIndex.Envelope.Message

/-!
# Envelopes as they stand on the wire

The messages that an envelope is built of, field by field and not yet interpreted: addresses are
raw bytes, and a typed message is a URL with the bytes of its value. Field numbers belong to the
readers and writers of these types.
-/

namespace ChainIndex.Raw

/-- A message of a type that its URL names. -/
structure Any where
  typeUrl : String := ""
  value : List UInt8 := []
  deriving DecidableEq, Repr

structure Fee where
  gasWanted : Int64 := 0
  gasFee : Option Coin := none
  deriving DecidableEq, Repr

structure Signature where
  publicKey : Option Any := none
  signature : List UInt8 := []
  deriving DecidableEq, Repr

/-- A signed envelope. -/
structure Tx where
  messages : Array Any := #[]
  fee : Option Fee := none
  signatures : Array Signature := #[]
  memo : String := ""
  deriving DecidableEq, Repr

structure File where
  name : String := ""
  body : String := ""
  deriving DecidableEq, Repr

structure Package where
  name : String := ""
  path : String := ""
  files : Array File := #[]
  deriving DecidableEq, Repr

structure Send where
  fromAddress : List UInt8 := []
  toAddress : List UInt8 := []
  amount : Array Coin := #[]
  deriving DecidableEq, Repr

structure Call where
  caller : List UInt8 := []
  send : Array Coin := #[]
  maxDeposit : Array Coin := #[]
  path : String := ""
  function : String := ""
  args : Array String := #[]
  deriving DecidableEq, Repr

structure AddPackage where
  creator : List UInt8 := []
  package : Option Package := none
  send : Array Coin := #[]
  maxDeposit : Array Coin := #[]
  deriving DecidableEq, Repr

structure Run where
  caller : List UInt8 := []
  send : Array Coin := #[]
  maxDeposit : Array Coin := #[]
  package : Option Package := none
  deriving DecidableEq, Repr

/-- The coin of an absent field. -/
def noCoin : Coin := ⟨0, ""⟩

end ChainIndex.Raw
