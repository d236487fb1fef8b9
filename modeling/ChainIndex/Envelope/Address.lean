import ChainIndex.Bytes.Base64
import ChainIndex.Bytes.Bech32
import ChainIndex.Envelope.Message
import ChainIndex.Wire.Fault

/-!
# Account addresses and the faults of envelopes

An account is twenty raw bytes on the wire and a bech32 word that starts with `g1` everywhere else.
-/

namespace ChainIndex

/-- What is decoded when the wire format is violated: the envelope, or the value of a message. -/
inductive WireContext where
  | envelope
  | message (type : MessageType)
  deriving DecidableEq, Repr

def WireContext.name : WireContext → String
  | .envelope => "transaction envelope"
  | .message type => type.wireName

/-- A transaction carries this many messages at most. -/
def maxMessages : Nat := 32767

/-- Why an envelope is refused. -/
inductive DecodeError where
  | invalidBase64 (e : Base64.Error)
  | malformed (context : WireContext) (e : Wire.Error)
  | unsupportedType (typeUrl : String)
  | invalidAddress (field : String) (length : Nat)
  | addressEncoding (e : Bech32.Error)
  | tooManyMessages (count : Nat)
  deriving DecidableEq, Repr

def DecodeError.message : DecodeError → String
  | .invalidBase64 e => "Invalid base64 envelope: " ++ e.message
  | .malformed context e => "Malformed " ++ context.name ++ ": " ++ e.message
  | .unsupportedType typeUrl => "Unsupported message type: " ++ typeUrl
  | .invalidAddress field length =>
    "Invalid address in " ++ field ++ ": expected 20 bytes, got " ++ toString length
  | .addressEncoding e => "Address encoding failed: " ++ e.message
  | .tooManyMessages count =>
    "Transaction carries " ++ toString count ++ " messages, more than the limit of " ++ toString maxMessages

/-- The length of a raw address. -/
def addressLength : Nat := 20

/-- The word for a raw address that was found in a field. -/
def encodeAddress (field : String) (raw : List UInt8) : Except DecodeError String :=
  if raw.length ≠ addressLength then
    .error (.invalidAddress field raw.length)
  else
    match Bech32.encode "g" raw with
    | .ok word => .ok word
    | .error e => .error (.addressEncoding e)

end ChainIndex
