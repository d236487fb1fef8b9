import ChainIndex.Bytes.Sha256
import ChainIndex.Envelope.Address
import ChainIndex.Envelope.Reader
import ChainIndex.Text.Blank

/-!
# Decoding signed envelopes

An envelope is accepted as a whole or not at all. The bytes are read as an envelope first; then the
number of messages is held against the limit; then each message is decoded in order: its URL, its
value, its addresses. The first fault on this way is the one reported.
-/

namespace ChainIndex

/-- The key of a transaction: the digest of its envelope, in base64. -/
def transactionHash (envelope : List UInt8) : String :=
  Base64.encodeText (Sha256.digest envelope)

/-- The elements of a list, each where it stands first. -/
def firstOccurrences {α : Type} [BEq α] (as : List α) : List α :=
  (as.foldl (fun seen a => if seen.contains a then seen else seen.push a) (#[] : Array α)).toList

namespace Raw

def Package.interpret (p : Option Package) : ChainIndex.Package :=
  let p := p.getD {}
  { path := p.path, name := p.name, files := p.files.toList.map (·.name) }

/-- Reads the value of a message of a known type. -/
def wireValue {α : Type} (type : MessageType) (read : Wire.FieldReader α) (empty : α) (value : List UInt8) :
    Except DecodeError α :=
  match Wire.decode read empty value with
  | .ok a => .ok a
  | .error e => .error (.malformed (.message type) e)

def Send.interpret (m : Send) : Except DecodeError Message := do
  let sender ← encodeAddress "from_address" m.fromAddress
  let recipient ← encodeAddress "to_address" m.toAddress
  .ok (.send { sender, recipient, amount := m.amount.toList })

def Call.interpret (m : Call) : Except DecodeError Message := do
  let caller ← encodeAddress "caller" m.caller
  .ok (.call
    { caller, path := m.path, function := m.function, args := m.args.toList, send := m.send.toList
      maxDeposit := m.maxDeposit.toList })

def AddPackage.interpret (m : AddPackage) : Except DecodeError Message := do
  let signer ← encodeAddress "creator" m.creator
  .ok (.addPackage
    { signer, package := Package.interpret m.package, send := m.send.toList, maxDeposit := m.maxDeposit.toList })

def Run.interpret (m : Run) : Except DecodeError Message := do
  let signer ← encodeAddress "caller" m.caller
  .ok (.run
    { signer, package := Package.interpret m.package, send := m.send.toList, maxDeposit := m.maxDeposit.toList })

/-- Decodes a message by the type that its URL names. -/
def Any.interpret (a : Any) : Except DecodeError Message :=
  match MessageType.ofTypeUrl? a.typeUrl with
  | none => .error (.unsupportedType a.typeUrl)
  | some .send => wireValue .send send {} a.value >>= Send.interpret
  | some .call => wireValue .call call {} a.value >>= Call.interpret
  | some .addPackage => wireValue .addPackage addPackage {} a.value >>= AddPackage.interpret
  | some .run => wireValue .run run {} a.value >>= Run.interpret

/-- Decodes the messages from a position on; `count` is how many the envelope carries. -/
def interpretFrom (count : Nat) (done : Array NumberedMessage) :
    (index : Nat) → List Any → Except DecodeError (List NumberedMessage)
  | _, [] => .ok done.toList
  | index, a :: rest =>
    if maxMessages < index then
      .error (.tooManyMessages count)
    else
      match a.interpret with
      | .error e => .error e
      | .ok message => interpretFrom count (done.push ⟨Int16.ofNat index, message⟩) (index + 1) rest

def Tx.interpret (hash : String) (t : Tx) : Except DecodeError Transaction := do
  let count := t.messages.size
  if maxMessages < count then
    .error (.tooManyMessages count)
  else
    let messages ← interpretFrom count #[] 0 t.messages.toList
    let fee := t.fee.getD {}
    .ok
      { hash, messages
        signers := firstOccurrences (messages.map (·.message.signer))
        memo := t.memo
        fee := fee.gasFee.getD noCoin
        gasWanted := fee.gasWanted }

end Raw

/-- Decodes an envelope. -/
def decodeTransaction (envelope : List UInt8) : Except DecodeError Transaction :=
  match Wire.decode Raw.tx {} envelope with
  | .error e => .error (.malformed .envelope e)
  | .ok t => t.interpret (transactionHash envelope)

/-- The bytes of an envelope given as base64, with white space around it. -/
def envelopeOfText (text : String) : Except DecodeError (List UInt8) :=
  match Base64.decodeText (Text.trim text) with
  | .ok envelope => .ok envelope
  | .error e => .error (.invalidBase64 e)

/-- Decodes an envelope given as base64. -/
def decodeTransactionText (text : String) : Except DecodeError Transaction :=
  envelopeOfText text >>= decodeTransaction

/-- The key of a transaction whose envelope is given as base64. -/
def transactionHashOfText (text : String) : Except DecodeError String :=
  transactionHash <$> envelopeOfText text

end ChainIndex
