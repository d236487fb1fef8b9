import ChainIndex.Envelope.Raw
import ChainIndex.Wire.Reader

/-!
# Reading envelopes

One field reader per message. A scalar, text or byte string that occurs again replaces the earlier
one, a list grows by each occurrence, and a single message that occurs again is merged into the
earlier one.
-/

namespace ChainIndex.Raw

open Wire

/-- Reads a message that is one element of a list field. -/
def element {α β : Type} (parent field : String) (read : FieldReader β) (empty : β) (depth : Nat) (k : Key)
    (b : Buffer) (put : β → α) : Except Error (α × Buffer) := do
  let (v, b) ← inField parent field (message read depth k.wire empty b)
  .ok (put v, b)

/-- Reads a message into a field that holds one at most, on top of what the field holds. -/
def merged {α β : Type} (parent field : String) (read : FieldReader β) (held : Option β) (empty : β) (depth : Nat)
    (k : Key) (b : Buffer) (put : Option β → α) : Except Error (α × Buffer) := do
  let (v, b) ← inField parent field (message read depth k.wire (held.getD empty) b)
  .ok (put (some v), b)

def coin : FieldReader Coin := fun depth k c b =>
  match k.tag with
  | 1 => assign "Coin" "denom" (text k.wire b) fun s => { c with denom := s }
  | 2 => assign "Coin" "amount" (int64 k.wire b) fun n => { c with amount := n }
  | _ => passOver depth k c b

def any : FieldReader Any := fun depth k a b =>
  match k.tag with
  | 1 => assign "Any" "type_url" (text k.wire b) fun s => { a with typeUrl := s }
  | 2 => assign "Any" "value" (bytes k.wire b) fun v => { a with value := v }
  | _ => passOver depth k a b

def fee : FieldReader Fee := fun depth k f b =>
  match k.tag with
  | 1 => assign "Fee" "gas_wanted" (int64 k.wire b) fun n => { f with gasWanted := n }
  | 2 => merged "Fee" "gas_fee" coin f.gasFee noCoin depth k b fun c => { f with gasFee := c }
  | _ => passOver depth k f b

def signature : FieldReader Signature := fun depth k s b =>
  match k.tag with
  | 1 => merged "Signature" "pub_key" any s.publicKey {} depth k b fun a => { s with publicKey := a }
  | 2 => assign "Signature" "signature" (bytes k.wire b) fun v => { s with signature := v }
  | _ => passOver depth k s b

def tx : FieldReader Tx := fun depth k t b =>
  match k.tag with
  | 1 => element "Tx" "msgs" any {} depth k b fun a => { t with messages := t.messages.push a }
  | 2 => merged "Tx" "fee" fee t.fee {} depth k b fun f => { t with fee := f }
  | 3 => element "Tx" "signatures" signature {} depth k b fun s => { t with signatures := t.signatures.push s }
  | 4 => assign "Tx" "memo" (text k.wire b) fun s => { t with memo := s }
  | _ => passOver depth k t b

def file : FieldReader File := fun depth k f b =>
  match k.tag with
  | 1 => assign "MemFile" "name" (text k.wire b) fun s => { f with name := s }
  | 2 => assign "MemFile" "body" (text k.wire b) fun s => { f with body := s }
  | _ => passOver depth k f b

def package : FieldReader Package := fun depth k p b =>
  match k.tag with
  | 1 => assign "MemPackage" "name" (text k.wire b) fun s => { p with name := s }
  | 2 => assign "MemPackage" "path" (text k.wire b) fun s => { p with path := s }
  | 3 => element "MemPackage" "files" file {} depth k b fun f => { p with files := p.files.push f }
  | _ => passOver depth k p b

def send : FieldReader Send := fun depth k m b =>
  match k.tag with
  | 1 => assign "MsgSend" "from_address" (bytes k.wire b) fun v => { m with fromAddress := v }
  | 2 => assign "MsgSend" "to_address" (bytes k.wire b) fun v => { m with toAddress := v }
  | 3 => element "MsgSend" "amount" coin noCoin depth k b fun c => { m with amount := m.amount.push c }
  | _ => passOver depth k m b

def call : FieldReader Call := fun depth k m b =>
  match k.tag with
  | 1 => assign "MsgCall" "caller" (bytes k.wire b) fun v => { m with caller := v }
  | 2 => element "MsgCall" "send" coin noCoin depth k b fun c => { m with send := m.send.push c }
  | 3 => element "MsgCall" "max_deposit" coin noCoin depth k b fun c => { m with maxDeposit := m.maxDeposit.push c }
  | 4 => assign "MsgCall" "pkg_path" (text k.wire b) fun s => { m with path := s }
  | 5 => assign "MsgCall" "func" (text k.wire b) fun s => { m with function := s }
  | 6 => assign "MsgCall" "args" (text k.wire b) fun s => { m with args := m.args.push s }
  | _ => passOver depth k m b

def addPackage : FieldReader AddPackage := fun depth k m b =>
  match k.tag with
  | 1 => assign "MsgAddPackage" "creator" (bytes k.wire b) fun v => { m with creator := v }
  | 2 => merged "MsgAddPackage" "package" package m.package {} depth k b fun p => { m with package := p }
  | 3 => element "MsgAddPackage" "send" coin noCoin depth k b fun c => { m with send := m.send.push c }
  | 4 =>
    element "MsgAddPackage" "max_deposit" coin noCoin depth k b fun c => { m with maxDeposit := m.maxDeposit.push c }
  | _ => passOver depth k m b

def run : FieldReader Run := fun depth k m b =>
  match k.tag with
  | 1 => assign "MsgRun" "caller" (bytes k.wire b) fun v => { m with caller := v }
  | 2 => element "MsgRun" "send" coin noCoin depth k b fun c => { m with send := m.send.push c }
  | 3 => element "MsgRun" "max_deposit" coin noCoin depth k b fun c => { m with maxDeposit := m.maxDeposit.push c }
  | 4 => merged "MsgRun" "package" package m.package {} depth k b fun p => { m with package := p }
  | _ => passOver depth k m b

end ChainIndex.Raw
