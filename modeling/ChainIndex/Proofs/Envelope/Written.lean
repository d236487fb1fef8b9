import ChainIndex.Envelope.Writer
import ChainIndex.Proofs.Wire.Fields

/-!
# Written envelopes

Every message of an envelope comes back from the bytes that its writer gives. A reader starts from the empty
message, and each rule of `Merges` fills in one field, in the order in which the writer puts them. The numbers
of the fields, whether one holds a value, a list or a message at most, and which part of the message it is, are
the reader's on one side and the writer's on the other; the proofs here are the places where the two meet.
-/

namespace ChainIndex.Raw

open Wire

variable {depth : Nat}

/-! ## Parts -/

theorem merges_coin (c : Coin) : Merges coin depth (writeCoin c) noCoin c := by
  have denom : Merges coin depth (Writer.text 1 c.denom) noCoin ⟨0, c.denom⟩ :=
    .text (fun s => ⟨0, s⟩) (by decide) (fun _ _ => rfl) rfl rfl
  have amount : Merges coin depth (Writer.int64 2 c.amount) ⟨0, c.denom⟩ c :=
    .int64 (fun n => ⟨n, c.denom⟩) (by decide) (fun _ _ => rfl) rfl rfl
  exact denom.append amount

theorem merges_any (m : Any) : Merges any depth m.write {} m := by
  have typeUrl : Merges any depth (Writer.text 1 m.typeUrl) {} { typeUrl := m.typeUrl } :=
    .text (fun s => { typeUrl := s }) (by decide) (fun _ _ => rfl) rfl rfl
  have value : Merges any depth (Writer.bytes 2 m.value) { typeUrl := m.typeUrl } m :=
    .bytes (fun v => { m with value := v }) (by decide) (fun _ _ => rfl) rfl rfl
  exact typeUrl.append value

theorem merges_fee (f : Fee) : Merges fee (depth + 1) f.write {} f := by
  have gasWanted : Merges fee (depth + 1) (Writer.int64 1 f.gasWanted) {} { gasWanted := f.gasWanted } :=
    .int64 (fun n => { gasWanted := n }) (by decide) (fun _ _ => rfl) rfl rfl
  have gasFee : Merges fee (depth + 1) (Writer.message? 2 writeCoin f.gasFee) { gasWanted := f.gasWanted } f :=
    .message? (fun c => { f with gasFee := c }) (by decide) (fun _ _ => rfl) rfl rfl merges_coin
  exact gasWanted.append gasFee

theorem merges_signature (s : Signature) : Merges signature (depth + 1) s.write {} s := by
  have publicKey : Merges signature (depth + 1) (Writer.message? 1 Any.write s.publicKey) {}
      { publicKey := s.publicKey } :=
    .message? (fun k => { publicKey := k }) (by decide) (fun _ _ => rfl) rfl rfl merges_any
  have written : Merges signature (depth + 1) (Writer.bytes 2 s.signature) { publicKey := s.publicKey } s :=
    .bytes (fun v => { s with signature := v }) (by decide) (fun _ _ => rfl) rfl rfl
  exact publicKey.append written

theorem merges_file (f : File) : Merges file depth f.write {} f := by
  have name : Merges file depth (Writer.text 1 f.name) {} { name := f.name } :=
    .text (fun s => { name := s }) (by decide) (fun _ _ => rfl) rfl rfl
  have body : Merges file depth (Writer.text 2 f.body) { name := f.name } f :=
    .text (fun s => { f with body := s }) (by decide) (fun _ _ => rfl) rfl rfl
  exact name.append body

theorem merges_package (p : Package) : Merges package (depth + 1) p.write {} p := by
  have name : Merges package (depth + 1) (Writer.text 1 p.name) {} { name := p.name } :=
    .text (fun s => { name := s }) (by decide) (fun _ _ => rfl) rfl rfl
  have path : Merges package (depth + 1) (Writer.text 2 p.path) { name := p.name } { p with files := #[] } :=
    .text (fun s => { name := p.name, path := s }) (by decide) (fun _ _ => rfl) rfl rfl
  have files : Merges package (depth + 1) (Writer.messages 3 File.write p.files.toList) { p with files := #[] } p :=
    .messages (fun fs => { p with files := fs }) (by decide) (fun _ _ _ => rfl) rfl rfl merges_file
  exact (name.append path).append files

/-! ## Typed messages -/

theorem merges_send (m : Send) : Merges send (depth + 1) m.write {} m := by
  have sender : Merges send (depth + 1) (Writer.bytes 1 m.fromAddress) {} { fromAddress := m.fromAddress } :=
    .bytes (fun v => { fromAddress := v }) (by decide) (fun _ _ => rfl) rfl rfl
  have recipient : Merges send (depth + 1) (Writer.bytes 2 m.toAddress) { fromAddress := m.fromAddress }
      { m with amount := #[] } :=
    .bytes (fun v => { fromAddress := m.fromAddress, toAddress := v }) (by decide) (fun _ _ => rfl) rfl rfl
  have amount : Merges send (depth + 1) (Writer.messages 3 writeCoin m.amount.toList) { m with amount := #[] } m :=
    .messages (fun cs => { m with amount := cs }) (by decide) (fun _ _ _ => rfl) rfl rfl merges_coin
  exact (sender.append recipient).append amount

theorem merges_call (m : Call) : Merges call (depth + 1) m.write {} m := by
  have caller : Merges call (depth + 1) (Writer.bytes 1 m.caller) {} { caller := m.caller } :=
    .bytes (fun v => { caller := v }) (by decide) (fun _ _ => rfl) rfl rfl
  have sent : Merges call (depth + 1) (Writer.messages 2 writeCoin m.send.toList) { caller := m.caller }
      { caller := m.caller, send := m.send } :=
    .messages (fun cs => { caller := m.caller, send := cs }) (by decide) (fun _ _ _ => rfl) rfl rfl merges_coin
  have maxDeposit : Merges call (depth + 1) (Writer.messages 3 writeCoin m.maxDeposit.toList)
      { caller := m.caller, send := m.send } { m with path := "", function := "", args := #[] } :=
    .messages (fun cs => { caller := m.caller, send := m.send, maxDeposit := cs }) (by decide) (fun _ _ _ => rfl)
      rfl rfl merges_coin
  have path : Merges call (depth + 1) (Writer.text 4 m.path) { m with path := "", function := "", args := #[] }
      { m with function := "", args := #[] } :=
    .text (fun s => { m with path := s, function := "", args := #[] }) (by decide) (fun _ _ => rfl) rfl rfl
  have function : Merges call (depth + 1) (Writer.text 5 m.function) { m with function := "", args := #[] }
      { m with args := #[] } :=
    .text (fun s => { m with function := s, args := #[] }) (by decide) (fun _ _ => rfl) rfl rfl
  have args : Merges call (depth + 1) (Writer.texts 6 m.args.toList) { m with args := #[] } m :=
    .texts (fun ss => { m with args := ss }) (by decide) (fun _ _ _ => rfl) rfl rfl
  exact ((((caller.append sent).append maxDeposit).append path).append function).append args

theorem merges_addPackage (m : AddPackage) : Merges addPackage (depth + 2) m.write {} m := by
  have creator : Merges addPackage (depth + 2) (Writer.bytes 1 m.creator) {} { creator := m.creator } :=
    .bytes (fun v => { creator := v }) (by decide) (fun _ _ => rfl) rfl rfl
  have stored : Merges addPackage (depth + 2) (Writer.message? 2 Package.write m.package) { creator := m.creator }
      { m with send := #[], maxDeposit := #[] } :=
    .message? (fun p => { creator := m.creator, package := p }) (by decide) (fun _ _ => rfl) rfl rfl merges_package
  have sent : Merges addPackage (depth + 2) (Writer.messages 3 writeCoin m.send.toList)
      { m with send := #[], maxDeposit := #[] } { m with maxDeposit := #[] } :=
    .messages (fun cs => { m with send := cs, maxDeposit := #[] }) (by decide) (fun _ _ _ => rfl) rfl rfl merges_coin
  have maxDeposit : Merges addPackage (depth + 2) (Writer.messages 4 writeCoin m.maxDeposit.toList)
      { m with maxDeposit := #[] } m :=
    .messages (fun cs => { m with maxDeposit := cs }) (by decide) (fun _ _ _ => rfl) rfl rfl merges_coin
  exact ((creator.append stored).append sent).append maxDeposit

theorem merges_run (m : Run) : Merges run (depth + 2) m.write {} m := by
  have caller : Merges run (depth + 2) (Writer.bytes 1 m.caller) {} { caller := m.caller } :=
    .bytes (fun v => { caller := v }) (by decide) (fun _ _ => rfl) rfl rfl
  have sent : Merges run (depth + 2) (Writer.messages 2 writeCoin m.send.toList) { caller := m.caller }
      { m with maxDeposit := #[], package := none } :=
    .messages (fun cs => { caller := m.caller, send := cs }) (by decide) (fun _ _ _ => rfl) rfl rfl merges_coin
  have maxDeposit : Merges run (depth + 2) (Writer.messages 3 writeCoin m.maxDeposit.toList)
      { m with maxDeposit := #[], package := none } { m with package := none } :=
    .messages (fun cs => { m with maxDeposit := cs, package := none }) (by decide) (fun _ _ _ => rfl) rfl rfl
      merges_coin
  have ran : Merges run (depth + 2) (Writer.message? 4 Package.write m.package) { m with package := none } m :=
    .message? (fun p => { m with package := p }) (by decide) (fun _ _ => rfl) rfl rfl merges_package
  exact ((caller.append sent).append maxDeposit).append ran

/-! ## Envelopes -/

theorem merges_tx (t : Tx) : Merges tx (depth + 2) t.write {} t := by
  have messages : Merges tx (depth + 2) (Writer.messages 1 Any.write t.messages.toList) {}
      { messages := t.messages } :=
    .messages (fun ms => { messages := ms }) (by decide) (fun _ _ _ => rfl) rfl rfl merges_any
  have paid : Merges tx (depth + 2) (Writer.message? 2 Fee.write t.fee) { messages := t.messages }
      { t with signatures := #[], memo := "" } :=
    .message? (fun f => { messages := t.messages, fee := f }) (by decide) (fun _ _ => rfl) rfl rfl merges_fee
  have signatures : Merges tx (depth + 2) (Writer.messages 3 Signature.write t.signatures.toList)
      { t with signatures := #[], memo := "" } { t with memo := "" } :=
    .messages (fun ss => { t with signatures := ss, memo := "" }) (by decide) (fun _ _ _ => rfl) rfl rfl
      merges_signature
  have memo : Merges tx (depth + 2) (Writer.text 4 t.memo) { t with memo := "" } t :=
    .text (fun s => { t with memo := s }) (by decide) (fun _ _ => rfl) rfl rfl
  exact ((messages.append paid).append signatures).append memo

end ChainIndex.Raw
