import ChainIndex.Proofs.Bytes.Bech32
import ChainIndex.Proofs.Envelope.Decoded
import ChainIndex.Proofs.Envelope.Written
import Mathlib.Data.List.Induction

/-!
# The decoder gives back what was written

An envelope is written from typed messages, a fee, signatures and a memo, each message packed under the URL of
its type. The decoder accepts the bytes and gives the same messages in the same order, numbered from zero, with
accounts as words and everything else as it was. What is left out on the wire comes back as the default it
stands for: no fee as no gas and no coin, no package as one without path, name and files.

**What a message says** (`Typed.Says`). The relation between a message before it is packed and a decoded one
is written down field by field, without the decoder.

**Theorem (`decodeTransaction_write`).** For at most 32767 messages whose accounts have twenty bytes, and an
envelope shorter than 2⁶³ bytes, the decoder succeeds, and what it gives says what was written.
-/

namespace ChainIndex

/-- The elements of a list, each where it stands first, are those that are left if later repeats are erased. -/
theorem firstOccurrences_eq_eraseDups {α : Type} [BEq α] [LawfulBEq α] (as : List α) :
    firstOccurrences as = as.eraseDups := by
  induction as using List.reverseRecOn with
  | nil => rfl
  | append_singleton as a ih =>
    rw [firstOccurrences_append_singleton, List.eraseDups_append, ih]
    by_cases present : a ∈ as
    · simp [present, List.removeAll]
    · simp [present, List.removeAll, List.eraseDups_cons]

namespace Raw

/-! ## Typed messages -/

/-- A message with its type, before it is packed. -/
inductive Typed where
  | send (m : Send)
  | call (m : Call)
  | addPackage (m : AddPackage)
  | run (m : Run)

namespace Typed

def type : Typed → MessageType
  | .send _ => .send
  | .call _ => .call
  | .addPackage _ => .addPackage
  | .run _ => .run

def value : Typed → List UInt8
  | .send m => m.write
  | .call m => m.write
  | .addPackage m => m.write
  | .run m => m.write

/-- The message under the URL of its type. -/
def pack (m : Typed) : Any :=
  ⟨m.type.typeUrl, m.value⟩

/-- The raw addresses in a message. -/
def accounts : Typed → List (List UInt8)
  | .send m => [m.fromAddress, m.toAddress]
  | .call m => [m.caller]
  | .addPackage m => [m.creator]
  | .run m => [m.caller]

end Typed

/-- The word that a raw address is written as, whichever field it stands in. -/
def Word (raw : List UInt8) (word : String) : Prop :=
  ∀ field, encodeAddress field raw = .ok word

/-- What is told about a package: where it stands, its name and the names of its files. -/
inductive Tells : Option Package → ChainIndex.Package → Prop
  | absent : Tells none ⟨"", "", []⟩
  | present (p : Package) : Tells (some p) ⟨p.path, p.name, p.files.toList.map (·.name)⟩

/-- A decoded message has the type of the one that was written, and its fields. -/
inductive Typed.Says : Typed → Message → Prop
  | send {m : Send} {sender recipient : String} (sent : Word m.fromAddress sender)
      (received : Word m.toAddress recipient) :
    Says (.send m) (.send { sender, recipient, amount := m.amount.toList })
  | call {m : Call} {caller : String} (signed : Word m.caller caller) :
    Says (.call m) (.call { caller, path := m.path, function := m.function, args := m.args.toList,
                            send := m.send.toList, maxDeposit := m.maxDeposit.toList })
  | addPackage {m : AddPackage} {signer : String} {package : ChainIndex.Package} (signed : Word m.creator signer)
      (packaged : Tells m.package package) :
    Says (.addPackage m) (.addPackage { signer, package, send := m.send.toList, maxDeposit := m.maxDeposit.toList })
  | run {m : Run} {signer : String} {package : ChainIndex.Package} (signed : Word m.caller signer)
      (packaged : Tells m.package package) :
    Says (.run m) (.run { signer, package, send := m.send.toList, maxDeposit := m.maxDeposit.toList })

theorem tells_interpret (p : Option Package) : Tells p (Package.interpret p) := by
  cases p with
  | none => exact .absent
  | some p => exact .present p

/-! ## Between the wire and the decoder -/

/-- The message that a value holds, read as one of a type. -/
def Typed.read (type : MessageType) (value : List UInt8) : Except Wire.Error Typed :=
  match type with
  | .send => Typed.send <$> Wire.decode Raw.send {} value
  | .call => Typed.call <$> Wire.decode Raw.call {} value
  | .addPackage => Typed.addPackage <$> Wire.decode Raw.addPackage {} value
  | .run => Typed.run <$> Wire.decode Raw.run {} value

def Typed.interpret : Typed → Except DecodeError Message
  | .send m => m.interpret
  | .call m => m.interpret
  | .addPackage m => m.interpret
  | .run m => m.interpret

theorem wireValue_bind {α : Type} {type : MessageType} {read : Wire.FieldReader α} {empty : α} {value : List UInt8}
    {next : α → Except DecodeError Message} {typed : α → Typed} (same : ∀ m, (typed m).interpret = next m) :
    wireValue type read empty value >>= next =
      match typed <$> Wire.decode read empty value with
      | .ok m => m.interpret
      | .error e => .error (.malformed (.message type) e) := by
  rw [wireValue]
  cases Wire.decode read empty value with
  | error e => rfl
  | ok m => exact (same m).symm

/-- A message is decoded by the type of its URL: its value is read as one of the type, then interpreted. -/
theorem Any.interpret_of_typeUrl {a : Any} {type : MessageType} (named : a.typeUrl = type.typeUrl) :
    a.interpret =
      match Typed.read type a.value with
      | .ok m => m.interpret
      | .error e => .error (.malformed (.message type) e) := by
  rw [Any.interpret, named, MessageType.ofTypeUrl?_typeUrl]
  cases type <;> exact wireValue_bind fun _ => rfl

theorem Typed.read_value (m : Typed) (short : m.value.length < 2 ^ 64) : Typed.read m.type m.value = .ok m := by
  cases m with
  | send m => exact congrArg (Typed.send <$> ·) ((merges_send m).decode short)
  | call m => exact congrArg (Typed.call <$> ·) ((merges_call m).decode short)
  | addPackage m => exact congrArg (Typed.addPackage <$> ·) ((merges_addPackage m).decode short)
  | run m => exact congrArg (Typed.run <$> ·) ((merges_run m).decode short)

theorem Typed.exists_interpret (m : Typed) (accounts : ∀ raw ∈ m.accounts, raw.length = addressLength) :
    ∃ message, m.interpret = .ok message ∧ m.Says message := by
  cases m with
  | send m =>
    obtain ⟨sender, sent⟩ := encodeAddress_ok (accounts m.fromAddress (by simp [Typed.accounts]))
    obtain ⟨recipient, received⟩ := encodeAddress_ok (accounts m.toAddress (by simp [Typed.accounts]))
    refine ⟨_, ?_, .send sent received⟩
    simp only [Typed.interpret, Send.interpret, sent, received, bind, Except.bind]
  | call m =>
    obtain ⟨caller, signed⟩ := encodeAddress_ok (accounts m.caller (by simp [Typed.accounts]))
    refine ⟨_, ?_, .call signed⟩
    simp only [Typed.interpret, Call.interpret, signed, bind, Except.bind]
  | addPackage m =>
    obtain ⟨signer, signed⟩ := encodeAddress_ok (accounts m.creator (by simp [Typed.accounts]))
    refine ⟨_, ?_, .addPackage signed (tells_interpret m.package)⟩
    simp only [Typed.interpret, AddPackage.interpret, signed, bind, Except.bind]
  | run m =>
    obtain ⟨signer, signed⟩ := encodeAddress_ok (accounts m.caller (by simp [Typed.accounts]))
    refine ⟨_, ?_, .run signed (tells_interpret m.package)⟩
    simp only [Typed.interpret, Run.interpret, signed, bind, Except.bind]

theorem exists_says (m : Typed) (accounts : ∀ raw ∈ m.accounts, raw.length = addressLength)
    (short : m.value.length < 2 ^ 64) : ∃ message, m.pack.interpret = .ok message ∧ m.Says message := by
  obtain ⟨message, read, told⟩ := m.exists_interpret accounts
  refine ⟨message, ?_, told⟩
  rw [Any.interpret_of_typeUrl rfl, Typed.pack, m.read_value short]
  exact read

/-! ## Envelopes -/

/-- The messages are decoded one after the other, as long as their numbers fit. -/
theorem exists_interpretFrom (count index : Nat) (done : Array NumberedMessage) {as : List Any} {ms : List Typed}
    (readable : List.Forall₂ (fun a m => ∃ message, a.interpret = .ok message ∧ Typed.Says m message) as ms)
    (few : index + as.length ≤ maxMessages + 1) :
    ∃ later, interpretFrom count done index as = .ok (done.toList ++ later) ∧
      List.Forall₂ Typed.Says ms (later.map (·.message)) := by
  induction readable generalizing index done with
  | nil => exact ⟨[], by simp [interpretFrom], .nil⟩
  | @cons a m as ms one more ih =>
    rw [List.length_cons] at few
    obtain ⟨message, read, told⟩ := one
    obtain ⟨later, decoded, told'⟩ := ih (index + 1) (done.push ⟨Int16.ofNat index, message⟩) (by omega)
    refine ⟨⟨Int16.ofNat index, message⟩ :: later, ?_, .cons told told'⟩
    rw [interpretFrom, if_neg (by omega), read]
    simpa using decoded

theorem interpret_ok (hash : String) {raw : Tx} {messages : List NumberedMessage}
    (few : raw.messages.size ≤ maxMessages)
    (read : interpretFrom raw.messages.size #[] 0 raw.messages.toList = .ok messages) :
    ∃ t, raw.interpret hash = .ok t ∧ t.messages = messages ∧ t.memo = raw.memo ∧
      t.gasWanted = (raw.fee.map (·.gasWanted)).getD 0 ∧ t.fee = (raw.fee.bind (·.gasFee)).getD noCoin := by
  rw [Tx.interpret]
  simp only [if_neg (Nat.not_lt.2 few), read, bind, Except.bind]
  refine ⟨_, rfl, rfl, rfl, ?_⟩
  cases raw.fee with
  | none => exact ⟨rfl, rfl⟩
  | some fee => exact ⟨rfl, rfl⟩

/-- An envelope of typed messages. -/
def envelope (ms : List Typed) (fee : Option Fee) (signatures : List Signature) (memo : String) : Tx :=
  { messages := (ms.map Typed.pack).toArray, fee, signatures := signatures.toArray, memo }

theorem length_value_le {m : Typed} {ms : List Typed} (member : m ∈ ms) (fee : Option Fee)
    (signatures : List Signature) (memo : String) :
    m.value.length ≤ (envelope ms fee signatures memo).write.length := by
  have packed : m.value.length ≤ m.pack.write.length := by
    have held : m.value.length ≤ (Wire.Writer.bytes 2 m.value).length := by
      unfold Wire.Writer.bytes
      split
      · next nothing => simp [nothing]
      · simp only [Wire.Writer.delimited, List.length_append]
        omega
    simp only [Any.write, Typed.pack, List.length_append] at held ⊢
    omega
  obtain ⟨before, after, rfl⟩ := List.append_of_mem member
  simp only [Tx.write, envelope, Wire.Writer.messages, Wire.Writer.delimited, List.map_append, List.map_cons,
    List.flatMap_append, List.flatMap_cons, List.length_append]
  omega

end Raw

open Raw

/-- Any few messages in any order, with any fee, memo and signatures, come back as they were written. -/
theorem decodeTransaction_write {ms : List Typed} {fee : Option Fee} {signatures : List Signature} {memo : String}
    (few : ms.length ≤ 32767) (accounts : ∀ m ∈ ms, ∀ raw ∈ m.accounts, raw.length = 20)
    (short : (envelope ms fee signatures memo).write.length < 2 ^ 63) :
    ∃ t, decodeTransaction (envelope ms fee signatures memo).write = .ok t ∧
      List.Forall₂ Typed.Says ms (t.messages.map (·.message)) ∧
      t.messages.map (·.counter.toInt) = (List.range ms.length).map Int.ofNat ∧
      t.memo = memo ∧
      t.gasWanted = (fee.map (·.gasWanted)).getD 0 ∧
      t.fee = (fee.bind (·.gasFee)).getD ⟨0, ""⟩ ∧
      t.signers = (t.messages.map (·.message.signer)).eraseDups ∧
      t.hash = transactionHash (envelope ms fee signatures memo).write := by
  have readable : List.Forall₂ (fun a m => ∃ message, a.interpret = .ok message ∧ Typed.Says m message)
      (ms.map Typed.pack) ms := List.forall₂_map_left_iff.2 <| List.forall₂_same.2 fun m member =>
    exists_says m (accounts m member) (by have := length_value_le member fee signatures memo; omega)
  obtain ⟨messages, read, told⟩ :=
    exists_interpretFrom ms.length 0 #[] readable (by rw [List.length_map, maxMessages]; omega)
  obtain ⟨t, interpreted, rfl, kept⟩ :=
    interpret_ok (transactionHash (envelope ms fee signatures memo).write)
      (show (envelope ms fee signatures memo).messages.size ≤ maxMessages by simpa [envelope, maxMessages] using few)
      (by simpa [envelope] using read)
  have decoded : decodeTransaction (envelope ms fee signatures memo).write = .ok t := by
    rw [decodeTransaction, (merges_tx _).decode (by omega)]
    exact interpreted
  obtain ⟨hash, form⟩ := decoded_of_decodeTransaction decoded
  have counters : t.messages.map (·.counter.toInt) = (List.range ms.length).map Int.ofNat := by
    have same : t.messages.length = ms.length := by simpa using told.length_eq.symm
    rw [form.toInt_counters, same]
  exact ⟨t, decoded, told, counters, kept.1, kept.2.1, kept.2.2, form.signers.trans (firstOccurrences_eq_eraseDups _),
    hash⟩

/-- A deposit into a realm, and a run without a package by the same account. -/
def depositAndRun : Tx :=
  envelope
    [.call { caller := List.replicate 20 1, send := #[⟨-5, "ugnot"⟩], path := "gno.land/r/bank", function := "Put" },
      .run { caller := List.replicate 20 1 }]
    (some ⟨2000, some ⟨7, "ugnot"⟩⟩) [] "hello"

theorem decodeTransaction_depositAndRun :
    depositAndRun.write.length < 2 ^ 63 ∧
      ∃ t, decodeTransaction depositAndRun.write = .ok t ∧ t.messages.map (·.counter.toInt) = [0, 1] ∧
        t.memo = "hello" ∧ t.gasWanted = 2000 ∧ t.fee = ⟨7, "ugnot"⟩ := by
  have short : depositAndRun.write.length < 2 ^ 63 := by decide +kernel
  obtain ⟨t, decoded, -, counters, memo, gasWanted, fee, -⟩ :=
    decodeTransaction_write (by decide) (by simp [Typed.accounts]) short
  exact ⟨short, t, decoded, counters, memo, gasWanted, fee⟩

end ChainIndex
