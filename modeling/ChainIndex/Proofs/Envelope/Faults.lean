import ChainIndex.Proofs.Envelope.RoundTrip

/-!
# What is accepted as an envelope, and what is said about the rest

An envelope is sound if its bytes are those of a transaction with few enough messages and every message is:
its URL names a type, its value is read as one of that type, and its addresses have twenty bytes
(`Raw.SoundAny`, `Raw.SoundEnvelope`). Everything else has a first fault. Which one that is, is written down
without the decoder: the wire before the number of messages, the number before any of them, an earlier message
before a later one, and within a message the URL, then the value, then the addresses in the order of their fields
(`Raw.FaultyAny`, `Raw.FaultyEnvelope`).

A message is either sound or has a fault (`Raw.sound_or_faulty`), so a list of messages is all sound or has a
first one that is not. What the decoder does in each case is one lemma for a message and one for a list.

**Theorem (`decodeTransaction_exact`).** The decoder succeeds on the sound envelopes only and leaves out none
of their messages; on any other it reports the first fault.
-/

namespace ChainIndex

namespace Raw

/-! ## Messages -/

/-- The address fields of a message, in the order in which they are looked at, under the names that a fault
gives them. -/
def Typed.fields : Typed → List (String × List UInt8)
  | .send m => [("from_address", m.fromAddress), ("to_address", m.toAddress)]
  | .call m => [("caller", m.caller)]
  | .addPackage m => [("creator", m.creator)]
  | .run m => [("caller", m.caller)]

/-- A field that holds an account. -/
def SoundField (f : String × List UInt8) : Prop :=
  f.2.length = 20

/-- A message that holds a typed one, all of whose addresses are accounts. -/
structure SoundAny (a : Any) (m : Typed) : Prop where
  typeUrl : a.typeUrl = m.type.typeUrl
  value : Typed.read m.type a.value = .ok m
  fields : ∀ f ∈ m.fields, SoundField f

/-- The first fault of a message. -/
inductive FaultyAny (a : Any) : DecodeError → Prop
  | type (unnamed : ∀ type : MessageType, a.typeUrl ≠ type.typeUrl) : FaultyAny a (.unsupportedType a.typeUrl)
  | value {type : MessageType} {e : Wire.Error} (typeUrl : a.typeUrl = type.typeUrl)
      (unread : Typed.read type a.value = .error e) : FaultyAny a (.malformed (.message type) e)
  | address {m : Typed} {before after : List (String × List UInt8)} {field : String} {raw : List UInt8}
      (typeUrl : a.typeUrl = m.type.typeUrl) (value : Typed.read m.type a.value = .ok m)
      (fields : m.fields = before ++ (field, raw) :: after) (sound : ∀ f ∈ before, SoundField f)
      (length : raw.length ≠ 20) : FaultyAny a (.invalidAddress field raw.length)

/-- All elements of a list have a property, or there is a first one that does not. -/
theorem forall_or_exists_first {α : Type} {P Q : α → Prop} (as : List α) (each : ∀ a ∈ as, P a ∨ Q a) :
    (∀ a ∈ as, P a) ∨ ∃ before a after, as = before ++ a :: after ∧ (∀ b ∈ before, P b) ∧ Q a := by
  induction as with
  | nil => exact .inl (by simp)
  | cons a as ih =>
    obtain ⟨one, more⟩ := List.forall_mem_cons.1 each
    rcases one with sound | fault
    · rcases ih more with all | ⟨before, b, after, rfl, sound', fault⟩
      · exact .inl (List.forall_mem_cons.2 ⟨sound, all⟩)
      · exact .inr ⟨a :: before, b, after, rfl, List.forall_mem_cons.2 ⟨sound, sound'⟩, fault⟩
    · exact .inr ⟨[], a, as, rfl, by simp, fault⟩

theorem type_of_read {type : MessageType} {value : List UInt8} {m : Typed} (h : Typed.read type value = .ok m) :
    m.type = type := by
  have of_map {α : Type} {typed : α → Typed} {read : Except Wire.Error α} (h : typed <$> read = .ok m) :
      ∃ x, typed x = m := by
    cases read with
    | error e => cases h
    | ok x => exact ⟨x, Except.ok.inj h⟩
  cases type <;> (obtain ⟨x, rfl⟩ := of_map h; rfl)

theorem sound_or_faulty (a : Any) : (∃ m, SoundAny a m) ∨ ∃ e, FaultyAny a e := by
  by_cases named : ∃ type : MessageType, a.typeUrl = type.typeUrl
  · obtain ⟨type, typeUrl⟩ := named
    cases value : Typed.read type a.value with
    | error e => exact .inr ⟨_, .value typeUrl value⟩
    | ok m =>
      obtain rfl := type_of_read value
      have each : ∀ f ∈ m.fields, SoundField f ∨ ¬SoundField f := fun f _ => Classical.em (SoundField f)
      rcases forall_or_exists_first m.fields each with sound | ⟨before, f, after, parts, sound, long⟩
      · exact .inl ⟨m, typeUrl, value, sound⟩
      · exact .inr ⟨_, .address typeUrl value parts sound long⟩
  · exact .inr ⟨_, .type fun type same => named ⟨type, same⟩⟩

/-! ### What the decoder makes of a message -/

theorem encodeAddress_error {field : String} {raw : List UInt8} (h : raw.length ≠ 20) :
    encodeAddress field raw = .error (.invalidAddress field raw.length) := by
  exact if_pos h

theorem SoundAny.exists_interpret {a : Any} {m : Typed} (h : SoundAny a m) :
    ∃ message, a.interpret = .ok message ∧ m.Says message := by
  have accounts : ∀ raw ∈ m.accounts, raw.length = addressLength := by
    have same : m.accounts = m.fields.map (·.2) := by cases m <;> rfl
    rw [same]
    exact List.forall_mem_map.2 h.fields
  rw [Any.interpret_of_typeUrl h.typeUrl, h.value]
  exact m.exists_interpret accounts

theorem mapM_eq_error {α β ε : Type} {f : α → Except ε β} {before after : List α} {a : α} {e : ε}
    (fine : ∀ b ∈ before, ∃ y, f b = .ok y) (fault : f a = .error e) :
    (before ++ a :: after).mapM f = .error e := by
  induction before with
  | nil =>
    rw [List.nil_append, List.mapM_cons, fault]
    rfl
  | cons b before ih =>
    obtain ⟨⟨y, one⟩, more⟩ := List.forall_mem_cons.1 fine
    rw [List.cons_append, List.mapM_cons, one, ih more]
    rfl

theorem eq_error_of_mapM {α β ε : Type} {f : α → Except ε β} {a : α} {e : ε} (h : [a].mapM f = .error e) :
    f a = .error e := by
  rw [List.mapM_cons] at h
  cases one : f a with
  | error e' =>
    rw [one] at h
    exact congrArg Except.error (Except.error.inj h)
  | ok y =>
    rw [one] at h
    cases h

/-- Addresses are looked at in the order of their fields. -/
theorem Typed.interpret_eq_error {m : Typed} {e : DecodeError}
    (h : (m.fields.mapM fun f => encodeAddress f.1 f.2) = .error e) : m.interpret = .error e := by
  cases m with
  | send m =>
    simp only [Typed.fields, List.mapM_cons, List.mapM_nil] at h
    rw [Typed.interpret, Send.interpret]
    cases sender : encodeAddress "from_address" m.fromAddress with
    | error e' =>
      rw [sender] at h
      exact congrArg Except.error (Except.error.inj h)
    | ok word =>
      rw [sender] at h
      cases recipient : encodeAddress "to_address" m.toAddress with
      | error e' =>
        rw [recipient] at h
        exact congrArg Except.error (Except.error.inj h)
      | ok word' =>
        rw [recipient] at h
        cases h
  | call m =>
    rw [Typed.interpret, Call.interpret, eq_error_of_mapM h]
    rfl
  | addPackage m =>
    rw [Typed.interpret, AddPackage.interpret, eq_error_of_mapM h]
    rfl
  | run m =>
    rw [Typed.interpret, Run.interpret, eq_error_of_mapM h]
    rfl

theorem FaultyAny.interpret {a : Any} {e : DecodeError} (h : FaultyAny a e) : a.interpret = .error e := by
  cases h with
  | type unnamed =>
    have unknown : MessageType.ofTypeUrl? a.typeUrl = none := by
      cases found : MessageType.ofTypeUrl? a.typeUrl with
      | none => rfl
      | some type => exact absurd (MessageType.typeUrl_of_ofTypeUrl? found).symm (unnamed type)
    rw [Any.interpret, unknown]
  | value typeUrl unread => rw [Any.interpret_of_typeUrl typeUrl, unread]
  | address typeUrl value fields sound length =>
    rw [Any.interpret_of_typeUrl typeUrl, value]
    refine Typed.interpret_eq_error ?_
    rw [fields]
    refine mapM_eq_error (fun f member => ?_) (encodeAddress_error length)
    obtain ⟨word, written⟩ := encodeAddress_ok (sound f member)
    exact ⟨word, written f.1⟩

/-! ## Envelopes -/

/-- An envelope that carries these messages, and they are few enough and sound. -/
structure SoundEnvelope (envelope : List UInt8) (raw : Tx) (ms : List Typed) : Prop where
  wire : Wire.decode tx {} envelope = .ok raw
  few : raw.messages.size ≤ 32767
  messages : List.Forall₂ SoundAny raw.messages.toList ms

/-- The first fault of an envelope. -/
inductive FaultyEnvelope (envelope : List UInt8) : DecodeError → Prop
  | wire {e : Wire.Error} (unread : Wire.decode tx {} envelope = .error e) :
    FaultyEnvelope envelope (.malformed .envelope e)
  | many {raw : Tx} (wire : Wire.decode tx {} envelope = .ok raw) (many : 32767 < raw.messages.size) :
    FaultyEnvelope envelope (.tooManyMessages raw.messages.size)
  | message {raw : Tx} {before after : List Any} {a : Any} {e : DecodeError}
      (wire : Wire.decode tx {} envelope = .ok raw) (few : raw.messages.size ≤ 32767)
      (parts : raw.messages.toList = before ++ a :: after) (sound : ∀ b ∈ before, ∃ m, SoundAny b m)
      (faulty : FaultyAny a e) : FaultyEnvelope envelope e

theorem exists_forall₂ {α β : Type} {R : α → β → Prop} {as : List α} (each : ∀ a ∈ as, ∃ b, R a b) :
    ∃ bs, List.Forall₂ R as bs := by
  induction as with
  | nil => exact ⟨[], .nil⟩
  | cons a as ih =>
    obtain ⟨⟨b, one⟩, more⟩ := List.forall_mem_cons.1 each
    obtain ⟨bs, rest⟩ := ih more
    exact ⟨b :: bs, .cons one rest⟩

theorem sound_or_faultyEnvelope (envelope : List UInt8) :
    (∃ raw ms, SoundEnvelope envelope raw ms) ∨ ∃ e, FaultyEnvelope envelope e := by
  cases wire : Wire.decode tx {} envelope with
  | error e => exact .inr ⟨_, .wire wire⟩
  | ok raw =>
    by_cases few : raw.messages.size ≤ 32767
    · rcases forall_or_exists_first raw.messages.toList fun a _ => sound_or_faulty a with
        sound | ⟨before, a, after, parts, sound, e, faulty⟩
      · obtain ⟨ms, messages⟩ := exists_forall₂ sound
        exact .inl ⟨raw, ms, wire, few, messages⟩
      · exact .inr ⟨e, .message wire few parts sound faulty⟩
    · exact .inr ⟨_, .many wire (Nat.lt_of_not_le few)⟩

/-! ### What the decoder makes of a list of messages -/

/-- The first message with a fault ends the list, if the numbers of the messages before it fit. -/
theorem interpretFrom_eq_error {before after : List Any} {a : Any} {e : DecodeError}
    (sound : ∀ b ∈ before, ∃ m, SoundAny b m) (faulty : FaultyAny a e) {count index : Nat}
    {done : Array NumberedMessage} (few : index + before.length ≤ maxMessages) :
    interpretFrom count done index (before ++ a :: after) = .error e := by
  induction before generalizing index done with
  | nil =>
    rw [List.length_nil] at few
    rw [List.nil_append, interpretFrom, if_neg (by omega), faulty.interpret]
  | cons b before ih =>
    rw [List.length_cons] at few
    obtain ⟨⟨m, one⟩, more⟩ := List.forall_mem_cons.1 sound
    obtain ⟨message, read, -⟩ := one.exists_interpret
    rw [List.cons_append, interpretFrom, if_neg (by omega), read]
    exact ih more (by omega)

theorem FaultyEnvelope.decodeTransaction {envelope : List UInt8} {e : DecodeError} (h : FaultyEnvelope envelope e) :
    ChainIndex.decodeTransaction envelope = .error e := by
  cases h with
  | wire unread => rw [ChainIndex.decodeTransaction, unread]
  | many wire many =>
    rw [ChainIndex.decodeTransaction, wire]
    exact if_pos many
  | @message raw before after a e wire few parts sound faulty =>
    have length : before.length < raw.messages.size := by
      rw [← Array.length_toList, parts, List.length_append, List.length_cons]
      omega
    have stopped : interpretFrom raw.messages.size #[] 0 raw.messages.toList = .error e := by
      rw [parts]
      exact interpretFrom_eq_error sound faulty (by rw [maxMessages]; omega)
    have notMany : ¬maxMessages < raw.messages.size := Nat.not_lt.2 few
    rw [ChainIndex.decodeTransaction, wire]
    simp only [Tx.interpret, if_neg notMany, stopped, bind, Except.bind]

theorem SoundEnvelope.exists_decodeTransaction {envelope : List UInt8} {raw : Tx} {ms : List Typed}
    (h : SoundEnvelope envelope raw ms) :
    ∃ t, ChainIndex.decodeTransaction envelope = .ok t ∧
      List.Forall₂ Typed.Says ms (t.messages.map (·.message)) := by
  have few := h.few
  obtain ⟨messages, read, told⟩ := exists_interpretFrom raw.messages.size 0 #[]
    (h.messages.imp fun _ _ sound => sound.exists_interpret) (by rw [Array.length_toList, maxMessages]; omega)
  obtain ⟨t, interpreted, rfl, -⟩ := interpret_ok (transactionHash envelope) few (by simpa using read)
  refine ⟨t, ?_, told⟩
  rw [ChainIndex.decodeTransaction, h.wire]
  exact interpreted

theorem Typed.Says.type {m : Typed} {message : Message} (h : m.Says message) : message.type = m.type := by
  cases h <;> rfl

theorem typeUrl_of_says {as : List Any} {ms : List Typed} {messages : List Message}
    (sound : List.Forall₂ SoundAny as ms) (told : List.Forall₂ Typed.Says ms messages) :
    messages.map (·.type.typeUrl) = as.map (·.typeUrl) := by
  induction sound generalizing messages with
  | nil =>
    cases told
    rfl
  | cons one _ ih =>
    cases told with
    | cons said rest => rw [List.map_cons, List.map_cons, ih rest, one.typeUrl, said.type]

end Raw

open Raw

/-- An envelope is decoded exactly if it is sound, and then as a whole: one message for each that it carries, under
its place and its type, and each signer once. Otherwise its first fault is reported, so that no address ever fails
to be written and no number of a message to fit. -/
theorem decodeTransaction_exact (envelope : List UInt8) :
    ((∃ t, decodeTransaction envelope = .ok t) ↔ ∃ raw ms, SoundEnvelope envelope raw ms) ∧
      (∀ t raw ms, decodeTransaction envelope = .ok t → SoundEnvelope envelope raw ms →
        t.messages.length = raw.messages.size ∧
          t.messages.map (·.counter.toInt) = (List.range raw.messages.size).map Int.ofNat ∧
          t.messages.map (·.message.type.typeUrl) = raw.messages.toList.map (·.typeUrl) ∧
          List.Forall₂ Typed.Says ms (t.messages.map (·.message)) ∧
          t.signers = (t.messages.map (·.message.signer)).eraseDups ∧ t.signers.Nodup) ∧
      (∀ e, decodeTransaction envelope = .error e ↔ FaultyEnvelope envelope e) ∧
      (∀ e, decodeTransaction envelope ≠ .error (.addressEncoding e)) ∧
      ∀ count, decodeTransaction envelope = .error (.tooManyMessages count) → 32767 < count := by
  have faults : ∀ e, decodeTransaction envelope = .error e ↔ FaultyEnvelope envelope e := by
    refine fun e => ⟨fun refused => ?_, FaultyEnvelope.decodeTransaction⟩
    rcases sound_or_faultyEnvelope envelope with ⟨raw, ms, sound⟩ | ⟨e', faulty⟩
    · obtain ⟨t, decoded, -⟩ := sound.exists_decodeTransaction
      rw [decoded] at refused
      cases refused
    · have same := faulty.decodeTransaction
      rw [refused] at same
      exact Except.error.inj same ▸ faulty
  refine ⟨⟨fun ⟨t, decoded⟩ => ?_, fun ⟨raw, ms, sound⟩ => ?_⟩, fun t raw ms decoded sound => ?_, faults,
    fun e refused => ?_, fun count refused => ?_⟩
  · rcases sound_or_faultyEnvelope envelope with sound | ⟨e, faulty⟩
    · exact sound
    · rw [faulty.decodeTransaction] at decoded
      cases decoded
  · obtain ⟨t, decoded, -⟩ := sound.exists_decodeTransaction
    exact ⟨t, decoded⟩
  · obtain ⟨t', decoded', told⟩ := sound.exists_decodeTransaction
    obtain rfl : t = t' := Except.ok.inj (decoded.symm.trans decoded')
    have form := (decoded_of_decodeTransaction decoded).2
    have length : t.messages.length = raw.messages.size := by
      rw [← Array.length_toList, sound.messages.length_eq, told.length_eq, List.length_map]
    have signers : t.signers = (t.messages.map (·.message.signer)).eraseDups :=
      form.signers.trans (firstOccurrences_eq_eraseDups _)
    refine ⟨length, length ▸ form.toInt_counters, ?_, told, signers, form.signers ▸ nodup_firstOccurrences _⟩
    rw [← typeUrl_of_says sound.messages told, List.map_map]
    rfl
  · cases (faults _).1 refused with
    | message wire few parts sound faulty => cases faulty
  · cases (faults _).1 refused with
    | many wire many => exact many
    | message wire few parts sound faulty => cases faulty

/-- A transfer whose recipient is one byte short, and after it a message of a type that nobody knows. -/
def shortRecipient : Tx :=
  { messages :=
      #[Typed.pack (.send { fromAddress := List.replicate 20 1, toAddress := List.replicate 19 1 }),
        ⟨"/vm.m_unknown", []⟩] }

theorem decodeTransaction_exact_shortRecipient :
    FaultyEnvelope shortRecipient.write (.invalidAddress "to_address" 19) ∧
      ∃ t ms, decodeTransaction depositAndRun.write = .ok t ∧ SoundEnvelope depositAndRun.write depositAndRun ms ∧
        t.messages.map (·.message.type.typeUrl) = ["/vm.m_call", "/vm.m_run"] ∧ t.signers.Nodup := by
  have refused : decodeTransaction shortRecipient.write = .error (.invalidAddress "to_address" 19) := by
    decide +kernel
  refine ⟨((decodeTransaction_exact _).2.2.1 _).1 refused, ?_⟩
  have memo : (decodeTransaction depositAndRun.write).map (·.memo) = .ok "hello" := by decide +kernel
  have short : depositAndRun.write.length < 2 ^ 64 := by decide +kernel
  cases decoded : decodeTransaction depositAndRun.write with
  | error e =>
    rw [decoded] at memo
    cases memo
  | ok t =>
    obtain ⟨exact, whole, -⟩ := decodeTransaction_exact depositAndRun.write
    obtain ⟨raw, ms, sound⟩ := exact.1 ⟨t, decoded⟩
    obtain rfl : depositAndRun = raw := Except.ok.inj (((merges_tx _).decode short).symm.trans sound.wire)
    obtain ⟨-, -, typeUrls, -, -, once⟩ := whole t _ ms decoded sound
    exact ⟨t, ms, rfl, sound, typeUrls, once⟩

end ChainIndex
