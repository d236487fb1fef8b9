import ChainIndex.Proofs.Rows.Ids
import Mathlib.Data.List.Forall2

/-!
# What rows record

A row records the item that it was built of: it repeats its fields, and where the item names an
address the row has an id that `means` it. The ids of a list of addresses stand in the order of the
addresses, one for each.

**Rows record their items** (`blockRow_eq_ok` and the like). An item yields exactly the row that
records it with the ids of the book at hand, and yields none if an address has no id there. So a row
stays what it is while ids are added, and depends only on the ids of the addresses that it names.
-/

namespace ChainIndex

open Storage

variable {ε α β : Type}

/-! ## Looking ids up -/

theorem bind_eq_ok {x : Except ε α} {f : α → Except ε β} {b : β} :
    (x >>= f) = .ok b ↔ ∃ a, x = .ok a ∧ f a = .ok b := by
  cases x with
  | ok a => exact ⟨fun h => ⟨a, rfl, h⟩, fun ⟨_, same, h⟩ => by cases same; exact h⟩
  | error e => exact ⟨nofun, fun ⟨_, same, _⟩ => nomatch same⟩

theorem pure_eq_ok {a b : α} : (pure a : Except ε α) = .ok b ↔ a = b :=
  ⟨Except.ok.inj, congrArg Except.ok⟩

/-- A list is mapped if every element is, each to the element at its place. -/
theorem mapM_eq_ok {f : α → Except ε β} {as : List α} {bs : List β} :
    as.mapM f = .ok bs ↔ List.Forall₂ (fun a b => f a = .ok b) as bs := by
  induction as generalizing bs with
  | nil => rw [List.mapM_nil, pure_eq_ok, List.forall₂_nil_left_iff, eq_comm]
  | cons a as ih =>
    simp only [List.mapM_cons, bind_eq_ok, pure_eq_ok, List.forall₂_cons_left_iff]
    constructor
    · rintro ⟨b, at_, bs', rest, rfl⟩
      exact ⟨b, bs', at_, ih.1 rest, rfl⟩
    · rintro ⟨b, bs', at_, rest, rfl⟩
      exact ⟨b, at_, bs', ih.2 rest, rfl⟩

/-- The id that a book gives for an address; zero is none. -/
def Gives (ids : AddressIds) (address : String) (id : AddressId) : Prop := ids[address]? = some id ∧ id ≠ 0

theorem resolve_eq_ok {role : AddressRole} {ids : AddressIds} {address : String} {id : AddressId} :
    resolve role ids address = .ok id ↔ Gives ids address id := by
  unfold resolve Gives
  rw [Std.TreeMap.getD_eq_getD_getElem?]
  cases found : ids[address]? with
  | none => simp
  | some known =>
    rw [Option.getD_some, Option.some_inj]
    split
    · exact ⟨nofun, fun ⟨same, nonzero⟩ => absurd same.symm nonzero⟩
    · next nonzero =>
      rw [Except.ok.injEq]
      exact ⟨fun same => ⟨same, same ▸ nonzero⟩, And.left⟩

theorem resolveAll_eq_ok {role : AddressRole} {ids : AddressIds} {addresses : List String} {out : List AddressId} :
    resolveAll role ids addresses = .ok out ↔ List.Forall₂ (Gives ids) addresses out := by
  simp only [resolveAll, mapM_eq_ok, resolve_eq_ok]

theorem storedHeight_eq_ok {height : UInt64} {stored : Int64} :
    storedHeight height = .ok stored ↔ stored.toInt = height.toNat := by
  have bound : stored.toInt < 2 ^ 63 := stored.toInt_lt
  unfold storedHeight
  split
  · next small =>
    have value : height.toInt64.toInt = height.toNat := by
      have := Int64.toInt_ofNat_of_lt (n := height.toNat) (by simpa using small)
      rwa [← UInt64.toInt64_ofNat', UInt64.ofNat_toNat] at this
    rw [Except.ok.injEq, ← Int64.toInt_inj, value, eq_comm]
  · next large =>
    constructor
    · exact nofun
    · intro h
      simp only [signedBound] at large
      omega

/-! ## Rows and their items -/

namespace Storage

variable (means : String → AddressId → Prop) (chain : String)

structure BlockRow.Records (b : Block) (r : BlockRow) : Prop where
  hash : Base64.decodeText b.hash = .ok r.hash
  height : r.height.toInt = b.height.toNat
  time : r.time = b.time
  chain : r.chain = chain
  proposer : means b.proposer r.proposer
  transactions : r.transactions = b.transactions

structure SigningRow.Records (b : Block) (r : SigningRow) : Prop where
  height : r.height.toInt = b.height.toNat
  time : r.time = b.time
  chain : r.chain = chain
  proposer : means b.proposer r.proposer
  signed : List.Forall₂ means b.signers r.signed

structure TransactionRow.Records (d : DecodedExecution) (r : TransactionRow) : Prop where
  hash : r.hash = d.envelope.hash
  chain : r.chain = chain
  height : r.height.toInt = d.timed.execution.height.toNat
  time : r.time = d.timed.time
  messageType? : r.messageType? = d.envelope.type?.map MessageType.name
  signers : List.Forall₂ means d.envelope.signers r.signers
  memo : r.memo = d.envelope.memo
  fee : r.fee = d.envelope.fee
  gasWanted : r.gasWanted = d.timed.execution.gasWanted
  gasUsed : r.gasUsed = d.timed.execution.gasUsed
  success : r.success = d.timed.execution.succeeded
  events : r.events = .arr (d.timed.execution.events.map Event.toJson)

/-- What the row of a message says apart from the message itself. -/
structure MessageHead.Records (d : DecodedExecution) (counter : Int16) (head : MessageHead) : Prop where
  hash : head.hash = d.envelope.hash
  chain : head.chain = chain
  counter : head.counter = counter
  time : head.time = d.timed.time
  signers : List.Forall₂ means d.envelope.signers head.signers

structure SendRow.Records (m : SendMessage) (r : SendRow) : Prop where
  sender : means m.sender r.sender
  recipient : means m.recipient r.recipient
  amount : r.amount = m.amount

structure CallRow.Records (m : CallMessage) (r : CallRow) : Prop where
  caller : means m.caller r.caller
  path : r.path = m.path
  function : r.function = m.function
  args : r.args = m.args
  send : r.send = m.send
  maxDeposit : r.maxDeposit = m.maxDeposit

structure PackageRow.Records (m : PackageMessage) (r : PackageRow) : Prop where
  signer : means m.signer r.signer
  package : r.package = m.package
  send : r.send = m.send
  maxDeposit : r.maxDeposit = m.maxDeposit

/-- The rows of one message: one row, in the table of its type. -/
inductive MessageRows.Records (head : MessageHead) : Message → MessageRows → Prop where
  | send {m : SendMessage} {r : SendRow} (at_ : r.head = head) (records : r.Records means m) :
      Records head (.send m) { send := [r] }
  | call {m : CallMessage} {r : CallRow} (at_ : r.head = head) (records : r.Records means m) :
      Records head (.call m) { call := [r] }
  | addPackage {m : PackageMessage} {r : PackageRow} (at_ : r.head = head) (records : r.Records means m) :
      Records head (.addPackage m) { addPackage := [r] }
  | run {m : PackageMessage} {r : PackageRow} (at_ : r.head = head) (records : r.Records means m) :
      Records head (.run m) { run := [r] }

end Storage

/-- Whether a row records a message of a transaction. -/
inductive Storage.Row.RecordsMessage (means : String → AddressId → Prop) (chain : String) (d : DecodedExecution) :
    NumberedMessage → Row → Prop where
  | send {counter : Int16} {m : SendMessage} {r : SendRow} (head : r.head.Records means chain d counter)
      (records : r.Records means m) : RecordsMessage means chain d ⟨counter, .send m⟩ (.send r)
  | call {counter : Int16} {m : CallMessage} {r : CallRow} (head : r.head.Records means chain d counter)
      (records : r.Records means m) : RecordsMessage means chain d ⟨counter, .call m⟩ (.call r)
  | addPackage {counter : Int16} {m : PackageMessage} {r : PackageRow} (head : r.head.Records means chain d counter)
      (records : r.Records means m) : RecordsMessage means chain d ⟨counter, .addPackage m⟩ (.package r)
  | run {counter : Int16} {m : PackageMessage} {r : PackageRow} (head : r.head.Records means chain d counter)
      (records : r.Records means m) : RecordsMessage means chain d ⟨counter, .run m⟩ (.run r)

/-! ## Other ids

What a row records it records with other ids too, where they mean the same addresses. -/

section MapIds

variable {means means' : String → AddressId → Prop} {chain : String} {f : AddressId → AddressId}
  (same : ∀ a id, means a id → means' a (f id))

include same

theorem forall₂_mapIds {as : List String} {ids : List AddressId} (h : List.Forall₂ means as ids) :
    List.Forall₂ means' as (ids.map f) :=
  List.forall₂_map_right_iff.2 (h.imp same)

theorem Storage.BlockRow.Records.map {b : Block} {r : BlockRow} (h : r.Records means chain b) :
    (r.mapIds f).Records means' chain b :=
  ⟨h.hash, h.height, h.time, h.chain, same _ _ h.proposer, h.transactions⟩

theorem Storage.SigningRow.Records.map {b : Block} {r : SigningRow} (h : r.Records means chain b) :
    (r.mapIds f).Records means' chain b :=
  ⟨h.height, h.time, h.chain, same _ _ h.proposer, forall₂_mapIds same h.signed⟩

theorem Storage.TransactionRow.Records.map {d : DecodedExecution} {r : TransactionRow} (h : r.Records means chain d) :
    (r.mapIds f).Records means' chain d :=
  ⟨h.hash, h.chain, h.height, h.time, h.messageType?, forall₂_mapIds same h.signers, h.memo, h.fee, h.gasWanted,
    h.gasUsed, h.success, h.events⟩

theorem Storage.MessageHead.Records.map {d : DecodedExecution} {counter : Int16} {head : MessageHead}
    (h : head.Records means chain d counter) : (head.mapIds f).Records means' chain d counter :=
  ⟨h.hash, h.chain, h.counter, h.time, forall₂_mapIds same h.signers⟩

theorem Storage.SendRow.Records.map {m : SendMessage} {r : SendRow} (h : r.Records means m) :
    (r.mapIds f).Records means' m :=
  ⟨same _ _ h.sender, same _ _ h.recipient, h.amount⟩

theorem Storage.CallRow.Records.map {m : CallMessage} {r : CallRow} (h : r.Records means m) :
    (r.mapIds f).Records means' m :=
  ⟨same _ _ h.caller, h.path, h.function, h.args, h.send, h.maxDeposit⟩

theorem Storage.PackageRow.Records.map {m : PackageMessage} {r : PackageRow} (h : r.Records means m) :
    (r.mapIds f).Records means' m :=
  ⟨same _ _ h.signer, h.package, h.send, h.maxDeposit⟩

theorem Storage.MessageRows.Records.map {head : MessageHead} {m : Message} {rows : MessageRows}
    (h : rows.Records means head m) : (rows.mapIds f).Records means' (head.mapIds f) m := by
  cases h with
  | send at_ records => exact .send (congrArg (MessageHead.mapIds f) at_) (records.map same)
  | call at_ records => exact .call (congrArg (MessageHead.mapIds f) at_) (records.map same)
  | addPackage at_ records => exact .addPackage (congrArg (MessageHead.mapIds f) at_) (records.map same)
  | run at_ records => exact .run (congrArg (MessageHead.mapIds f) at_) (records.map same)

end MapIds

theorem Storage.Row.RecordsMessage.map {means means' : String → AddressId → Prop} {chain : String}
    {f : AddressRole → AddressId → AddressId} {d : DecodedExecution} {n : NumberedMessage} {row : Row}
    (h : row.RecordsMessage means chain d n) (same : ∀ a id, means a id → means' a (f .account id)) :
    (row.mapIds f).RecordsMessage means' chain d n := by
  cases h with
  | send head records => exact .send (head.map same) (records.map same)
  | call head records => exact .call (head.map same) (records.map same)
  | addPackage head records => exact .addPackage (head.map same) (records.map same)
  | run head records => exact .run (head.map same) (records.map same)

attribute [ext] MessageHead SendRow CallRow PackageRow

/-- Where no address has two ids, a message has one row. -/
theorem Storage.Row.RecordsMessage.unique {means : String → AddressId → Prop} (one : Relator.RightUnique means)
    {chain : String} {d : DecodedExecution} {n : NumberedMessage} {row row' : Row}
    (h : row.RecordsMessage means chain d n) (h' : row'.RecordsMessage means chain d n) : row = row' := by
  have sameHead : ∀ {counter : Int16} {head head' : MessageHead}, head.Records means chain d counter →
      head'.Records means chain d counter → head = head' := by
    intro counter head head' h h'
    exact MessageHead.ext_iff.2 ⟨h.hash.trans h'.hash.symm, h.chain.trans h'.chain.symm,
      h.counter.trans h'.counter.symm, h.time.trans h'.time.symm, List.right_unique_forall₂' one h.signers h'.signers⟩
  have samePackage : ∀ {counter : Int16} {m : PackageMessage} {r r' : PackageRow},
      r.head.Records means chain d counter →
      r'.head.Records means chain d counter → r.Records means m → r'.Records means m → r = r' := by
    intro counter m r r' head head' records records'
    exact PackageRow.ext_iff.2 ⟨sameHead head head', one records.signer records'.signer,
      records.package.trans records'.package.symm, records.send.trans records'.send.symm,
      records.maxDeposit.trans records'.maxDeposit.symm⟩
  cases h with
  | send head records =>
    cases h' with
    | send head' records' =>
      rw [Row.send.injEq]
      exact SendRow.ext_iff.2 ⟨sameHead head head', one records.sender records'.sender,
        one records.recipient records'.recipient, records.amount.trans records'.amount.symm⟩
  | call head records =>
    cases h' with
    | call head' records' =>
      rw [Row.call.injEq]
      exact CallRow.ext_iff.2 ⟨sameHead head head', one records.caller records'.caller,
        records.path.trans records'.path.symm, records.function.trans records'.function.symm,
        records.args.trans records'.args.symm, records.send.trans records'.send.symm,
        records.maxDeposit.trans records'.maxDeposit.symm⟩
  | addPackage head records =>
    cases h' with
    | addPackage head' records' => exact congrArg Row.package (samePackage head head' records records')
  | run head records =>
    cases h' with
    | run head' records' => exact congrArg Row.run (samePackage head head' records records')

/-! ## Rows record their items -/

variable {chain : String} {ids : AddressIds}

theorem blockRow_eq_ok {b : Block} {r : BlockRow} : blockRow chain ids b = .ok r ↔ r.Records (Gives ids) chain b := by
  unfold blockRow
  cases decoded : Base64.decodeText b.hash with
  | error e => exact ⟨nofun, fun h => nomatch decoded.symm.trans h.hash⟩
  | ok hash =>
    simp only [pure_bind, bind_eq_ok, pure_eq_ok, storedHeight_eq_ok, resolve_eq_ok]
    constructor
    · rintro ⟨height, hHeight, proposer, hProposer, rfl⟩
      exact ⟨decoded, hHeight, rfl, rfl, hProposer, rfl⟩
    · intro h
      obtain rfl : hash = r.hash := Except.ok.inj (decoded.symm.trans h.hash)
      exact ⟨r.height, h.height, r.proposer, h.proposer, by rw [← h.time, ← h.chain, ← h.transactions]⟩

theorem signingRow_eq_ok {b : Block} {r : SigningRow} :
    signingRow chain ids b = .ok r ↔ r.Records (Gives ids) chain b := by
  simp only [signingRow, bind_eq_ok, pure_eq_ok, storedHeight_eq_ok, resolve_eq_ok, resolveAll_eq_ok]
  constructor
  · rintro ⟨height, hHeight, proposer, hProposer, signed, hSigned, rfl⟩
    exact ⟨hHeight, rfl, rfl, hProposer, hSigned⟩
  · intro h
    exact ⟨r.height, h.height, r.proposer, h.proposer, r.signed, h.signed, by rw [← h.time, ← h.chain]⟩

namespace DecodedExecution

variable {d : DecodedExecution}

theorem row_eq_ok {r : TransactionRow} : d.row chain ids = .ok r ↔ r.Records (Gives ids) chain d := by
  simp only [row, bind_eq_ok, pure_eq_ok, storedHeight_eq_ok, resolveAll_eq_ok]
  constructor
  · rintro ⟨height, hHeight, signers, hSigners, rfl⟩
    exact ⟨rfl, rfl, hHeight, rfl, rfl, hSigners, rfl, rfl, rfl, rfl, rfl, rfl⟩
  · intro h
    refine ⟨r.height, h.height, r.signers, h.signers, ?_⟩
    rw [← h.hash, ← h.chain, ← h.time, ← h.messageType?, ← h.memo, ← h.fee, ← h.gasWanted, ← h.gasUsed, ← h.success,
      ← h.events]

theorem messageRow_eq_ok {head : MessageHead} {m : Message} {rows : MessageRows} :
    messageRow ids head m = .ok rows ↔ rows.Records (Gives ids) head m := by
  cases m with
  | send m =>
    simp only [messageRow, bind_eq_ok, pure_eq_ok, resolve_eq_ok]
    constructor
    · rintro ⟨sender, hSender, recipient, hRecipient, rfl⟩
      exact .send rfl ⟨hSender, hRecipient, rfl⟩
    · intro h
      cases h with
      | send at_ h =>
        subst at_
        exact ⟨_, h.sender, _, h.recipient, by rw [← h.amount]⟩
  | call m =>
    simp only [messageRow, bind_eq_ok, pure_eq_ok, resolve_eq_ok]
    constructor
    · rintro ⟨caller, hCaller, rfl⟩
      exact .call rfl ⟨hCaller, rfl, rfl, rfl, rfl, rfl⟩
    · intro h
      cases h with
      | call at_ h =>
        subst at_
        exact ⟨_, h.caller, by rw [← h.path, ← h.function, ← h.args, ← h.send, ← h.maxDeposit]⟩
  | addPackage m =>
    simp only [messageRow, bind_eq_ok, pure_eq_ok, resolve_eq_ok]
    constructor
    · rintro ⟨signer, hSigner, rfl⟩
      exact .addPackage rfl ⟨hSigner, rfl, rfl, rfl⟩
    · intro h
      cases h with
      | addPackage at_ h =>
        subst at_
        exact ⟨_, h.signer, by rw [← h.package, ← h.send, ← h.maxDeposit]⟩
  | run m =>
    simp only [messageRow, bind_eq_ok, pure_eq_ok, resolve_eq_ok]
    constructor
    · rintro ⟨signer, hSigner, rfl⟩
      exact .run rfl ⟨hSigner, rfl, rfl, rfl⟩
    · intro h
      cases h with
      | run at_ h =>
        subst at_
        exact ⟨_, h.signer, by rw [← h.package, ← h.send, ← h.maxDeposit]⟩

/-- The messages of a transaction yield their rows together or not at all. -/
theorem messageRows_eq_ok {rows : MessageRows} :
    d.messageRows chain ids = .ok rows ↔
      ∃ signers parts, List.Forall₂ (Gives ids) d.envelope.signers signers ∧
        List.Forall₂ (fun m part => MessageRows.Records (Gives ids)
          ⟨d.envelope.hash, chain, m.counter, d.timed.time, signers⟩ m.message part) d.envelope.messages parts ∧
        rows = .concat parts := by
  simp only [messageRows, bind_eq_ok, pure_eq_ok, resolveAll_eq_ok, mapM_eq_ok, messageRow_eq_ok]
  constructor
  · rintro ⟨signers, hSigners, parts, hParts, rfl⟩
    exact ⟨signers, parts, hSigners, hParts, rfl⟩
  · rintro ⟨signers, parts, hSigners, hParts, rfl⟩
    exact ⟨signers, hSigners, parts, hParts, rfl⟩

/-- Every row of the messages of a transaction records one of them. -/
theorem recordsMessage_of_mem {rows : MessageRows} (h : d.messageRows chain ids = .ok rows) {row : Row}
    (member : row ∈ rows.rows) : ∃ n ∈ d.envelope.messages, row.RecordsMessage (Gives ids) chain d n := by
  obtain ⟨signers, parts, hSigners, hParts, rfl⟩ := messageRows_eq_ok.1 h
  obtain ⟨part, part_mem, row_mem⟩ := MessageRows.mem_rows_concat.1 member
  obtain ⟨⟨counter, message⟩, n_mem, records⟩ : ∃ n ∈ d.envelope.messages, MessageRows.Records (Gives ids)
      ⟨d.envelope.hash, chain, n.counter, d.timed.time, signers⟩ n.message part := by
    obtain ⟨i, bound, rfl⟩ := List.mem_iff_getElem.1 part_mem
    exact ⟨_, List.getElem_mem _, hParts.get (hParts.length_eq ▸ bound) bound⟩
  refine ⟨_, n_mem, ?_⟩
  cases records with
  | send at_ records =>
    obtain rfl : row = .send _ := by simpa [MessageRows.rows] using row_mem
    exact .send (at_ ▸ ⟨rfl, rfl, rfl, rfl, hSigners⟩) records
  | call at_ records =>
    obtain rfl : row = .call _ := by simpa [MessageRows.rows] using row_mem
    exact .call (at_ ▸ ⟨rfl, rfl, rfl, rfl, hSigners⟩) records
  | addPackage at_ records =>
    obtain rfl : row = .package _ := by simpa [MessageRows.rows] using row_mem
    exact .addPackage (at_ ▸ ⟨rfl, rfl, rfl, rfl, hSigners⟩) records
  | run at_ records =>
    obtain rfl : row = .run _ := by simpa [MessageRows.rows] using row_mem
    exact .run (at_ ▸ ⟨rfl, rfl, rfl, rfl, hSigners⟩) records

end DecodedExecution

/-! ## Rows depend on the ids of their addresses only -/

section Congr

variable {chain : String} {ids ids' : AddressIds}

theorem resolve_congr {role : AddressRole} {a : String} (same : ids[a]? = ids'[a]?) :
    resolve role ids a = resolve role ids' a := by
  simp only [resolve, Std.TreeMap.getD_eq_getD_getElem?, same]

theorem resolveAll_congr {role : AddressRole} {as : List String} (same : ∀ a ∈ as, ids[a]? = ids'[a]?) :
    resolveAll role ids as = resolveAll role ids' as := by
  induction as with
  | nil => rfl
  | cons a as ih =>
    have rest := ih fun b member => same b (List.mem_cons_of_mem a member)
    simp only [resolveAll] at rest
    rw [resolveAll, resolveAll, List.mapM_cons, List.mapM_cons, resolve_congr (same a List.mem_cons_self), rest]

theorem blockRow_congr {b : Block} (same : ∀ a ∈ b.validators, ids[a]? = ids'[a]?) :
    blockRow chain ids b = blockRow chain ids' b := by
  unfold blockRow
  rw [resolve_congr (same b.proposer List.mem_cons_self)]

theorem signingRow_congr {b : Block} (same : ∀ a ∈ b.validators, ids[a]? = ids'[a]?) :
    signingRow chain ids b = signingRow chain ids' b := by
  unfold signingRow
  rw [resolve_congr (same b.proposer List.mem_cons_self),
    resolveAll_congr fun a member => same a (List.mem_cons_of_mem _ member)]

theorem DecodedExecution.row_congr {d : DecodedExecution} (same : ∀ a ∈ d.envelope.signers, ids[a]? = ids'[a]?) :
    d.row chain ids = d.row chain ids' := by
  unfold row
  rw [resolveAll_congr same]

theorem DecodedExecution.messageRow_congr {head : MessageHead} {m : Message}
    (same : ∀ a ∈ m.addresses, ids[a]? = ids'[a]?) : messageRow ids head m = messageRow ids' head m := by
  cases m with
  | send m => simp only [messageRow, resolve_congr (same m.sender (by simp [Message.addresses])),
      resolve_congr (same m.recipient (by simp [Message.addresses]))]
  | call m => simp only [messageRow, resolve_congr (same m.caller (by simp [Message.addresses, Message.signer]))]
  | addPackage m => simp only [messageRow, resolve_congr (same m.signer (by simp [Message.addresses, Message.signer]))]
  | run m => simp only [messageRow, resolve_congr (same m.signer (by simp [Message.addresses, Message.signer]))]

theorem DecodedExecution.messageRows_congr {d : DecodedExecution}
    (signers : ∀ a ∈ d.envelope.signers, ids[a]? = ids'[a]?) (named : ∀ a ∈ d.addresses, ids[a]? = ids'[a]?) :
    d.messageRows chain ids = d.messageRows chain ids' := by
  have each : ∀ head : NumberedMessage → MessageHead, ∀ ms : List NumberedMessage,
      (∀ m ∈ ms, ∀ a ∈ m.message.addresses, ids[a]? = ids'[a]?) →
      (ms.mapM fun m => messageRow ids (head m) m.message) = ms.mapM fun m => messageRow ids' (head m) m.message := by
    intro head ms same
    induction ms with
    | nil => rfl
    | cons m ms ih =>
      rw [List.mapM_cons, List.mapM_cons, messageRow_congr (same m List.mem_cons_self),
        ih fun n member => same n (List.mem_cons_of_mem m member)]
  unfold messageRows
  rw [resolveAll_congr signers]
  congr 1
  funext signers
  have same : ∀ m ∈ d.envelope.messages, ∀ a ∈ m.message.addresses, ids[a]? = ids'[a]? := by
    intro m member a present
    exact named a (List.mem_flatMap.2 ⟨m, member, present⟩)
  rw [each (fun m => ⟨d.envelope.hash, chain, m.counter, d.timed.time, signers⟩) _ same]

end Congr

end ChainIndex
