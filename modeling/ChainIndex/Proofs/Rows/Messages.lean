import ChainIndex.Proofs.Address.Numbers
import ChainIndex.Proofs.Envelope.Decoded
import ChainIndex.Proofs.Rows.Records

/-!
# Message rows are all or nothing

The messages of a transaction are one list of four types, their rows are four tables. Building a row can fail at any
message, when others have their rows already.

**All or nothing** (`holdsAll_rows`). With the ids of whatever book, a batch of transactions yields rows for exactly
those of which every signer and every account that a message names has an id (`DecodedExecution.resolved`), transaction
after transaction.

**Nothing is lost** (`MessageRows.Holds`). Of the rows of one transaction each table has those of its type, in the order
of their numbers. Sorted by their numbers the rows of all tables stand beside the messages one by one, and each records
the message that it stands beside. If the ids can be read back as addresses, the list of messages can be read back from
the rows.

The proof builds the rows in one list first, in the order of the messages. The tables are that list filtered by type, so
the rows of all tables are a permutation of it; and the numbers rise along it, so it is the only way to sort them.
-/

namespace ChainIndex

open Storage

/-! ## Rows of messages -/

namespace Storage

namespace Row

/-- The type of the message that a row is about. -/
def type? : Row → Option MessageType
  | .send _ => some .send
  | .call _ => some .call
  | .package _ => some .addPackage
  | .run _ => some .run
  | _ => none

def head? : Row → Option MessageHead
  | .send r => some r.head
  | .call r => some r.head
  | .package r | .run r => some r.head
  | _ => none

/-- The number of the message that a row is about. -/
def counter (row : Row) : Int := (row.head?.map (·.counter.toInt)).getD 0

/-- The message that a row was built of, if its ids can be read back. -/
def message? (owner : AddressId → Option String) : Row → Option NumberedMessage
  | .send r => do
    let sender ← owner r.sender
    let recipient ← owner r.recipient
    pure ⟨r.head.counter, .send { sender, recipient, amount := r.amount }⟩
  | .call r => do
    let caller ← owner r.caller
    pure
      ⟨r.head.counter, .call
        { caller, path := r.path, function := r.function, args := r.args, send := r.send, maxDeposit := r.maxDeposit }⟩
  | .package r => do
    let signer ← owner r.signer
    pure ⟨r.head.counter, .addPackage { signer, package := r.package, send := r.send, maxDeposit := r.maxDeposit }⟩
  | .run r => do
    let signer ← owner r.signer
    pure ⟨r.head.counter, .run { signer, package := r.package, send := r.send, maxDeposit := r.maxDeposit }⟩
  | _ => none

end Row

namespace MessageRows

/-- The rows of one table. -/
def table (rows : MessageRows) : MessageType → List Row
  | .send => rows.send.map .send
  | .call => rows.call.map .call
  | .addPackage => rows.addPackage.map .package
  | .run => rows.run.map .run

/-- The rows of all tables, sorted by the numbers of their messages. -/
def inOrder (rows : MessageRows) : List Row := rows.rows.mergeSort fun a b => a.counter ≤ b.counter

/-- The rows of all messages of one transaction, each in the table of its type. -/
structure Holds (chain : String) (ids : AddressIds) (d : DecodedExecution) (part : MessageRows) : Prop where
  records : List.Forall₂ (Row.RecordsMessage (Gives ids) chain d) d.envelope.messages part.inOrder
  tables : ∀ type, part.table type = part.inOrder.filter (·.type? = some type)
  ascending : part.inOrder.Pairwise fun a b => a.counter < b.counter
  readable : ValidIds ids → part.inOrder.map (Row.message? (owner ids)) = d.envelope.messages.map some

/-- The rows of those transactions, one after another in every table. -/
def HoldsAll (chain : String) (ids : AddressIds) (ds : List DecodedExecution) (rows : MessageRows) : Prop :=
  ∃ parts, List.Forall₂ (Holds chain ids) ds parts ∧ rows = concat parts

end MessageRows

end Storage

/-- Every signer and every account that a message names has an id. -/
def DecodedExecution.resolved (ids : AddressIds) (d : DecodedExecution) : Bool :=
  (d.envelope.signers ++ d.addresses).all fun a => ids.getD a 0 ≠ 0

/-! ## What can be built -/

section

variable {α β : Type} {R : α → β → Prop} {as : List α}

theorem exists_forall₂ : (∃ bs, List.Forall₂ R as bs) ↔ ∀ a ∈ as, ∃ b, R a b := by
  induction as with
  | nil => exact ⟨fun _ => by simp, fun _ => ⟨[], .nil⟩⟩
  | cons a as ih =>
    rw [List.forall_mem_cons, ← ih]
    constructor
    · rintro ⟨_, h⟩
      cases h with
      | cons one more => exact ⟨⟨_, one⟩, _, more⟩
    · rintro ⟨⟨b, one⟩, bs, more⟩
      exact ⟨b :: bs, .cons one more⟩

/-- What is kept stands beside the items that yield it. -/
theorem forall₂_keepGood {f : α → Except IndexError β} {good : α → Bool}
    (yields : ∀ a ∈ as, good a = true ↔ ∃ b, f a = .ok b) :
    List.Forall₂ (fun a b => f a = .ok b) (as.filter good) (keepGood f as) := by
  induction as with
  | nil => exact .nil
  | cons a as ih =>
    obtain ⟨here, more⟩ := List.forall_mem_cons.1 yields
    rw [keepGood, List.filterMap_cons, List.filter_cons]
    cases built : f a with
    | error e =>
      have bad : good a ≠ true := fun h => by
        obtain ⟨b, same⟩ := here.1 h
        cases built.symm.trans same
      rw [if_neg bad]
      exact ih more
    | ok b =>
      rw [if_pos (here.2 ⟨b, built⟩)]
      exact .cons built (ih more)

end

variable {chain : String} {ids : AddressIds} {d : DecodedExecution}

theorem exists_gives {a : String} : (∃ id, Gives ids a id) ↔ ids.getD a 0 ≠ 0 := by
  rw [Std.TreeMap.getD_eq_getD_getElem?]
  cases found : ids[a]? with
  | none => simp [Gives, found]
  | some id => simp [Gives, found]

theorem exists_records {head : MessageHead} {m : Message} :
    (∃ part, MessageRows.Records (Gives ids) head m part) ↔ ∀ a ∈ m.addresses, ∃ id, Gives ids a id := by
  constructor
  · rintro ⟨part, records⟩ a member
    cases records with
    | send at_ records =>
      rcases List.mem_pair.1 member with rfl | rfl
      · exact ⟨_, records.sender⟩
      · exact ⟨_, records.recipient⟩
    | call at_ records =>
      obtain rfl := List.mem_singleton.1 member
      exact ⟨_, records.caller⟩
    | addPackage at_ records =>
      obtain rfl := List.mem_singleton.1 member
      exact ⟨_, records.signer⟩
    | run at_ records =>
      obtain rfl := List.mem_singleton.1 member
      exact ⟨_, records.signer⟩
  · intro known
    cases m with
    | send m =>
      obtain ⟨sender, hSender⟩ := known m.sender (by simp [Message.addresses])
      obtain ⟨recipient, hRecipient⟩ := known m.recipient (by simp [Message.addresses])
      exact ⟨_, .send (r := ⟨head, sender, recipient, m.amount⟩) rfl ⟨hSender, hRecipient, rfl⟩⟩
    | call m =>
      obtain ⟨caller, hCaller⟩ := known m.caller (by simp [Message.addresses, Message.signer])
      exact ⟨_, .call (r := ⟨head, caller, m.path, m.function, m.args, m.send, m.maxDeposit⟩) rfl
        ⟨hCaller, rfl, rfl, rfl, rfl, rfl⟩⟩
    | addPackage m =>
      obtain ⟨signer, hSigner⟩ := known m.signer (by simp [Message.addresses, Message.signer])
      exact ⟨_, .addPackage (r := ⟨head, signer, m.package, m.send, m.maxDeposit⟩) rfl ⟨hSigner, rfl, rfl, rfl⟩⟩
    | run m =>
      obtain ⟨signer, hSigner⟩ := known m.signer (by simp [Message.addresses, Message.signer])
      exact ⟨_, .run (r := ⟨head, signer, m.package, m.send, m.maxDeposit⟩) rfl ⟨hSigner, rfl, rfl, rfl⟩⟩

/-- **All or nothing.** A transaction yields rows if all its accounts have ids. -/
theorem resolved_iff : d.resolved ids = true ↔ ∃ part, d.messageRows chain ids = .ok part := by
  have all : d.resolved ids = true ↔
      (∀ a ∈ d.envelope.signers, ∃ id, Gives ids a id) ∧
        ∀ m ∈ d.envelope.messages, ∀ a ∈ m.message.addresses, ∃ id, Gives ids a id := by
    simp only [DecodedExecution.resolved, List.all_append, Bool.and_eq_true, List.all_eq_true, decide_eq_true_eq,
      ← exists_gives, DecodedExecution.addresses, List.mem_flatMap]
    exact and_congr_right fun _ => ⟨fun h m member a named => h a ⟨m, member, named⟩,
      fun h a ⟨m, member, named⟩ => h m member a named⟩
  simp only [DecodedExecution.messageRows_eq_ok, all]
  constructor
  · rintro ⟨signs, names⟩
    obtain ⟨signers, hSigners⟩ := exists_forall₂.2 signs
    let head (m : NumberedMessage) : MessageHead := ⟨d.envelope.hash, chain, m.counter, d.timed.time, signers⟩
    obtain ⟨parts, hParts⟩ : ∃ parts, List.Forall₂ (fun m => MessageRows.Records (Gives ids) (head m) m.message)
        d.envelope.messages parts := exists_forall₂.2 fun m member => exists_records.2 (names m member)
    exact ⟨_, signers, parts, hSigners, hParts, rfl⟩
  · rintro ⟨_, signers, parts, hSigners, hParts, -⟩
    refine ⟨exists_forall₂.1 ⟨signers, hSigners⟩, fun m member => ?_⟩
    exact exists_records.1 (exists_forall₂.1 ⟨parts, hParts⟩ m member)

/-! ## The rows of one transaction -/

/-- The row of a message stands in the table of its type, and nothing else does. -/
theorem exists_row {head : MessageHead} {n : NumberedMessage} {part : MessageRows}
    (heads : head.Records (Gives ids) chain d n.counter) (records : part.Records (Gives ids) head n.message) :
    ∃ row, row.RecordsMessage (Gives ids) chain d n ∧ ∀ type, part.table type = [row].filter (·.type? = some type) := by
  obtain ⟨counter, message⟩ := n
  cases records with
  | send at_ records => exact ⟨_, .send (at_ ▸ heads) records, fun type => by cases type <;> rfl⟩
  | call at_ records => exact ⟨_, .call (at_ ▸ heads) records, fun type => by cases type <;> rfl⟩
  | addPackage at_ records => exact ⟨_, .addPackage (at_ ▸ heads) records, fun type => by cases type <;> rfl⟩
  | run at_ records => exact ⟨_, .run (at_ ▸ heads) records, fun type => by cases type <;> rfl⟩

theorem Storage.MessageRows.table_concat (parts : List MessageRows) (type : MessageType) :
    (concat parts).table type = parts.flatMap (·.table type) := by
  cases type <;> simp [table, concat, List.map_flatMap]

/-- The rows of a transaction in the order of its messages, and its tables as parts of that list. -/
theorem exists_all {part : MessageRows} (built : d.messageRows chain ids = .ok part) :
    ∃ all, List.Forall₂ (Row.RecordsMessage (Gives ids) chain d) d.envelope.messages all ∧
      ∀ type, part.table type = all.filter (·.type? = some type) := by
  obtain ⟨signers, parts, hSigners, hParts, rfl⟩ := DecodedExecution.messageRows_eq_ok.1 built
  simp only [MessageRows.table_concat]
  clear built
  generalize d.envelope.messages = messages at hParts
  induction hParts with
  | nil => exact ⟨[], .nil, fun _ => rfl⟩
  | cons one _ ih =>
    obtain ⟨row, records, alone⟩ := exists_row ⟨rfl, rfl, rfl, rfl, hSigners⟩ one
    obtain ⟨all, more, tables⟩ := ih
    refine ⟨row :: all, .cons records more, fun type => ?_⟩
    rw [List.flatMap_cons, alone, tables, ← List.filter_append, List.singleton_append]

theorem Storage.Row.RecordsMessage.type {means : String → AddressId → Prop} {n : NumberedMessage} {row : Row}
    (h : row.RecordsMessage means chain d n) : row.type? = some n.message.type := by
  cases h <;> rfl

theorem Storage.Row.RecordsMessage.counter {means : String → AddressId → Prop} {n : NumberedMessage} {row : Row}
    (h : row.RecordsMessage means chain d n) : row.counter = n.counter.toInt := by
  cases h with
  | _ head _ => exact congrArg Int16.toInt head.counter

/-- A row reads as the message that it records, if ids can be read back. -/
theorem Storage.Row.RecordsMessage.read {n : NumberedMessage} {row : Row} (h : row.RecordsMessage (Gives ids) chain d n)
    (valid : ValidIds ids) : row.message? (owner ids) = some n := by
  have reads {a : String} {id : AddressId} (gives : Gives ids a id) : owner ids id = some a := valid.owner_eq gives.1
  cases h with
  | send head records =>
    simp [Row.message?, reads records.sender, reads records.recipient, records.amount, head.counter]
  | call head records =>
    simp [Row.message?, reads records.caller, records.path, records.function, records.args, records.send,
      records.maxDeposit, head.counter]
  | addPackage head records =>
    simp [Row.message?, reads records.signer, records.package, records.send, records.maxDeposit, head.counter]
  | run head records =>
    simp [Row.message?, reads records.signer, records.package, records.send, records.maxDeposit, head.counter]

/-- Rows of four types are, type by type, the same rows. -/
theorem perm_of_types {all : List Row} (typed : ∀ row ∈ all, ∃ type, row.type? = some type) :
    (all.filter (·.type? = some .send) ++ all.filter (·.type? = some .call) ++
      all.filter (·.type? = some .addPackage) ++ all.filter (·.type? = some .run)).Perm all := by
  induction all with
  | nil => exact .nil
  | cons row all ih =>
    obtain ⟨⟨type, here⟩, more⟩ := List.forall_mem_cons.1 typed
    simp only [List.filter_cons, here, Option.some.injEq]
    refine List.Perm.trans ?_ ((ih more).cons row)
    cases type with
    | send => simp
    | call => simp
    | addPackage => simpa using @List.perm_middle _ row (_ ++ _) _
    | run => simpa using @List.perm_middle _ row (_ ++ (_ ++ _)) _

theorem Storage.MessageRows.rows_eq_tables (part : MessageRows) :
    part.rows = part.table .send ++ part.table .call ++ part.table .addPackage ++ part.table .run := rfl

/-- What stands beside each other is equal in the images. -/
theorem map_eq_map_of_forall₂ {α β γ : Type} {R : α → β → Prop} {f : α → γ} {g : β → γ} {as : List α} {bs : List β}
    (h : List.Forall₂ R as bs) (same : ∀ {a b}, R a b → f a = g b) : as.map f = bs.map g := by
  rw [← List.forall₂_eq_eq_eq, List.forall₂_map_left_iff, List.forall₂_map_right_iff]
  exact h.imp fun _ _ => same

/-- Rows along which the numbers rise are their own order. -/
theorem Storage.MessageRows.inOrder_eq {part : MessageRows} {all : List Row} (same : part.rows.Perm all)
    (ascending : all.Pairwise fun a b => a.counter < b.counter) : part.inOrder = all := by
  have sorted : part.inOrder.Pairwise fun a b => a.counter ≤ b.counter := by
    have sorts : part.inOrder.Pairwise fun a b => (decide (a.counter ≤ b.counter) : Bool) :=
      List.pairwise_mergeSort (fun a b c => by simpa using Int.le_trans) (fun a b => by simpa using Int.le_total _ _)
        part.rows
    exact sorts.imp fun le => by simpa using le
  have perm : part.inOrder.Perm all := (List.mergeSort_perm _ _).trans same
  -- only rows of one number may be sorted in more than one way, and no two of them have one
  have once : (all.map Row.counter).Nodup := List.pairwise_map.2 (ascending.imp Int.ne_of_lt)
  refine perm.eq_of_pairwise (fun a b ha hb le ge => ?_) sorted (ascending.imp Int.le_of_lt)
  exact List.inj_on_of_nodup_map once (perm.subset ha) hb (Int.le_antisymm le ge)

/-- **Nothing is lost.** The rows that a transaction yields are those of all its messages. -/
theorem holds_of_built {part : MessageRows} (decoded : d.envelope.Decoded)
    (built : d.messageRows chain ids = .ok part) : part.Holds chain ids d := by
  obtain ⟨all, records, tables⟩ := exists_all built
  have counters : all.map Row.counter = (List.range d.envelope.messages.length).map Int.ofNat := by
    rw [← decoded.toInt_counters]
    exact (map_eq_map_of_forall₂ records fun r => r.counter.symm).symm
  have ascending : all.Pairwise fun a b => a.counter < b.counter := by
    rw [← List.pairwise_map (f := Row.counter) (R := (· < ·)), counters, List.pairwise_map]
    exact List.pairwise_lt_range.imp Int.ofNat_lt.2
  have same : part.rows.Perm all := by
    rw [part.rows_eq_tables, tables, tables, tables, tables]
    refine perm_of_types fun row member => ?_
    obtain ⟨n, recorded⟩ := exists_forall₂.1 ⟨_, records.flip⟩ row member
    exact ⟨_, recorded.type⟩
  rw [← part.inOrder_eq same ascending] at records tables ascending
  exact ⟨records, tables, ascending, fun valid => (map_eq_map_of_forall₂ records fun r => (r.read valid).symm).symm⟩

/-- **A batch of transactions** yields the rows of those of which all accounts have ids, and no others. -/
theorem holdsAll_rows (chain : String) (ids : AddressIds) {ds : List DecodedExecution}
    (decoded : ∀ d ∈ ds, d.envelope.Decoded) :
    MessageRows.HoldsAll chain ids (ds.filter (·.resolved ids))
      (MessageRows.concat (keepGood (DecodedExecution.messageRows chain ids) ds)) := by
  refine ⟨_, ?_, rfl⟩
  have kept : List.Forall₂ (fun d part => d.messageRows chain ids = .ok part) (ds.filter (·.resolved ids)) _ :=
    forall₂_keepGood fun d _ => resolved_iff
  have members : ∀ d ∈ ds.filter (·.resolved ids), d.envelope.Decoded := fun d member =>
    decoded d (List.mem_filter.1 member).1
  exact ((List.forall₂_and_left _ _).2 ⟨members, kept⟩).imp fun d part ⟨form, built⟩ => holds_of_built form built

/-- Executed transactions are decoded by the decoder. -/
theorem decoded_of_mem {executions : List TimedExecution} (member : d ∈ decodeAll executions) : d.envelope.Decoded := by
  obtain ⟨t, -, built⟩ := mem_keepGood.1 member
  unfold TimedExecution.decode at built
  cases decoding : decodeTransactionText t.execution.envelope with
  | error e =>
    rw [decoding] at built
    cases built
  | ok envelope =>
    rw [decoding] at built
    cases built
    exact (decoded_of_decodeTransactionText decoding).2

end ChainIndex
