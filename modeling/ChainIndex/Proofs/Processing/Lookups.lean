import ChainIndex.Proofs.Contract.Recorded
import ChainIndex.Proofs.Envelope.Accounts
import ChainIndex.Proofs.Processing.Messages
import ChainIndex.Proofs.Processing.Operations

/-!
# What rows look up is resolved

The addresses that a solver is given and those that the rows look up are collected by different code: the operation on
messages has the accounts resolved that the messages name, and its rows need the signers as well.

**Theorem (`solved_rows`).** Operations run side by side in any number and order, over a database that others write to
and that may fail in any way. Whenever the solver of an operation on transactions or on messages leaves nothing
unresolved, every item yields its rows: every transaction whose height can be stored a row, every transaction the rows
of all its messages.

The book keeps what it has, so whatever a solver found is in the book when the rows are built. An account is written as
a word that is not empty, so no account is passed over by the solver; and who signs a transaction is named by one of its
messages.
-/

namespace ChainIndex

open Storage Running

variable {chain : String} {ids : AddressIds}

/-! ## Accounts have names -/

/-- The accounts that a message names were written as words. -/
theorem Raw.encoded_of_interpret {a : Any} {m : Message} (h : a.interpret = .ok m) :
    ∀ word ∈ m.addresses, ∃ field raw, encodeAddress field raw = .ok word := by
  unfold Any.interpret at h
  split at h
  · cases h
  · obtain ⟨value, -, h⟩ := bind_eq_ok.1 h
    obtain ⟨sender, hSender, h⟩ := bind_eq_ok.1 h
    obtain ⟨recipient, hRecipient, h⟩ := bind_eq_ok.1 h
    cases h
    intro word member
    rcases List.mem_pair.1 member with rfl | rfl
    · exact ⟨_, _, hSender⟩
    · exact ⟨_, _, hRecipient⟩
  all_goals
    obtain ⟨value, -, h⟩ := bind_eq_ok.1 h
    obtain ⟨signer, hSigner, h⟩ := bind_eq_ok.1 h
    cases h
    intro word member
    obtain rfl := List.mem_singleton.1 member
    exact ⟨_, _, hSigner⟩

/-- Every message was read from an element of the envelope. -/
theorem Raw.mem_of_interpretFrom {count : Nat} {done : Array NumberedMessage} {index : Nat} {as : List Any}
    {out : List NumberedMessage} (h : interpretFrom count done index as = .ok out) {n : NumberedMessage}
    (member : n ∈ out) : n ∈ done ∨ ∃ a : Any, a.interpret = .ok n.message := by
  induction as generalizing done index with
  | nil =>
    obtain rfl : done.toList = out := Except.ok.inj h
    exact .inl (Array.mem_toList_iff.1 member)
  | cons a as ih =>
    rw [interpretFrom] at h
    split at h
    · cases h
    · split at h
      · cases h
      · next message read =>
        rcases ih h with old | new
        · rcases Array.mem_push.1 old with old | rfl
          · exact .inl old
          · exact .inr ⟨a, read⟩
        · exact .inr new

theorem Raw.ne_empty_of_interpret {hash : String} {raw : Tx} {t : Transaction} (h : raw.interpret hash = .ok t)
    {n : NumberedMessage} (member : n ∈ t.messages) : ∀ a ∈ n.message.addresses, a ≠ "" := by
  unfold Tx.interpret at h
  by_cases many : maxMessages < raw.messages.size
  · simp only [many, if_true] at h
    cases h
  · simp only [many, if_false] at h
    obtain ⟨messages, read, h⟩ := bind_eq_ok.1 h
    cases h
    obtain ⟨a, read⟩ := (mem_of_interpretFrom read member).resolve_left (by simp)
    rintro word named rfl
    obtain ⟨field, raw, written⟩ := encoded_of_interpret read "" named
    obtain ⟨letters, symbols, carries⟩ := exists_carries written
    simpa using carries.word_eq

/-- No account that a decoded transaction names is the empty text. -/
theorem ne_empty_of_mem_addresses {executions : List TimedExecution} {d : DecodedExecution}
    (member : d ∈ decodeAll executions) {a : String} (named : a ∈ d.addresses) : a ≠ "" := by
  obtain ⟨t, -, built⟩ := mem_keepGood.1 member
  unfold TimedExecution.decode at built
  cases decoded : decodeTransactionText t.execution.envelope with
  | error e =>
    rw [decoded] at built
    cases built
  | ok envelope =>
    rw [decoded] at built
    cases built
    obtain ⟨bytes, -, decoded⟩ := bind_eq_ok.1 decoded
    unfold decodeTransaction at decoded
    split at decoded
    · cases decoded
    · obtain ⟨n, present, named⟩ := List.mem_flatMap.1 named
      exact Raw.ne_empty_of_interpret decoded present a named

/-! ## Rows that can be built -/

theorem exists_storedHeight {height : UInt64} :
    (∃ stored : Int64, stored.toInt = height.toNat) ↔ height.toNat < signedBound := by
  constructor
  · rintro ⟨stored, same⟩
    have bound : stored.toInt < 2 ^ 63 := stored.toInt_lt
    rw [signedBound]
    omega
  · intro small
    exact ⟨_, storedHeight_eq_ok.1 (if_pos small)⟩

theorem exists_transactionRow {d : DecodedExecution} : (∃ r, d.row chain ids = .ok r) ↔
    d.timed.execution.height.toNat < signedBound ∧ ∀ a ∈ d.envelope.signers, ∃ id, Gives ids a id := by
  simp only [DecodedExecution.row_eq_ok, ← exists_storedHeight, ← exists_forall₂]
  constructor
  · rintro ⟨r, records⟩
    exact ⟨⟨_, records.height⟩, _, records.signers⟩
  · rintro ⟨⟨height, hHeight⟩, signers, hSigners⟩
    let execution := d.timed.execution
    exact ⟨⟨d.envelope.hash, chain, height, d.timed.time, _, signers, d.envelope.memo, d.envelope.fee,
      execution.gasWanted, execution.gasUsed, execution.succeeded, _⟩,
      rfl, rfl, hHeight, rfl, rfl, hSigners, rfl, rfl, rfl, rfl, rfl, rfl⟩

theorem exists_signingRow {b : Block} : (∃ r, signingRow chain ids b = .ok r) ↔
    b.height.toNat < signedBound ∧ ∀ a ∈ b.validators, ∃ id, Gives ids a id := by
  simp only [signingRow_eq_ok, ← exists_storedHeight, Block.validators, List.forall_mem_cons, ← exists_forall₂]
  constructor
  · rintro ⟨r, records⟩
    exact ⟨⟨_, records.height⟩, ⟨_, records.proposer⟩, _, records.signed⟩
  · rintro ⟨⟨height, hHeight⟩, ⟨proposer, hProposer⟩, signed, hSigned⟩
    exact ⟨⟨height, b.time, chain, proposer, signed⟩, hHeight, rfl, rfl, hProposer, hSigned⟩

theorem exists_blockRow {b : Block} : (∃ r, blockRow chain ids b = .ok r) ↔
    b.height.toNat < signedBound ∧ (∃ hash, Base64.decodeText b.hash = .ok hash) ∧ ∃ id, Gives ids b.proposer id := by
  simp only [blockRow_eq_ok, ← exists_storedHeight]
  constructor
  · rintro ⟨r, records⟩
    exact ⟨⟨_, records.height⟩, ⟨_, records.hash⟩, _, records.proposer⟩
  · rintro ⟨⟨height, hHeight⟩, ⟨hash, hHash⟩, proposer, hProposer⟩
    exact ⟨⟨hash, height, b.time, chain, proposer, b.transactions⟩, hHash, hHeight, rfl, rfl, hProposer, rfl⟩

/-! ## What an operation puts to storage -/

/-- The questions that store a batch: none if it is empty. -/
def Storage.Batch.puts (b : Batch) : List Query := if b.length = 0 then [] else [.call (.insert b)]

/-- The questions that store the rows of messages. -/
def Storage.MessageRows.puts (rows : MessageRows) : List Query :=
  if rows.length = 0 then [] else [.insertAll rows.batches]

section

variable {β : Type} {nothing : Prop} [Decidable nothing] {b : β} {q : Query} {f : q.Answer → Strand β}

theorem Strand.Answered.of_unless {told : List Telling} {r : β} (ends : ∀ a, ∃ b, f a = pure b)
    (h : (if nothing then pure b else Strand.query q >>= f).Answered told r) :
    told.map (·.1) = if nothing then [] else [q] := by
  by_cases none : nothing
  · rw [if_pos none] at h ⊢
    rw [h.of_pure.1, List.map_nil]
  · rw [if_neg none] at h ⊢
    obtain ⟨a, rest, more, rfl⟩ := Answered.of_ask h
    obtain ⟨b, same⟩ := ends a
    rw [same] at more
    rw [List.map_cons, more.of_pure.1, List.map_nil]

theorem Strand.Asks.unless {P : Query → Prop} (ends : ∀ a, ∃ b, f a = pure b) (may : P q) :
    (if nothing then pure b else Strand.query q >>= f).Asks P := by
  by_cases none : nothing
  · rw [if_pos none]
    trivial
  · rw [if_neg none]
    refine (Strand.Asks.query may).bind fun a => ?_
    obtain ⟨b, same⟩ := ends a
    rw [same]
    trivial

end

theorem Strand.Answered.puts_of_batch {b : Batch} {told : List Telling} {r : Except IndexError UInt64}
    (h : (Processor.store b).Answered told r) : told.map (·.1) = b.puts :=
  h.of_unless fun a => by cases a <;> exact ⟨_, rfl⟩

theorem Strand.Answered.puts_of_rows {rows : MessageRows} {told : List Telling} {r : Except IndexError UInt64}
    (h : rows.store.Answered told r) : told.map (·.1) = rows.puts :=
  h.of_unless fun a => by cases a <;> exact ⟨_, rfl⟩

namespace Operation

/-- Stores the rows that the items yield with the ids of a book. -/
def write (chain : String) (ids : AddressIds) : Operation → Strand (Except IndexError UInt64)
  | .validatorAddresses _ => pure (.ok 0)
  | .blocks bs => Processor.store (.blocks (keepGood (blockRow chain ids) bs))
  | .signings bs => Processor.store (.signings (keepGood (signingRow chain ids) bs))
  | .transactions ds => Processor.store (.transactions (keepGood (DecodedExecution.row chain ids) ds))
  | .messages ds => (MessageRows.concat (keepGood (DecodedExecution.messageRows chain ids) ds)).store

/-- The questions that store the rows that the items yield with the ids of a book. -/
def puts (chain : String) (ids : AddressIds) : Operation → List Query
  | .validatorAddresses _ => []
  | .blocks bs => (Batch.blocks (keepGood (blockRow chain ids) bs)).puts
  | .signings bs => (Batch.signings (keepGood (signingRow chain ids) bs)).puts
  | .transactions ds => (Batch.transactions (keepGood (DecodedExecution.row chain ids) ds)).puts
  | .messages ds => (MessageRows.concat (keepGood (DecodedExecution.messageRows chain ids) ds)).puts

variable {p : Processor} {op : Operation} {told : List Telling}

theorem puts_of_write {r : Except IndexError Unit}
    (h : (Except.map (fun _ => ()) <$> op.write chain ids).Answered told r) : told.map (·.1) = op.puts chain ids := by
  obtain ⟨written, first, rest, writes, ends, rfl⟩ := Strand.Answered.of_bind h
  rw [ends.of_pure.1, List.append_nil]
  cases op with
  | validatorAddresses bs => rw [writes.of_pure.1]; rfl
  | messages ds => exact writes.puts_of_rows
  | _ => exact writes.puts_of_batch

/-- The operation looks its book up and stores the rows that its items yield with what it sees. -/
def looking (p : Processor) (op : Operation) : Strand (Except IndexError Unit) := do
  let ids ← Strand.book (p.bookOf op.role) .entries
  Except.map (fun _ => ()) <$> op.write p.chain ids

/-- The operation lets its solver find ids first. -/
def solving (p : Processor) (op : Operation) : Strand (Except IndexError Unit) := do
  match ← (p.bookOf op.role).solve p.solver op.names with
  | .error e => pure (.error (.persistence e))
  | .ok _ => op.looking p

/-- How a failure of a solver is reported. -/
def reported (solved : Except Storage.Error SolveSummary) : Except IndexError Unit :=
  match solved with
  | .ok _ => .ok ()
  | .error e => .error (.persistence e)

theorem strand_validatorAddresses {bs : List Block} : (Operation.validatorAddresses bs).strand p =
    reported <$> p.validators.solve p.solver (bs.flatMap Block.validators) := by
  refine (map_bind _ _ _).trans (congrArg (_ >>= ·) (funext fun solved => ?_))
  cases solved with
  | error e => rfl
  | ok s => rfl

theorem strand_blocks {bs : List Block} : (Operation.blocks bs).strand p = (Operation.blocks bs).looking p :=
  map_bind _ _ _

theorem strand_signings {bs : List Block} : (Operation.signings bs).strand p = (Operation.signings bs).looking p :=
  map_bind _ _ _

theorem strand_transactions {ds : List DecodedExecution} :
    (Operation.transactions ds).strand p = (Operation.transactions ds).solving p := by
  refine (map_bind _ _ _).trans (congrArg (_ >>= ·) (funext fun solved => ?_))
  cases solved with
  | error e => rfl
  | ok s => exact map_bind _ _ _

theorem strand_messages {ds : List DecodedExecution} :
    (Operation.messages ds).strand p = (Operation.messages ds).solving p := by
  refine (map_bind _ _ _).trans (congrArg (_ >>= ·) (funext fun solved => ?_))
  cases solved with
  | error e => rfl
  | ok s => exact map_bind _ _ _

/-! ## What an operation was told -/

/-- The operation, with a record of what it was told. -/
def recorded (p : Processor) (op : Operation) : Strand (List Telling × Except IndexError Unit) := (op.strand p).recorded

/-- It looked into its book, saw these ids, and put the rows that its items yield with them to storage. -/
def Looked (p : Processor) (op : Operation) (ids : AddressIds) (told : List Telling) : Prop :=
  ∃ answers, told = ⟨.book (p.bookOf op.role) .entries, ids⟩ :: answers ∧ answers.map (·.1) = op.puts p.chain ids

/-- Its solver came to this summary, then it looked into its book, saw these ids, and put its rows to storage. -/
def Solved (p : Processor) (op : Operation) (s : SolveSummary) (ids : AddressIds) (told : List Telling) : Prop :=
  ∃ solving rest, told = solving ++ rest ∧
    ((p.bookOf op.role).solve p.solver op.names).Answered solving (.ok s) ∧ op.Looked p ids rest

/-- Every address that the operation names has an id, but the empty one. -/
def Resolved (op : Operation) (ids : AddressIds) : Prop := ∀ a ∈ op.names, a ≠ "" → ∃ id, Gives ids a id

/-! ## What it keeps to -/

variable {w : Site}

/-- Whoever looks at a book with ids for all addresses sees ids for all of them. -/
theorem resolved_of_known {ids : AddressIds} {ref : BookRef} (agrees : w.Agrees)
    (known : ∀ a ∈ op.names, a ≠ "" → a ∈ (w.books ref).ids) (saw : ids = (w.books ref).ids) : op.Resolved ids := by
  intro a member filled
  obtain ⟨id, found⟩ := exists_of_mem (known a member filled)
  exact ⟨id, saw ▸ found, Int.ne_of_gt ((agrees.valid _).positive (agrees.books found))⟩

theorem asks_write : (Except.map (fun _ => ()) <$> op.write chain ids : Strand (Except IndexError Unit)).Asks
    fun q => ∀ w, bookContract.Allows w q := by
  have store (b : Batch) : (Processor.store b).Asks fun q => ∀ w, bookContract.Allows w q :=
    .unless (fun a => by cases a <;> exact ⟨_, rfl⟩) fun _ => trivial
  have storeAll (rows : MessageRows) : rows.store.Asks fun q => ∀ w, bookContract.Allows w q :=
    .unless (fun a => by cases a <;> exact ⟨_, rfl⟩) fun _ _ _ => trivial
  refine Strand.Asks.bind ?_ fun _ => trivial
  cases op with
  | validatorAddresses bs => trivial
  | messages ds => exact storeAll _
  | _ => exact store _

/-- What an operation sees in its book, if it knows by then what it has to. -/
theorem ensures_looking {knows : Prop}
    (known : knows → ∀ a ∈ op.names, a ≠ "" → a ∈ (w.books (p.bookOf op.role)).ids) :
    (op.looking p).recorded.Ensures bookContract
      (fun _ x => ∃ ids, op.Looked p ids x.1 ∧ (knows → op.Resolved ids)) w := by
  refine Strand.ensures_recorded_query (fun _ _ _ => trivial) ?_
  intro (ids : AddressIds) w₁ later agrees told
  have resolved (here : knows) : op.Resolved ids := by
    refine resolved_of_known agrees (fun a member filled => ?_) told
    obtain ⟨id, found⟩ := exists_of_mem (known here a member filled)
    exact mem_of_some (later.books found)
  refine (Strand.Asks.ensures asks_write).recorded.mono ?_
  intro x w₂ _ sound answered
  exact ⟨ids, ⟨x.1, rfl, puts_of_write (answered w₂ (bookGrowth.refl w₂) sound).2⟩, resolved⟩

/-- What an operation with a solver comes to: its solver fails, or it goes on with what is resolved. -/
def Solves (p : Processor) (op : Operation) (told : List Telling) (r : Except IndexError Unit) : Prop :=
  (∃ e, ((p.bookOf op.role).solve p.solver op.names).Answered told (.error e) ∧ r = .error (.persistence e)) ∨
    ∃ s ids, op.Solved p s ids told ∧ (s.unresolved = 0 → op.Resolved ids)

/-- What an operation sees in its book behind its solver. -/
theorem ensures_solving : (op.solving p).recorded.Ensures bookContract (fun _ x => op.Solves p x.1 x.2) w := by
  have teaches := bookContract_teaches (p.bookOf op.role)
  refine Strand.Ensures.recorded_bind (teaches.ensures_solves fun _ _ _ => trivial) ?_
  intro first solved answered w₁ _ sound solves
  cases solved with
  | error e =>
    refine Strand.ensures_pure (a := ([], _)) fun _ _ _ => .inl ⟨e, ?_, rfl⟩
    rwa [List.append_nil]
  | ok s =>
    have known (none_left : s.unresolved = 0) : ∀ a ∈ op.names, a ≠ "" → a ∈ (w₁.books (p.bookOf op.role)).ids :=
      (solves w₁ (bookGrowth.refl w₁) sound).knows rfl (.inr ⟨bookContract_findsOnly _, none_left⟩)
    refine (ensures_looking known).mono ?_
    intro x w₂ _ sound₂ looks
    obtain ⟨ids, looked, resolved⟩ := looks w₂ (bookGrowth.refl w₂) sound₂
    exact .inr ⟨s, ids, ⟨first, x.1, rfl, answered, looked⟩, resolved⟩

/-- What holds of an operation at its end. What it found for validators, the book knows from then on. -/
def Ended (p : Processor) (op : Operation) (w : Site) (x : List Telling × Except IndexError Unit) : Prop :=
  match op with
  | .validatorAddresses bs => ∀ s, (p.validators.solve p.solver (bs.flatMap Block.validators)).Answered x.1 (.ok s) →
      s.unresolved = 0 → ∀ a ∈ bs.flatMap Block.validators, a ≠ "" → a ∈ (w.books p.validators).ids
  | .blocks _ | .signings _ => ∃ ids, op.Looked p ids x.1
  | .transactions _ | .messages _ => op.Solves p x.1 x.2

/-- **Operations keep to the contract of books**, and come to their ends as they should. -/
theorem ensures_recorded (op : Operation) (w : Site) :
    (op.recorded p).Ensures bookContract (op.Ended p) w := by
  unfold recorded
  have looks (op : Operation) :
      (op.looking p).recorded.Ensures bookContract (fun _ x => ∃ ids, op.Looked p ids x.1) w := by
    refine Strand.Ensures.mono (ensures_looking False.elim) ?_
    intro x w₁ _ sound holds
    obtain ⟨ids, looked, -⟩ := holds w₁ (bookGrowth.refl w₁) sound
    exact ⟨ids, looked⟩
  cases op with
  | validatorAddresses bs =>
    rw [strand_validatorAddresses]
    have teaches := bookContract_teaches p.validators
    refine Strand.Ensures.recorded_bind (teaches.ensures_solves fun _ _ _ => trivial) ?_
    intro first solved answered w₁ _ _ solves
    refine Strand.ensures_pure (a := ([], _)) fun w₂ later sound => ?_
    intro s succeeds none_left
    rw [List.append_nil] at succeeds
    obtain rfl := answered.same_end succeeds
    exact (solves w₂ later sound).knows rfl (.inr ⟨bookContract_findsOnly _, none_left⟩)
  | blocks bs => rw [strand_blocks]; exact looks _
  | signings bs => rw [strand_signings]; exact looks _
  | transactions ds => rw [strand_transactions]; exact ensures_solving
  | messages ds => rw [strand_messages]; exact ensures_solving

/-- Whatever a crew of operations comes to, its members are on their ways to such ends. -/
theorem meets_of_reaches {w₀ : Site} {crew : Crew Operation (List Telling × Except IndexError Unit)} (agrees : w₀.Agrees)
    (reached : Crew.Reaches sharedSite (recorded p) w₀ w crew) :
    w.Agrees ∧ ∀ op t, (op, t) ∈ crew → t.Meets bookContract (op.Ended p) w :=
  reached.meets sharedSite_honors.keeps (fun _ => sharedSite_honors) (fun op w _ => op.ensures_recorded w) agrees

end Operation

/-! ## Rows of what is resolved -/

/-- If the signers of all transactions have ids, every transaction yields a row whose height can be stored. -/
theorem Operation.Resolved.transactions {ds : List DecodedExecution} (h : (Operation.transactions ds).Resolved ids)
    (named : ∀ d ∈ ds, ∀ a ∈ d.envelope.signers, a ≠ "") :
    List.Forall₂ (TransactionRow.Records (Gives ids) chain)
      (ds.filter (·.timed.execution.height.toNat < signedBound)) (keepGood (DecodedExecution.row chain ids) ds) := by
  have kept : List.Forall₂ (fun d r => d.row chain ids = .ok r)
      (ds.filter (·.timed.execution.height.toNat < signedBound)) (keepGood (DecodedExecution.row chain ids) ds) := by
    refine forall₂_keepGood fun d member => ?_
    rw [exists_transactionRow, decide_eq_true_eq, and_iff_left]
    exact fun a signs => h a (List.mem_flatMap.2 ⟨d, member, signs⟩) (named d member a signs)
  exact kept.imp fun d r => DecodedExecution.row_eq_ok.1

/-- If the accounts that all messages name have ids, every transaction yields the rows of all its messages. -/
theorem Operation.Resolved.messages {ds : List DecodedExecution} (h : (Operation.messages ds).Resolved ids)
    (decoded : ∀ d ∈ ds, d.envelope.Decoded) (named : ∀ d ∈ ds, ∀ a ∈ d.addresses, a ≠ "") :
    (MessageRows.concat (keepGood (DecodedExecution.messageRows chain ids) ds)).HoldsAll chain ids ds := by
  have all : ds.filter (·.resolved ids) = ds := by
    refine List.filter_eq_self.2 fun d member => List.all_eq_true.2 fun a named' => decide_eq_true ?_
    -- who signs is named by a message, so the solver was asked for every account that is looked up
    have present : a ∈ d.addresses := (List.mem_append.1 named').elim (decoded d member).signers_subset id
    exact exists_gives.1 (h a (List.mem_flatMap.2 ⟨d, member, present⟩) (named d member a present))
  have holds := holdsAll_rows chain ids decoded
  rwa [all] at holds

/-- **Nothing is dropped for an account that a solver resolved.** Operations run side by side, begun in any order. If
the solver of an operation on transactions leaves nothing unresolved, every transaction yields a row whose height can
be stored; if the solver of one on messages does, every transaction yields the rows of all its messages. -/
theorem solved_rows {p : Processor} {w₀ w : Site} {crew : Crew Operation (List Telling × Except IndexError Unit)}
    (agrees : w₀.Agrees) (reached : Crew.Reaches sharedSite (Operation.recorded p) w₀ w crew)
    (executions : List TimedExecution) :
    (∀ told r, (.transactions (decodeAll executions), .ready (.done (told, r))) ∈ crew →
      (∃ e, (p.accounts.solve p.solver ((decodeAll executions).flatMap (·.envelope.signers))).Answered told (.error e) ∧
        r = .error (.persistence e)) ∨
      ∃ s ids, (Operation.transactions (decodeAll executions)).Solved p s ids told ∧ (s.unresolved = 0 →
        List.Forall₂ (TransactionRow.Records (Gives ids) p.chain)
          ((decodeAll executions).filter (·.timed.execution.height.toNat < signedBound))
          (keepGood (DecodedExecution.row p.chain ids) (decodeAll executions)))) ∧
    ∀ told r, (.messages (decodeAll executions), .ready (.done (told, r))) ∈ crew →
      (∃ e, (p.accounts.solve p.solver ((decodeAll executions).flatMap (·.addresses))).Answered told (.error e) ∧
        r = .error (.persistence e)) ∨
      ∃ s ids, (Operation.messages (decodeAll executions)).Solved p s ids told ∧ (s.unresolved = 0 →
        (MessageRows.concat (keepGood (DecodedExecution.messageRows p.chain ids) (decodeAll executions))).HoldsAll
          p.chain ids (decodeAll executions)) := by
  obtain ⟨sound, meets⟩ := Operation.meets_of_reaches agrees reached
  have ended (op : Operation) (x) (member : (op, .ready (.done x)) ∈ crew) : op.Ended p w x :=
    meets op _ member w (bookGrowth.refl w) sound
  have named : ∀ d ∈ decodeAll executions, ∀ a ∈ d.addresses, a ≠ "" := fun d member a =>
    ne_empty_of_mem_addresses member
  refine ⟨fun told r member => ?_, fun told r member => ?_⟩
  · rcases ended _ _ member with failed | ⟨s, ids, solved, resolved⟩
    · exact .inl failed
    · refine .inr ⟨s, ids, solved, fun none_left => (resolved none_left).transactions fun d present a signs => ?_⟩
      exact named d present a ((decoded_of_mem present).signers_subset signs)
  · rcases ended _ _ member with failed | ⟨s, ids, solved, resolved⟩
    · exact .inl failed
    · exact .inr ⟨s, ids, solved, fun none_left => (resolved none_left).messages (fun d => decoded_of_mem) named⟩

/-! ## Two operations on one transaction -/

/-- What the solver of an operation came to that is played. -/
theorem Operation.eq_of_play {p : Processor} {op : Operation} {rule : Rule Site} {w w' : Site}
    {r : Except IndexError Unit} {solved : Except Storage.Error SolveSummary} {solving rest : List Telling}
    (strand : op.strand p = op.solving p) (played : rule.play (op.recorded p) w = ((solving ++ rest, r), w'))
    (answered : ((p.bookOf op.role).solve p.solver op.names).Answered solving solved) :
    solved = (rule.play ((p.bookOf op.role).solve p.solver op.names) w).1 := by
  rw [Operation.recorded, strand] at played
  obtain ⟨first, rest', first_answered, -, same⟩ :=
    rule.play_recorded_bind ((p.bookOf op.role).solve p.solver op.names) _ w
  have told : solving ++ rest = first ++ rest' := (congrArg (·.1.1) played).symm.trans same
  exact (answered.unique first_answered told).2

namespace OneDeposit

/-- Storage has the account. -/
def stored : Site := Site.empty.setIds ⟨"c", .account⟩ ((∅ : AddressIds).insert account 5)

/-- Both operations begin, and one is played to its end. -/
theorem reaches_played (op op' : Operation) : ∃ w told r, rule.play (op.recorded processor) stored = ((told, r), w) ∧
    Crew.Reaches sharedSite (Operation.recorded processor) .empty w
      [(op, .ready (.done (told, r))), (op', .ready (op'.recorded processor))] := by
  have others : sharedSite.others .empty stored :=
    Site.numbered_setIds (.first (by simp [Site.empty]) account (by decide))
  have begun : Crew.Reaches sharedSite (Operation.recorded processor) .empty stored
      [(op, .ready (op.recorded processor)), (op', .ready (op'.recorded processor))] :=
    .step (.step (.step .start (.others others)) (.begin op)) (.begin op')
  have reached := begun.trans (Crew.leads_play (i := 0) rule_follows rfl stored)
  obtain ⟨⟨⟨told, r⟩, w⟩, played⟩ : ∃ x, rule.play (op.recorded processor) stored = x := ⟨_, rfl⟩
  rw [played] at reached
  exact ⟨w, told, r, played, reached⟩

theorem play_signers :
    (rule.play (processor.accounts.solve processor.solver ((decodeAll [executed]).flatMap (·.envelope.signers)))
      stored).1 = .ok { requested := 1, recovered := 1 } := by
  rw [decodeAll_executed]
  decide +kernel

theorem play_addresses :
    (rule.play (processor.accounts.solve processor.solver ((decodeAll [executed]).flatMap (·.addresses))) stored).1 =
      .ok { requested := 1, recovered := 1 } := by
  rw [decodeAll_executed]
  decide +kernel

/-- Either operation finds the account while the other has begun as well. -/
theorem deposit_resolved : Site.empty.Agrees ∧
    (∃ w told r, Crew.Reaches sharedSite (Operation.recorded processor) .empty w
      [(.transactions (decodeAll [executed]), .ready (.done (told, r))),
        (.messages (decodeAll [executed]), .ready (Operation.recorded processor (.messages (decodeAll [executed]))))] ∧
      ∃ ids, List.Forall₂ (TransactionRow.Records (Gives ids) "c")
        ((decodeAll [executed]).filter (·.timed.execution.height.toNat < signedBound))
        (keepGood (DecodedExecution.row "c" ids) (decodeAll [executed]))) ∧
    ∃ w told r, Crew.Reaches sharedSite (Operation.recorded processor) .empty w
      [(.messages (decodeAll [executed]), .ready (.done (told, r))),
        (.transactions (decodeAll [executed]),
          .ready (Operation.recorded processor (.transactions (decodeAll [executed]))))] ∧
      ∃ ids, (MessageRows.concat (keepGood (DecodedExecution.messageRows "c" ids) (decodeAll [executed]))).HoldsAll
        "c" ids (decodeAll [executed]) := by
  refine ⟨Site.agrees_empty, ?_, ?_⟩
  · obtain ⟨w, told, r, played, reached⟩ := reaches_played (.transactions (decodeAll [executed])) (.messages _)
    refine ⟨w, told, r, reached, ?_⟩
    obtain ⟨rows, -⟩ := solved_rows Site.agrees_empty reached [executed]
    rcases rows _ _ List.mem_cons_self with ⟨e, failed, -⟩ | ⟨s, ids, ⟨solving, rest, rfl, solved, -⟩, yields⟩
    · rw [← List.append_nil told] at played
      cases (Operation.eq_of_play Operation.strand_transactions played failed).trans play_signers
    · cases (Operation.eq_of_play Operation.strand_transactions played solved).trans play_signers
      exact ⟨ids, yields rfl⟩
  · obtain ⟨w, told, r, played, reached⟩ := reaches_played (.messages (decodeAll [executed])) (.transactions _)
    refine ⟨w, told, r, reached, ?_⟩
    obtain ⟨-, rows⟩ := solved_rows Site.agrees_empty reached [executed]
    rcases rows _ _ List.mem_cons_self with ⟨e, failed, -⟩ | ⟨s, ids, ⟨solving, rest, rfl, solved, -⟩, yields⟩
    · rw [← List.append_nil told] at played
      cases (Operation.eq_of_play Operation.strand_messages played failed).trans play_addresses
    · cases (Operation.eq_of_play Operation.strand_messages played solved).trans play_addresses
      exact ⟨ids, yields rfl⟩

end OneDeposit

end ChainIndex
