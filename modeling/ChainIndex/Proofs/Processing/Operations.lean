import ChainIndex.Processing
import ChainIndex.Proofs.Address.Learning
import ChainIndex.Proofs.Rows.Table

/-!
# What operations ensure

The five operations on what was fetched, as data: which addresses they name, whether they find ids for
them themselves, and which rows they store with the ids of a book.

`Contract.Serves` says what has to be known of the books and of storage. With it every operation looks
up ids that storage holds, builds its rows from them, and hands these rows and no others to storage
(`ensures_blocks` and the like). Without faults it ends well, and then the rows are stored that it
builds from a book that knows every address.
-/

namespace ChainIndex

open Storage

/-- An operation, with the items that it is about. -/
inductive Operation where
  | validatorAddresses (bs : List Block)
  | blocks (bs : List Block)
  | signings (bs : List Block)
  | transactions (ds : List DecodedExecution)
  | messages (ds : List DecodedExecution)

namespace Operation

/-- What the addresses are used for. -/
def role : Operation → AddressRole
  | .validatorAddresses _ | .blocks _ | .signings _ => .validator
  | .transactions _ | .messages _ => .account

/-- The addresses for which ids are found, by the operation or before it. -/
def names : Operation → List String
  | .validatorAddresses bs | .blocks bs | .signings bs => bs.flatMap Block.validators
  | .transactions ds => ds.flatMap (·.envelope.signers)
  | .messages ds => ds.flatMap DecodedExecution.addresses

/-- The rows that the items yield with the ids of a book. -/
def rows (chain : String) (ids : AddressIds) : Operation → List Row
  | .validatorAddresses _ => []
  | .blocks bs => (keepGood (blockRow chain ids) bs).map .block
  | .signings bs => (keepGood (signingRow chain ids) bs).map .signing
  | .transactions ds => (keepGood (DecodedExecution.row chain ids) ds).map .transaction
  | .messages ds => (MessageRows.concat (keepGood (DecodedExecution.messageRows chain ids) ds)).rows

/-- The operation as it runs, without what it counts. -/
def strand (p : Processor) : Operation → Strand (Except IndexError Unit)
  | .validatorAddresses bs => Except.map (fun _ => ()) <$> p.validatorAddresses bs
  | .blocks bs => Except.map (fun _ => ()) <$> p.blocks bs
  | .signings bs => Except.map (fun _ => ()) <$> p.signings bs
  | .transactions ds => Except.map (fun _ => ()) <$> p.transactions ds
  | .messages ds => Except.map (fun _ => ()) <$> p.messages ds

end Operation

/-- The book in which a processor keeps the addresses of a role. -/
def Processor.bookOf (p : Processor) : AddressRole → BookRef
  | .account => p.accounts
  | .validator => p.validators

/-- The books of a processor are about its chain, one for each role. -/
def Processor.Wired (p : Processor) : Prop := ∀ role, (p.bookOf role).space = ⟨p.chain, role⟩

variable {σ : Type} {G : Growth σ} {C : Contract G} {w : σ}

/-- What is known of the books and of storage while operations run. Rows that are `Fit` may be stored,
and if storage is not `faulty` it `Has` from then on what it is given. -/
structure Contract.Serves (C : Contract G) (p : Processor) (named : AddressRole → String → Prop)
    (Holds : σ → AddressRole → String → AddressId → Prop) (Knows Stores : σ → AddressRole → String → Prop)
    (Fit Has : σ → Row → Prop) (faulty : Prop) : Prop where
  teaches : ∀ role, C.Teaches (p.bookOf role) (named role) (Holds · role) (Knows · role) (Stores · role) faulty
  entries : ∀ {w role a id} {ids : AddressIds}, G.Sound w → C.Told w (.book (p.bookOf role) .entries) ids →
    ids[a]? = some id → Holds w role a id
  knows : ¬faulty → ∀ {w role a} {ids : AddressIds}, C.Told w (.book (p.bookOf role) .entries) ids → Knows w role a →
    a ∈ ids
  may_store : ∀ {w b}, b.length ≠ 0 → (∀ row ∈ b.rows, Fit w row) → C.May w (.call (.insert b))
  has_later : ∀ {w w' row}, G.Later w w' → Has w row → Has w' row
  stored : ¬faulty → ∀ {w b r}, C.Told w (.call (.insert b)) r → (∃ n, r = .ok n) ∧ ∀ row ∈ b.rows, Has w row

/-- Of storage that may fail nothing has to be known but what its answers tell of ids. -/
theorem Contract.serves_of_faulty {p : Processor} {Holds : σ → AddressRole → String → AddressId → Prop}
    {Fit : σ → Row → Prop}
    (holds_later : ∀ {w w' role a id}, G.Later w w' → Holds w role a id → Holds w' role a id)
    (may_ask : ∀ w q, (∀ b, q ≠ .call (.insert b)) → (∀ ref a id, q ≠ .book ref (.learn a id)) → C.May w q)
    (may_learn : ∀ {w role a id}, Holds w role a id → C.May w (.book (p.bookOf role) (.learn a id)))
    (found : ∀ {w role asked a id} {ids : AddressIds},
      C.Told w (.call (.find (p.bookOf role).space asked)) (.ok ids) → ids[a]? = some id → Holds w role a id)
    (entries : ∀ {w role a id} {ids : AddressIds}, G.Sound w → C.Told w (.book (p.bookOf role) .entries) ids →
      ids[a]? = some id → Holds w role a id)
    (may_store : ∀ {w b}, b.length ≠ 0 → (∀ row ∈ b.rows, Fit w row) → C.May w (.call (.insert b))) :
    C.Serves p (fun _ _ => True) Holds (fun _ _ _ => True) (fun _ _ _ => True) Fit (fun _ _ => True) True where
  teaches _ :=
    { holds_later
      stores_later := fun _ _ => trivial
      knows_later := fun _ _ => trivial
      may_sleep := fun w _ => may_ask w _ nofun nofun
      may_look := fun w => may_ask w _ nofun (by simp)
      may_find := fun w _ _ => may_ask w _ nofun nofun
      may_insert := fun w _ _ => may_ask w _ nofun nofun
      may_learn
      looked := fun _ _ => trivial
      found
      learnt := fun _ => trivial
      inserts := fun sane => absurd trivial sane
      finds := fun sane => absurd trivial sane }
  entries
  knows sane := absurd trivial sane
  may_store
  has_later _ _ := trivial
  stored sane := absurd trivial sane

namespace Operation

/-- With ids that storage holds, an operation builds only rows that may be stored. -/
def Fits (G : Growth σ) (chain : String) (Holds : σ → AddressRole → String → AddressId → Prop) (Fit : σ → Row → Prop)
    (op : Operation) : Prop :=
  ∀ w ids, G.Sound w → (∀ a id, ids[a]? = some id → Holds w op.role a id) → ∀ row ∈ op.rows chain ids, Fit w row

/-- The book knows the addresses that the operation names, and storage has the rows that it yields with
ids for all of them. -/
structure Done (chain : String) (Holds : σ → AddressRole → String → AddressId → Prop)
    (Knows : σ → AddressRole → String → Prop) (Has : σ → Row → Prop) (op : Operation) (w : σ) : Prop where
  known : ∀ a ∈ op.names, a ≠ "" → Knows w op.role a
  stored : ∃ ids : AddressIds, (∀ a id, ids[a]? = some id → Holds w op.role a id) ∧
    (∀ a ∈ op.names, a ≠ "" → a ∈ ids) ∧ ∀ row ∈ op.rows chain ids, Has w row

end Operation

namespace Contract.Serves

variable {p : Processor} {named : AddressRole → String → Prop} {Holds : σ → AddressRole → String → AddressId → Prop}
  {Knows Stores : σ → AddressRole → String → Prop} {Fit Has : σ → Row → Prop} {faulty : Prop}

theorem ensures_store (serves : C.Serves p named Holds Knows Stores Fit Has faulty) {b : Batch}
    (fit : ∀ row ∈ b.rows, G.Always w (Fit · row)) :
    (Processor.store b).Ensures C
      (fun w₁ r => ¬faulty → (∃ n, r = .ok n) ∧ ∀ row ∈ b.rows, Has w₁ row) w := by
  unfold Processor.store
  by_cases nothing : b.length = 0
  · rw [if_pos nothing, Batch.rows_of_length nothing]
    exact Strand.ensures_pure fun _ _ _ _ => ⟨⟨_, rfl⟩, by simp⟩
  · rw [if_neg nothing]
    have may : G.Always w (C.Allows · (.call (.insert b))) := fun w₁ later sound =>
      serves.may_store nothing fun row member => fit row member w₁ later sound
    refine Strand.ensures_query may ?_
    intro r w₁ _ _ told
    cases r with
    | ok written =>
      refine Strand.ensures_pure fun w₂ later _ sane => ⟨⟨_, rfl⟩, fun row member => ?_⟩
      exact serves.has_later later ((serves.stored sane told).2 row member)
    | error e =>
      refine Strand.ensures_pure ?_
      intro _ _ _ sane
      obtain ⟨n, same⟩ := (serves.stored sane told).1
      cases same

/-- Several batches are stored like one. -/
theorem ensures_storeAll (serves : C.Serves p named Holds Knows Stores Fit Has faulty) {batches : List Batch}
    {report : Except Storage.Error UInt64 → Strand (Except IndexError UInt64)}
    (accepted : ∀ n, report (.ok n) = pure (.ok n)) (refused : ∀ e, report (.error e) = pure (.error (.persistence e)))
    (filled : ∀ b ∈ batches, b.length ≠ 0) (fit : ∀ b ∈ batches, ∀ row ∈ b.rows, G.Always w (Fit · row)) :
    (Strand.query (.insertAll batches) >>= report).Ensures C
      (fun w₁ r => ¬faulty → (∃ n, r = .ok n) ∧ ∀ b ∈ batches, ∀ row ∈ b.rows, Has w₁ row) w := by
  have may : G.Always w (C.Allows · (.insertAll batches)) := fun w₁ later sound b member =>
    serves.may_store (filled b member) fun row present => fit b member row present w₁ later sound
  refine Strand.ensures_query may ?_
  intro r w₁ _ _ told
  cases r with
  | ok written =>
    rw [accepted]
    refine Strand.ensures_pure fun w₂ later _ sane => ⟨⟨_, rfl⟩, fun b member row present => ?_⟩
    obtain ⟨n, told'⟩ := told b member
    exact serves.has_later later ((serves.stored sane told').2 row present)
  | error e =>
    rw [refused]
    refine Strand.ensures_pure ?_
    intro _ _ _ sane
    obtain ⟨b, -, told'⟩ := told
    obtain ⟨n, same⟩ := (serves.stored sane told').1
    cases same

/-- An operation looks its ids up, once they are known, and stores the rows that they give. -/
theorem ensures_look (serves : C.Serves p named Holds Knows Stores Fit Has faulty) {op : Operation}
    (fits : op.Fits G p.chain Holds Fit) (known : ¬faulty → ∀ a ∈ op.names, a ≠ "" → Knows w op.role a)
    {write : AddressIds → Strand (Except IndexError UInt64)}
    (writes : ∀ ids, G.Always w fun w₁ => (∀ row ∈ op.rows p.chain ids, G.Always w₁ (Fit · row)) →
      (write ids).Ensures C (fun w₂ r => ¬faulty → (∃ n, r = .ok n) ∧ ∀ row ∈ op.rows p.chain ids, Has w₂ row) w₁) :
    (Strand.book (p.bookOf op.role) .entries >>= write).Ensures C
      (fun w₁ r => ¬faulty → (∃ n, r = .ok n) ∧ op.Done p.chain Holds Knows Has w₁) w := by
  have teaches := serves.teaches op.role
  refine Strand.ensures_query (fun w₁ _ _ => teaches.may_look w₁) ?_
  intro (ids : AddressIds) w₁ later₁ sound₁ told
  have holds : ∀ {w₂}, G.Later w₁ w₂ → ∀ a id, ids[a]? = some id → Holds w₂ op.role a id :=
    fun later₂ a id found => teaches.holds_later later₂ (serves.entries sound₁ told found)
  have fit : ∀ row ∈ op.rows p.chain ids, G.Always w₁ (Fit · row) := fun row member w₂ later₂ sound₂ =>
    fits w₂ ids sound₂ (holds later₂) row member
  refine (writes ids w₁ later₁ sound₁ fit).mono ?_
  intro r w₂ later₂ sound₂ stored sane
  obtain ⟨good, has⟩ := stored w₂ (G.refl w₂) sound₂ sane
  have known₁ : ∀ a ∈ op.names, a ≠ "" → Knows w₁ op.role a := fun a member filled =>
    teaches.knows_later later₁ (known sane a member filled)
  refine ⟨good, fun a member filled => ?_, ids, holds later₂, fun a member filled => ?_, has⟩
  · exact teaches.knows_later later₂ (known₁ a member filled)
  · exact serves.knows sane told (known₁ a member filled)

/-- An operation that finds ids first goes on when all addresses are known that can be. -/
theorem ensures_solving (serves : C.Serves p named Holds Knows Stores Fit Has faulty) {o : Operation}
    (names : ∀ a ∈ o.names, a ≠ "" → named o.role a) {α : Type} {post : σ → Except IndexError α → Prop}
    {rest : Except Storage.Error SolveSummary → Strand (Except IndexError α)}
    (refused : ∀ e, rest (.error e) = pure (.error (.persistence e)))
    (goOn : ∀ summary, G.Always w fun w₁ => (¬faulty → ∀ a ∈ o.names, a ≠ "" → Knows w₁ o.role a) →
      (rest (.ok summary)).Ensures C (fun w₂ r => ¬faulty → post w₂ r) w₁) :
    ((p.bookOf o.role).solve p.solver o.names >>= rest).Ensures C (fun w₁ r => ¬faulty → post w₁ r) w := by
  refine ((serves.teaches o.role).ensures_solve names).bind ?_
  intro r w₁ later sound solved
  cases r with
  | error e =>
    rw [refused]
    refine Strand.ensures_pure ?_
    intro w₂ later₂ sound₂ sane
    obtain ⟨⟨s, same⟩, -⟩ := solved w₂ later₂ sound₂ sane
    cases same
  | ok summary => exact goOn summary w₁ later sound fun sane => (solved w₁ (G.refl w₁) sound sane).2

/-! ## The operations -/

theorem ensures_validatorAddresses (serves : C.Serves p named Holds Knows Stores Fit Has faulty) {bs : List Block}
    (names : ∀ a ∈ bs.flatMap Block.validators, a ≠ "" → named .validator a) :
    (p.validatorAddresses bs).Ensures C (fun w₁ r => ¬faulty →
      (∃ n, r = .ok n) ∧ ∀ a ∈ bs.flatMap Block.validators, a ≠ "" → Knows w₁ .validator a) w := by
  refine serves.ensures_solving (o := .validatorAddresses bs) names (fun _ => rfl) ?_
  intro _ w₁ _ _ known
  refine Strand.ensures_pure fun w₂ later₂ _ sane => ⟨⟨_, rfl⟩, fun a member filled => ?_⟩
  exact (serves.teaches .validator).knows_later later₂ (known sane a member filled)

theorem ensures_blocks (serves : C.Serves p named Holds Knows Stores Fit Has faulty) {bs : List Block}
    (fits : (Operation.blocks bs).Fits G p.chain Holds Fit)
    (known : ¬faulty → ∀ a ∈ bs.flatMap Block.validators, a ≠ "" → Knows w .validator a) :
    (p.blocks bs).Ensures C (fun w₁ r => ¬faulty →
      (∃ n, r = .ok n) ∧ (Operation.blocks bs).Done p.chain Holds Knows Has w₁) w :=
  serves.ensures_look fits known fun ids _ _ _ fit =>
    serves.ensures_store (b := .blocks (keepGood (blockRow p.chain ids) bs)) fit

theorem ensures_signings (serves : C.Serves p named Holds Knows Stores Fit Has faulty) {bs : List Block}
    (fits : (Operation.signings bs).Fits G p.chain Holds Fit)
    (known : ¬faulty → ∀ a ∈ bs.flatMap Block.validators, a ≠ "" → Knows w .validator a) :
    (p.signings bs).Ensures C (fun w₁ r => ¬faulty →
      (∃ n, r = .ok n) ∧ (Operation.signings bs).Done p.chain Holds Knows Has w₁) w :=
  serves.ensures_look fits known fun ids _ _ _ fit =>
    serves.ensures_store (b := .signings (keepGood (signingRow p.chain ids) bs)) fit

theorem ensures_transactions (serves : C.Serves p named Holds Knows Stores Fit Has faulty) {ds : List DecodedExecution}
    (names : ∀ a ∈ ds.flatMap (·.envelope.signers), a ≠ "" → named .account a)
    (fits : (Operation.transactions ds).Fits G p.chain Holds Fit) :
    (p.transactions ds).Ensures C (fun w₁ r => ¬faulty →
      (∃ n, r = .ok n) ∧ (Operation.transactions ds).Done p.chain Holds Knows Has w₁) w := by
  refine serves.ensures_solving (o := .transactions ds) names (fun _ => rfl) ?_
  intro _ w₁ _ _ known
  exact serves.ensures_look fits known fun ids _ _ _ fit =>
    serves.ensures_store (b := .transactions (keepGood (DecodedExecution.row p.chain ids) ds)) fit

theorem ensures_messages (serves : C.Serves p named Holds Knows Stores Fit Has faulty) {ds : List DecodedExecution}
    (names : ∀ a ∈ ds.flatMap DecodedExecution.addresses, a ≠ "" → named .account a)
    (fits : (Operation.messages ds).Fits G p.chain Holds Fit) :
    (p.messages ds).Ensures C (fun w₁ r => ¬faulty →
      (∃ n, r = .ok n) ∧ (Operation.messages ds).Done p.chain Holds Knows Has w₁) w := by
  refine serves.ensures_solving (o := .messages ds) names (fun _ => rfl) ?_
  intro _ w₁ _ _ known
  refine serves.ensures_look fits known ?_
  intro ids w₂ _ _ fit
  let rows := MessageRows.concat (keepGood (DecodedExecution.messageRows p.chain ids) ds)
  change Strand.Ensures C _ (if rows.length = 0 then _ else _) w₂
  by_cases nothing : rows.length = 0
  · rw [if_pos nothing]
    refine Strand.ensures_pure fun _ _ _ _ => ⟨⟨_, rfl⟩, fun row member => ?_⟩
    rw [show (Operation.messages ds).rows p.chain ids = [] from MessageRows.rows_of_length nothing] at member
    simp at member
  · rw [if_neg nothing]
    have fit' : ∀ b ∈ rows.batches, ∀ row ∈ b.rows, G.Always w₂ (Fit · row) := fun b member row present =>
      fit row (MessageRows.exists_mem_batches.1 ⟨b, member, present⟩)
    have filled : ∀ b ∈ rows.batches, b.length ≠ 0 := fun b => MessageRows.length_of_mem_batches
    refine Strand.Ensures.mono (serves.ensures_storeAll (fun _ => rfl) (fun _ => rfl) filled fit') ?_
    intro r w₃ _ sound₃ stored sane
    obtain ⟨good, has⟩ := stored w₃ (G.refl w₃) sound₃ sane
    refine ⟨good, fun row member => ?_⟩
    obtain ⟨b, present, member⟩ := MessageRows.exists_mem_batches.2 member
    exact has b present row member

end Contract.Serves

end ChainIndex
