import ChainIndex.Proofs.Node.Fixed
import ChainIndex.Proofs.Processing.Operations
import ChainIndex.Proofs.Rows.Records

/-!
# The rows that a node defines

Blocks of a node that does not change, and the transactions that they list, define rows once their
addresses have ids: the rows that the transforms give for them, each with the time of its block.

Rows are told apart by their keys (`Defines.eq_of_key`): height and digest lead back to the block and the
transaction, and the number to the message. And they depend on the ids only through the addresses that
they stand for (`Defines.map`).
-/

namespace ChainIndex

open Storage

namespace FixedNode

/-- The rows of the blocks at these heights and of the transactions that they list. -/
inductive Defines (node : FixedNode) (chain : String) (heights : List UInt64) (ids : AddressRole → AddressIds) :
    Row → Prop where
  | block {height : UInt64} {b : Block} {r : BlockRow} (member : height ∈ heights) (known : node.block height = some b)
      (built : blockRow chain (ids .validator) b = .ok r) : Defines node chain heights ids (.block r)
  | signing {height : UInt64} {b : Block} {r : SigningRow} (member : height ∈ heights)
      (known : node.block height = some b) (built : signingRow chain (ids .validator) b = .ok r) :
      Defines node chain heights ids (.signing r)
  | transaction {height : UInt64} {b : Block} {d : DecodedExecution} {r : TransactionRow} (member : height ∈ heights)
      (known : node.block height = some b) (lists : node.Lists b d) (built : d.row chain (ids .account) = .ok r) :
      Defines node chain heights ids (.transaction r)
  | message {height : UInt64} {b : Block} {d : DecodedExecution} {rows : MessageRows} {row : Row}
      (member : height ∈ heights) (known : node.block height = some b) (lists : node.Lists b d)
      (built : d.messageRows chain (ids .account) = .ok rows) (present : row ∈ rows.rows) :
      Defines node chain heights ids row

variable {node : FixedNode} {chain : String} {heights : List UInt64} {ids ids' : AddressRole → AddressIds}
  {row row' : Row}

theorem Defines.mono {heights' : List UInt64} (h : node.Defines chain heights ids row)
    (more : ∀ height ∈ heights, height ∈ heights') : node.Defines chain heights' ids row := by
  cases h with
  | block member known built => exact .block (more _ member) known built
  | signing member known built => exact .signing (more _ member) known built
  | transaction member known lists built => exact .transaction (more _ member) known lists built
  | message member known lists built present => exact .message (more _ member) known lists built present

/-- With other ids for the same addresses, the rows with those ids are defined. -/
theorem Defines.map {f : AddressRole → AddressId → AddressId} (h : node.Defines chain heights ids row)
    (same : ∀ role a id, Gives (ids role) a id → Gives (ids' role) a (f role id)) :
    node.Defines chain heights ids' (row.mapIds f) := by
  cases h with
  | block member known built =>
    exact .block member known (blockRow_eq_ok.2 ((blockRow_eq_ok.1 built).map (same _)))
  | signing member known built =>
    exact .signing member known (signingRow_eq_ok.2 ((signingRow_eq_ok.1 built).map (same _)))
  | transaction member known lists built =>
    exact .transaction member known lists
      (DecodedExecution.row_eq_ok.2 ((DecodedExecution.row_eq_ok.1 built).map (same _)))
  | @message _ _ d rows _ member known lists built present =>
    have built' : d.messageRows chain (ids' .account) = .ok (rows.mapIds (f .account)) := by
      obtain ⟨signers, parts, hSigners, hParts, rfl⟩ := DecodedExecution.messageRows_eq_ok.1 built
      refine DecodedExecution.messageRows_eq_ok.2 ⟨_, _, forall₂_mapIds (same _) hSigners, ?_,
        MessageRows.mapIds_concat _ _⟩
      exact List.forall₂_map_right_iff.2 (hParts.imp fun m part records => records.map (same _))
    refine .message member known lists built' ?_
    rw [MessageRows.rows_mapIds]
    exact List.mem_map_of_mem present

/-- What is defined with some ids is defined with more. -/
theorem Defines.more (h : node.Defines chain heights ids row)
    (more : ∀ role (a : String) id, (ids role)[a]? = some id → (ids' role)[a]? = some id) :
    node.Defines chain heights ids' row := by
  simpa using h.map (f := fun _ id => id) fun role a id gives => ⟨more role a id gives.1, gives.2⟩

theorem gives_unique {ids : AddressIds} : Relator.RightUnique (Gives ids) := fun _ _ _ h h' =>
  Option.some.inj (h.1.symm.trans h'.1)

/-- The key of a message's row tells the transaction and the number of the message. -/
theorem key_of_recordsMessage {means : String → AddressId → Prop} {d : DecodedExecution} {n : NumberedMessage}
    (h : row.RecordsMessage means chain d n) :
    row.key = .message n.message.type d.envelope.hash chain n.counter d.timed.time := by
  cases h with
  | send head _ => exact RowKey.message.injEq .. ▸ ⟨rfl, head.hash, head.chain, head.counter, head.time⟩
  | call head _ => exact RowKey.message.injEq .. ▸ ⟨rfl, head.hash, head.chain, head.counter, head.time⟩
  | addPackage head _ => exact RowKey.message.injEq .. ▸ ⟨rfl, head.hash, head.chain, head.counter, head.time⟩
  | run head _ => exact RowKey.message.injEq .. ▸ ⟨rfl, head.hash, head.chain, head.counter, head.time⟩

/-- Blocks of one stored height are one block. -/
theorem block_of_height {height height' : UInt64} {b b' : Block} {stored stored' : Int64}
    (known : node.block height = some b) (known' : node.block height' = some b') (at_ : stored.toInt = b.height.toNat)
    (at' : stored'.toInt = b'.height.toNat) (same : stored = stored') : b = b' := by
  rw [node.height_of_block known] at at_
  rw [node.height_of_block known', ← same, at_] at at'
  have heights : height = height' := UInt64.toNat_inj.1 (by omega)
  exact Option.some.inj (known.symm.trans (heights ▸ known'))

/-- A row of a message comes from a message of a transaction that a block lists. -/
theorem key_of_message {b : Block} {d : DecodedExecution} {rows : MessageRows} (lists : node.Lists b d)
    (built : d.messageRows chain (ids .account) = .ok rows) (present : row ∈ rows.rows) :
    ∃ n ∈ d.envelope.messages, row.RecordsMessage (Gives (ids .account)) chain d n ∧
      row.key = .message n.message.type d.envelope.hash chain n.counter b.time := by
  obtain ⟨n, member, records⟩ := DecodedExecution.recordsMessage_of_mem built present
  exact ⟨n, member, records, lists.listed.time ▸ key_of_recordsMessage records⟩

/-- **Keys tell rows apart.** Of the rows that a node defines, no two have the same key. -/
theorem Defines.eq_of_key (h : node.Defines chain heights ids row) (h' : node.Defines chain heights ids row')
    (same : row.key = row'.key) : row = row' := by
  cases h with
  | @block height b r _ known built =>
    cases h' with
    | block _ known' built' =>
      obtain ⟨heights, -, -⟩ := RowKey.block.inj same
      obtain rfl := block_of_height known known' (blockRow_eq_ok.1 built).height (blockRow_eq_ok.1 built').height
        heights
      exact congrArg Row.block (Except.ok.inj (built.symm.trans built'))
    | message _ _ lists built' present =>
      obtain ⟨n, -, -, key⟩ := key_of_message lists built' present
      exact nomatch same.trans key
    | _ => exact nomatch same
  | @signing height b r _ known built =>
    cases h' with
    | signing _ known' built' =>
      obtain ⟨heights, -, -⟩ := RowKey.signing.inj same
      obtain rfl :=
        block_of_height known known' (signingRow_eq_ok.1 built).height (signingRow_eq_ok.1 built').height heights
      exact congrArg Row.signing (Except.ok.inj (built.symm.trans built'))
    | message _ _ lists built' present =>
      obtain ⟨n, -, -, key⟩ := key_of_message lists built' present
      exact nomatch same.trans key
    | _ => exact nomatch same
  | @transaction height b d r _ known lists built =>
    cases h' with
    | transaction _ known' lists' built' =>
      obtain ⟨hash, -, -⟩ := RowKey.transaction.inj same
      rw [(DecodedExecution.row_eq_ok.1 built).hash, (DecodedExecution.row_eq_ok.1 built').hash] at hash
      obtain rfl := lists.unique lists' known known' hash
      exact congrArg Row.transaction (Except.ok.inj (built.symm.trans built'))
    | message _ _ lists' built' present =>
      obtain ⟨n, -, -, key⟩ := key_of_message lists' built' present
      exact nomatch same.trans key
    | _ => exact nomatch same
  | @message height b d rows _ _ known lists built present =>
    obtain ⟨n, member, records, key⟩ := key_of_message lists built present
    cases h' with
    | message _ known' lists' built' present' =>
      obtain ⟨n', member', records', key'⟩ := key_of_message lists' built' present'
      obtain ⟨-, hash, -, counter, -⟩ := RowKey.message.inj (key.symm.trans (same.trans key'))
      obtain rfl := lists.unique lists' known known' hash
      obtain rfl := lists.listed.decoded.eq_of_counter member member' counter
      exact records.unique gives_unique records'
    | _ => exact nomatch key.symm.trans same

end FixedNode

/-! ## Rows of operations -/

namespace Operation

variable {node : FixedNode} {chain : String} {heights : List UInt64} {ids ids' : AddressIds} {bs : List Block}
  {ds : List DecodedExecution}

/-- The rows of an operation depend only on the ids of the addresses that it names. -/
theorem rows_congr {op : Operation} (decoded : ∀ ds, op = .messages ds → ∀ d ∈ ds, d.envelope.Decoded)
    (same : ∀ a ∈ op.names, ids[a]? = ids'[a]?) : op.rows chain ids = op.rows chain ids' := by
  have keep : ∀ {α β : Type} {f g : α → Except IndexError β} {as : List α}, (∀ a ∈ as, f a = g a) →
      keepGood f as = keepGood g as := by
    intro α β f g as equal
    exact List.filterMap_congr fun a member => by rw [equal a member]
  have named : ∀ {α : Type} {as : List α} {f : α → List String}, (∀ a ∈ as.flatMap f, ids[a]? = ids'[a]?) →
      ∀ b ∈ as, ∀ a ∈ f b, ids[a]? = ids'[a]? :=
    fun same b member a present => same a (List.mem_flatMap.2 ⟨b, member, present⟩)
  cases op with
  | validatorAddresses bs => rfl
  | blocks bs => exact congrArg (List.map Row.block) (keep fun b member => blockRow_congr (named same b member))
  | signings bs => exact congrArg (List.map Row.signing) (keep fun b member => signingRow_congr (named same b member))
  | transactions ds =>
    exact congrArg (List.map Row.transaction) (keep fun d member => DecodedExecution.row_congr (named same d member))
  | messages ds =>
    refine congrArg (fun parts => (MessageRows.concat parts).rows) (keep fun d member => ?_)
    have ofMessages := named same d member
    exact DecodedExecution.messageRows_congr
      (fun a signs => ofMessages a ((decoded ds rfl d member).signers_subset signs)) ofMessages

/-- The operations that store what a chunk fetched. -/
def ofChunk (bs : List Block) (ds : List DecodedExecution) : List Operation :=
  [.blocks bs, .signings bs, .transactions ds, .messages ds]

/-- What was fetched is what the node tells of these heights. -/
structure Fetched (node : FixedNode) (heights : List UInt64) (bs : List Block) (ds : List DecodedExecution) : Prop where
  blocks : ∀ b, b ∈ bs ↔ ∃ height ∈ heights, node.block height = some b
  decoded : ∀ d, d ∈ ds ↔ ∃ b ∈ bs, node.Lists b d

namespace Fetched

variable (fetched : Fetched node heights bs ds)

include fetched

/-- What operations store, the node defines. -/
theorem defines {op : Operation} (member : op ∈ ofChunk bs ds) {all : AddressRole → AddressIds} {row : Row}
    (h : row ∈ op.rows chain (all op.role)) : node.Defines chain heights all row := by
  simp only [ofChunk, List.mem_cons, List.not_mem_nil, or_false] at member
  rcases member with rfl | rfl | rfl | rfl
  · obtain ⟨r, kept, rfl⟩ := List.mem_map.1 h
    obtain ⟨b, present, built⟩ := mem_keepGood.1 kept
    obtain ⟨height, member, known⟩ := (fetched.blocks b).1 present
    exact .block member known built
  · obtain ⟨r, kept, rfl⟩ := List.mem_map.1 h
    obtain ⟨b, present, built⟩ := mem_keepGood.1 kept
    obtain ⟨height, member, known⟩ := (fetched.blocks b).1 present
    exact .signing member known built
  · obtain ⟨r, kept, rfl⟩ := List.mem_map.1 h
    obtain ⟨d, present, built⟩ := mem_keepGood.1 kept
    obtain ⟨b, of, lists⟩ := (fetched.decoded d).1 present
    obtain ⟨height, member, known⟩ := (fetched.blocks b).1 of
    exact .transaction member known lists built
  · obtain ⟨rows, kept, of⟩ := MessageRows.mem_rows_concat.1 h
    obtain ⟨d, present, built⟩ := mem_keepGood.1 kept
    obtain ⟨b, from_, lists⟩ := (fetched.decoded d).1 present
    obtain ⟨height, member, known⟩ := (fetched.blocks b).1 from_
    exact .message member known lists built of

/-- What the node defines, an operation stores. -/
theorem exists_mem_rows {all : AddressRole → AddressIds} {row : Row} (h : node.Defines chain heights all row) :
    ∃ op ∈ ofChunk bs ds, row ∈ op.rows chain (all op.role) := by
  have block : ∀ {height b}, height ∈ heights → node.block height = some b → b ∈ bs := fun member known =>
    (fetched.blocks _).2 ⟨_, member, known⟩
  cases h with
  | block member known built =>
    exact ⟨.blocks bs, by simp [ofChunk], List.mem_map_of_mem (mem_keepGood.2 ⟨_, block member known, built⟩)⟩
  | signing member known built =>
    exact ⟨.signings bs, by simp [ofChunk], List.mem_map_of_mem (mem_keepGood.2 ⟨_, block member known, built⟩)⟩
  | transaction member known lists built =>
    have present := (fetched.decoded _).2 ⟨_, block member known, lists⟩
    exact ⟨.transactions ds, by simp [ofChunk], List.mem_map_of_mem (mem_keepGood.2 ⟨_, present, built⟩)⟩
  | message member known lists built of =>
    have present := (fetched.decoded _).2 ⟨_, block member known, lists⟩
    exact ⟨.messages ds, by simp [ofChunk], MessageRows.mem_rows_concat.2 ⟨_, mem_keepGood.2 ⟨_, present, built⟩, of⟩⟩

/-- The addresses that operations name are those that blocks and transactions name. -/
theorem names {op : Operation} (member : op ∈ .validatorAddresses bs :: ofChunk bs ds) {a : String} (named : a ∈ op.names)
    (filled : a ≠ "") : node.Names heights op.role a := by
  have ofBlocks : a ∈ bs.flatMap Block.validators → node.Names heights .validator a := by
    intro named
    obtain ⟨b, present, names⟩ := List.mem_flatMap.1 named
    obtain ⟨height, member, known⟩ := (fetched.blocks b).1 present
    exact ⟨filled, height, member, b, known, names⟩
  have ofDecoded : ∀ d ∈ ds, a ∈ d.addresses → node.Names heights .account a := by
    intro d present names
    obtain ⟨b, of, lists⟩ := (fetched.decoded d).1 present
    obtain ⟨height, member, known⟩ := (fetched.blocks b).1 of
    exact ⟨filled, height, member, b, known, d, lists, names⟩
  have decoded : ∀ d ∈ ds, d.envelope.Decoded := fun d present =>
    have ⟨_, _, lists⟩ := (fetched.decoded d).1 present
    lists.listed.decoded
  simp only [ofChunk, List.mem_cons, List.not_mem_nil, or_false] at member
  rcases member with rfl | rfl | rfl | rfl | rfl
  · exact ofBlocks named
  · exact ofBlocks named
  · exact ofBlocks named
  · obtain ⟨d, present, signs⟩ := List.mem_flatMap.1 named
    exact ofDecoded d present ((decoded d present).signers_subset signs)
  · obtain ⟨d, present, names⟩ := List.mem_flatMap.1 named
    exact ofDecoded d present names

end Fetched

end Operation

end ChainIndex
