import ChainIndex.Indexing.Chunk
import ChainIndex.Proofs.Contract.Plan
import ChainIndex.Proofs.Contract.Retry
import ChainIndex.Proofs.Indexing.Defined
import ChainIndex.Proofs.Indexing.Ranges

/-!
# What is fetched from a node that does not change

Whatever the order in which answers come, and in whatever batches transactions are asked for, a chunk
fetches the blocks that the node has at its heights, and the transactions that these list and the node
tells of, each with the time of its block.
-/

namespace ChainIndex

open FixedNode

variable {σ α β γ ε : Type} {G : Growth σ} {C : Contract G} {node : FixedNode} {w : σ}

/-! ## Lists -/

@[simp] theorem mem_successes {results : List (Except Node.Error α)} {a : α} :
    a ∈ successes results ↔ .ok a ∈ results := by
  simp only [successes, List.mem_filterMap]
  constructor
  · rintro ⟨r, member, same⟩
    cases r with
    | ok b =>
      obtain rfl : b = a := Option.some.inj same
      exact member
    | error e => cases same
  · exact fun member => ⟨_, member, rfl⟩

/-- If each result answers for an item, and each item has one, the successes are what is known. -/
theorem mem_successes_iff {items : List γ} {known : γ → Option α} {results : List (Except Node.Error α)}
    (each : ∀ r ∈ results, ∃ c ∈ items, Answers (known c) r) (all : ∀ c ∈ items, ∃ r ∈ results, Answers (known c) r)
    {a : α} : a ∈ successes results ↔ ∃ c ∈ items, known c = some a := by
  rw [mem_successes]
  constructor
  · intro member
    obtain ⟨c, present, answers⟩ := each _ member
    exact ⟨c, present, (answers_iff answers).1 rfl⟩
  · rintro ⟨c, present, found⟩
    obtain ⟨r, member, answers⟩ := all c present
    rwa [← (answers_iff answers).2 found]

/-- The time of a block is found by its height. -/
theorem timeAt_eq {blocks : List Block} (known : ∀ b ∈ blocks, ∃ height, node.block height = some b) {b : Block}
    (member : b ∈ blocks) : timeAt blocks b.height = some b.time := by
  unfold timeAt
  cases found : blocks.reverse.find? (·.height = b.height) with
  | none =>
    have := List.find?_eq_none.1 found b (List.mem_reverse.2 member)
    simp at this
  | some b' =>
    have same : b'.height = b.height := by simpa using List.find?_some found
    obtain ⟨height, at_⟩ := known b member
    obtain ⟨height', at'⟩ := known b' (List.mem_reverse.1 (List.mem_of_find?_eq_some found))
    rw [node.height_of_block at_, node.height_of_block at'] at same
    obtain rfl : b' = b := Option.some.inj (at'.symm.trans (same ▸ at_))
    rfl

/-- With the executions of what blocks list, the decoded transactions are those that the blocks list. -/
theorem mem_decodeAll_timed {blocks : List Block} (known : ∀ b ∈ blocks, ∃ height, node.block height = some b)
    {executions : List Execution}
    (fetched : ∀ e, e ∈ executions ↔ ∃ hash ∈ blocks.flatMap (·.transactions), node.execution hash = some e)
    {d : DecodedExecution} : d ∈ decodeAll (timed blocks executions) ↔ ∃ b ∈ blocks, node.Lists b d := by
  -- The block that lists a transaction is the one at its height.
  have time : ∀ {b hash e}, b ∈ blocks → hash ∈ b.transactions → node.execution hash = some e →
      timeAt blocks e.height = some b.time := by
    intro b hash e member listed executed
    obtain ⟨height, at_⟩ := known b member
    rw [node.height_of_execution executed at_ listed, ← node.height_of_block at_]
    exact timeAt_eq known member
  have mem_timed : ∀ t, t ∈ timed blocks executions ↔
      ∃ e ∈ executions, ∃ moment, timeAt blocks e.height = some moment ∧ ⟨e, moment⟩ = t := by
    simp [timed]
  rw [decodeAll, mem_keepGood]
  constructor
  · rintro ⟨t, member, decoded⟩
    obtain ⟨e, present, moment, at_, rfl⟩ := (mem_timed t).1 member
    obtain ⟨hash, listed, executed⟩ := (fetched e).1 present
    obtain ⟨b, of, listed⟩ := List.mem_flatMap.1 listed
    obtain rfl : b.time = moment := Option.some.inj ((time of listed executed).symm.trans at_)
    exact ⟨b, of, hash, listed, e, executed, decoded⟩
  · rintro ⟨b, of, hash, listed, e, executed, decoded⟩
    have present := (fetched e).2 ⟨hash, List.mem_flatMap.2 ⟨b, of, listed⟩, executed⟩
    exact ⟨⟨e, b.time⟩, (mem_timed _).2 ⟨e, present, b.time, time of listed executed, rfl⟩, decoded⟩

/-! ## Fetching -/

/-- What is known of a contract about the node: anything may be asked, and the node does not change. -/
structure Contract.Asks (C : Contract G) (node : FixedNode) : Prop where
  may_sleep : ∀ w d, C.May w (.sleep d)
  may_token : ∀ w, C.May w .token
  may_request : ∀ w r, C.May w (.request r)
  block : ∀ {w height r}, C.Told w (.request (.block height)) r → Answers (node.block height) r
  execution : ∀ {w hash r}, C.Told w (.request (.execution hash)) r → Answers (node.execution hash) r

namespace Contract.Asks

variable (asks : C.Asks node) {retry : Retry.Params} {ix : Indexer}

include asks

theorem ensures_fetchBlock (height : UInt64) :
    ((Node.Request.block height).fetch retry).Ensures C (fun _ r => Answers (node.block height) r) w :=
  Node.Request.ensures_fetch (fun d w₁ _ _ => asks.may_sleep w₁ d) (fun w₁ _ _ => asks.may_token w₁)
    (fun w₁ _ _ => asks.may_request w₁ _) fun _ _ _ _ told _ _ _ => asks.block told

theorem ensures_fetchExecution (hash : String) :
    ((Node.Request.execution hash).fetch retry).Ensures C (fun _ r => Answers (node.execution hash) r) w :=
  Node.Request.ensures_fetch (fun d w₁ _ _ => asks.may_sleep w₁ d) (fun w₁ _ _ => asks.may_token w₁)
    (fun w₁ _ _ => asks.may_request w₁ _) fun _ _ _ _ told _ _ _ => asks.execution told

theorem ensures_fetchBlocks {r : HeightRange} (valid : r.first ≤ r.last) :
    (fetchBlocks retry r).Ensures C (fun _ out => ∃ results, out = .ok results ∧
      ∀ b, b ∈ successes results ↔ ∃ height ∈ r.heights, node.block height = some b) w := by
  rw [fetchBlocks, if_neg (UInt64.not_lt.2 valid)]
  refine (Plan.ensures_unordered _ fun height _ => asks.ensures_fetchBlock height).bind ?_
  intro results w₁ _ _ holds
  refine Plan.ensures_pure fun w₂ later sound => ⟨results, rfl, fun b => ?_⟩
  obtain ⟨each, all⟩ := holds w₂ later sound
  exact mem_successes_iff each all

theorem ensures_fetchExecutions (hashes : List String) :
    (fetchExecutions retry hashes).Ensures C (fun _ results =>
      ∀ e, e ∈ successes results ↔ ∃ hash ∈ hashes, node.execution hash = some e) w :=
  (Plan.ensures_unordered _ fun hash _ => asks.ensures_fetchExecution hash).mono fun _ w₁ _ sound holds _ =>
    have ⟨each, all⟩ := holds w₁ (G.refl w₁) sound
    mem_successes_iff each all

/-- In whatever batches they are asked for, the transactions that the node tells of come. -/
theorem ensures_fetchBatches (batches : List (List String)) :
    (ix.fetchBatches batches).Ensures C (fun _ executions =>
      ∀ e, e ∈ executions ↔ ∃ hash ∈ batches.flatten, node.execution hash = some e) w := by
  induction batches generalizing w with
  | nil => exact Plan.ensures_pure fun _ _ _ => by simp
  | cons batch batches ih =>
    refine (asks.ensures_fetchExecutions batch).bind ?_
    intro results w₁ _ _ here
    refine ih.bind fun later w₂ later₂ _ there => Plan.ensures_pure fun w₃ later₃ sound₃ e => ?_
    have here := here w₃ (G.trans later₂ later₃) sound₃ e
    have there := there w₃ later₃ sound₃ e
    rw [List.mem_append, here, there, List.flatten_cons]
    simp only [List.mem_append, or_and_right, exists_or]

theorem ensures_fetchTransactions {blocks : List Block} (known : ∀ b ∈ blocks, ∃ height, node.block height = some b) :
    (ix.fetchTransactions blocks).Ensures C (fun _ executions =>
      ∀ d, d ∈ decodeAll executions ↔ ∃ b ∈ blocks, node.Lists b d) w := by
  refine (asks.ensures_fetchBatches _).bind ?_
  intro executions w₁ _ _ fetched
  refine Plan.ensures_pure fun w₂ later₂ sound₂ d => mem_decodeAll_timed known fun e => ?_
  rw [fetched w₂ later₂ sound₂ e, flatten_pieces]

end Contract.Asks

end ChainIndex
