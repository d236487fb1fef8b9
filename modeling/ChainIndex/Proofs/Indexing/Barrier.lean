import ChainIndex.Indexing.Chunk
import ChainIndex.Proofs.Processing.Operations
import ChainIndex.Proofs.Running.Calls
import ChainIndex.Proofs.Running.Joined

/-!
# The barrier between the two phases

Every run of a chunk, finished or not, is in one of four situations (`ChunkRun`): it still fetches; the
three operations of the first phase are on their way; all three have ended and one of them failed, and
with that the chunk; or all three have ended well and the second phase goes on. No schedule and no
failure leads anywhere else.

**The barrier** (`ChunkRun.barrier`). So block and signing rows are put to storage only after all
three operations of the first phase have ended well.
-/

namespace ChainIndex

open Storage

/-- Whether the question fetches, or paces a fetch. -/
def Query.isFetching : Query → Bool
  | .request _ | .token | .sleep _ => true
  | _ => false

/-- Whether the question fetches a block, or paces a fetch. -/
def Query.isBlockFetching : Query → Bool
  | .request (.block _) | .token | .sleep _ => true
  | _ => false

theorem Query.isFetching_of_isBlockFetching {q : Query} (h : q.isBlockFetching) : q.isFetching := by
  cases q with
  | request | token | sleep => rfl
  | _ => cases h

namespace Storage

/-- Whether the rows are for one of the tables that only the second phase writes. -/
def Batch.isLate : Batch → Bool
  | .blocks _ | .signings _ => true
  | _ => false

def Row.isLate : Row → Bool
  | .block _ | .signing _ => true
  | _ => false

theorem Batch.isLate_of_mem {b : Batch} {row : Row} (h : row ∈ b.rows) : row.isLate = b.isLate := by
  cases b <;> obtain ⟨r, -, rfl⟩ := List.mem_map.1 h <;> rfl

theorem MessageRows.isLate_of_mem {m : MessageRows} {row : Row} (h : row ∈ m.rows) : row.isLate = false := by
  obtain ⟨b, member, present⟩ := exists_mem_batches.2 h
  rw [Batch.isLate_of_mem present]
  simp only [batches, List.mem_filter, List.mem_cons, List.not_mem_nil, or_false] at member
  obtain ⟨rfl | rfl | rfl | rfl, -⟩ := member <;> rfl

end Storage

/-- Whether the question is a write of the second phase. -/
def Query.isLateWrite : Query → Bool
  | .call (.insert b) => b.isLate
  | _ => false

theorem firstError_eq_ok {ε α : Type} {results : List (Except ε α)} :
    firstError results = .ok () ↔ ∀ r ∈ results, ∃ a, r = .ok a := by
  induction results with
  | nil => simp [firstError]
  | cons r results ih =>
    cases r with
    | error e => simp [firstError]
    | ok a => simp [firstError, ih]

theorem mem_of_firstError {ε α : Type} {results : List (Except ε α)} {e : ε} (h : firstError results = .error e) :
    .error e ∈ results := by
  induction results with
  | nil => cases h
  | cons r results ih =>
    cases r with
    | error e' =>
      obtain rfl := Except.error.inj h
      exact List.mem_cons_self
    | ok a => exact List.mem_cons_of_mem _ (ih h)

/-- The operations of the first phase, side by side. -/
def Indexer.firstOperations (ix : Indexer) (bs : List Block) (ds : List DecodedExecution) :
    List (Strand (Except IndexError Unit)) :=
  [Operation.validatorAddresses bs, .transactions ds, .messages ds].map (·.strand ix.processor)

namespace Running

variable {σ : Type}

/-- A run that fetches the blocks of a range and the transactions that they list. -/
inductive FetchRun (ix : Indexer) (E : Environment σ) (range : HeightRange) :
    List Event → σ → List Block → List DecodedExecution → Prop where
  | intro {es es' : List Event} {w w₁ w₂ : σ} {results : List (Except Node.Error Block)}
      {executions : List TimedExecution}
      (blocks : Completes E (fetchBlocks ix.fetchRetry range) w es w₁ (.ok results))
      (transactions : Completes E (ix.fetchTransactions (successes results)) w₁ es' w₂ executions) :
      FetchRun ix E range (es ++ es') w₂ (successes results) (decodeAll executions)

/-- How far a run of a chunk has come, with what was seen of it. -/
inductive ChunkRun (ix : Indexer) (E : Environment σ) (range : HeightRange) :
    List Event → Stage (Except IndexError ChunkReport) → Prop where
  /-- It only fetched, and if it is over there was nothing to store. -/
  | fetching {es : List Event} {s : Stage (Except IndexError ChunkReport)} (fetched : Asked (·.isFetching) es)
      (nothing : ∀ {r}, s = .done r → r = .error (invalidRange range) ∨ r = .ok (.ofEmpty range)) :
      ChunkRun ix E range es s
  /-- The operations of the first phase are on their way. -/
  | first {es es₁ : List Event} {s : Stage (Except IndexError ChunkReport)} {bs : List Block}
      {ds : List DecodedExecution} {w w₁ : σ} {s₁ : Stage (List (Except IndexError Unit))}
      (fetched : FetchRun ix E range es w bs ds)
      (run : Steps E w (start (Plan.joined (ix.firstOperations bs ds))) es₁ w₁ s₁)
      (early : Asked (¬·.isLateWrite) es₁) (going : s.isDone = false) : ChunkRun ix E range (es ++ es₁) s
  /-- They have all ended, one of them failed, and that is the end of the chunk. -/
  | failed {es es₁ : List Event} {bs : List Block} {ds : List DecodedExecution} {w w₁ : σ}
      {rs : List (Except IndexError Unit)} {e : IndexError} (fetched : FetchRun ix E range es w bs ds)
      (run : Completes E (Plan.joined (ix.firstOperations bs ds)) w es₁ w₁ rs) (early : Asked (¬·.isLateWrite) es₁)
      (ended : ∀ i < 3, ∃ r, rs[i]? = some r ∧ .ended i r ∈ es₁) (error : firstError rs = .error e) :
      ChunkRun ix E range (es ++ es₁) (.done (.error e))
  /-- They have all ended well, and the second phase is on its way or over. -/
  | second {es es₁ es₂ : List Event} {s : Stage (Except IndexError ChunkReport)} {bs : List Block}
      {ds : List DecodedExecution} {w w₁ w₂ : σ} {rs : List (Except IndexError Unit)}
      {s₂ : Stage (Except IndexError Unit)} (fetched : FetchRun ix E range es w bs ds)
      (run : Completes E (Plan.joined (ix.firstOperations bs ds)) w es₁ w₁ rs) (early : Asked (¬·.isLateWrite) es₁)
      (ended : ∀ i < 3, rs[i]? = some (.ok ()) ∧ .ended i (.ok () : Except IndexError Unit) ∈ es₁)
      (later : Steps E w₁ (start (ix.secondPhase bs)) es₂ w₂ s₂)
      (finished : ∀ {r}, s = .done r → s₂ = .done (r.map fun _ => ())) : ChunkRun ix E range (es ++ es₁ ++ es₂) s

end Running

/-! ## What a chunk asks -/

section

variable {σ : Type} {w : σ}

/-- Blocks are only fetched, and in vain only if the range is empty. -/
theorem asks_fetchBlocks {retry : Retry.Params} {range : HeightRange} :
    (fetchBlocks retry range).Ensures (.only σ (·.isBlockFetching))
      (fun _ r => ∀ {e}, r = .error e → e = invalidRange range) w := by
  unfold fetchBlocks
  by_cases empty : range.last < range.first
  · rw [if_pos empty]
    exact Plan.ensures_pure fun _ _ _ e same => (Except.error.inj same).symm
  · rw [if_neg empty]
    refine (Plan.asks_unordered fun s member => ?_).bind fun _ _ _ _ _ => Plan.ensures_pure fun _ _ _ e => nofun
    obtain ⟨height, -, rfl⟩ := List.mem_map.1 member
    exact Node.Request.asks_fetch (r := .block height) (fun _ => rfl) rfl rfl

theorem Indexer.asks_fetchTransactions {ix : Indexer} {bs : List Block} :
    (ix.fetchTransactions bs).Ensures (.only σ (·.isFetching)) (fun _ _ => True) w := by
  have batches : ∀ {batches : List (List String)} {w : σ},
      (ix.fetchBatches batches).Ensures (.only σ (·.isFetching)) (fun _ _ => True) w := by
    intro batches
    induction batches with
    | nil => exact Plan.asks_pure []
    | cons batch rest ih =>
      intro w
      refine (Plan.asks_unordered fun s member => ?_).bind fun _ _ _ _ _ => ih.bind fun _ _ _ _ _ =>
        Plan.asks_pure _
      obtain ⟨hash, -, rfl⟩ := List.mem_map.1 member
      exact Node.Request.asks_fetch (r := .execution hash) (fun _ => rfl) rfl rfl
  exact batches.bind fun _ _ _ _ _ => Plan.asks_pure _

/-- Where nothing is known of storage, rows of the first phase may be put to it. -/
theorem serves_early (σ : Type) (p : Processor) :
    (Contract.only σ (¬·.isLateWrite)).Serves p (fun _ _ => True) (fun _ _ _ _ => True) (fun _ _ _ => True)
      (fun _ _ _ => True) (fun _ row => row.isLate = false) (fun _ _ => True) True := by
  refine Contract.serves_of_faulty (fun _ _ => trivial) ?_ (fun _ => nofun) (fun _ _ => trivial)
    (fun _ _ _ => trivial) ?_
  · intro w q unstored _
    cases q with
    | call c =>
      cases c with
      | insert b => exact absurd rfl (unstored b)
      | _ => exact nofun
    | _ => exact nofun
  · intro w b filled early
    obtain ⟨row, member⟩ := List.exists_mem_of_length_pos (Nat.pos_of_ne_zero (b.length_rows ▸ filled))
    show ¬b.isLate
    rw [← Batch.isLate_of_mem member, early row member]
    exact nofun

/-- No operation of the first phase puts a row of the second to storage. -/
theorem Indexer.asks_firstOperations {ix : Indexer} {bs : List Block} {ds : List DecodedExecution} :
    (Plan.joined (ix.firstOperations bs ds)).Ensures (.only σ (¬·.isLateWrite)) (fun _ _ => True) w := by
  have serves := serves_early σ ix.processor
  refine Plan.ensures_fork (fun _ _ _ => True) (fun i s at_ => ?_) fun _ _ _ _ _ _ _ _ => trivial
  have member := List.mem_of_getElem? at_
  simp only [firstOperations, List.map_cons, List.map_nil, List.mem_cons, List.not_mem_nil, or_false] at member
  rcases member with rfl | rfl | rfl
  · exact (serves.ensures_validatorAddresses fun _ _ _ => trivial).map fun _ _ _ _ _ => trivial
  · refine (serves.ensures_transactions (fun _ _ _ => trivial) ?_).map fun _ _ _ _ _ => trivial
    intro w ids _ _ row member
    obtain ⟨r, -, rfl⟩ := List.mem_map.1 member
    rfl
  · refine (serves.ensures_messages (fun _ _ _ => trivial) ?_).map fun _ _ _ _ _ => trivial
    exact fun w ids _ _ row member => MessageRows.isLate_of_mem member

end

/-! ## Every run keeps to the phases -/

namespace Running

variable {σ : Type} {E : Environment σ} {w w' : σ} {ix : Indexer} {range : HeightRange}

theorem Asked.isFetching {es : List Event} (h : Asked (·.isBlockFetching) es) : Asked (·.isFetching) es :=
  h.mono Query.isFetching_of_isBlockFetching

theorem Asked.not_isLateWrite {es : List Event} (h : Asked (·.isFetching) es) : Asked (¬·.isLateWrite) es :=
  h.mono fun {q} fetching => by
    cases q with
    | call c => simp [Query.isFetching] at fetching
    | _ => simp [Query.isLateWrite]

theorem FetchRun.early {es : List Event} {bs : List Block} {ds : List DecodedExecution}
    (h : FetchRun ix E range es w bs ds) : Asked (¬·.isLateWrite) es := by
  obtain ⟨blocks, transactions⟩ := h
  have fetched := (Steps.asks asks_fetchBlocks blocks).isFetching
  exact (fetched.append (Steps.asks Indexer.asks_fetchTransactions transactions)).not_isLateWrite

/-- **The barrier.** Before a write of the second phase, all operations of the first have ended well. -/
theorem ChunkRun.barrier {es pre post : List Event} {s : Stage (Except IndexError ChunkReport)} {who : Asker}
    {q : Query} (h : ChunkRun ix E range es s) (split : es = pre ++ .asked who q :: post) (late : q.isLateWrite) :
    ∀ i < 3, .ended i (.ok () : Except IndexError Unit) ∈ pre := by
  have present : .asked who q ∈ es := split ▸ by simp
  cases h with
  | fetching fetched _ => exact absurd late (fetched.not_isLateWrite who q present)
  | first fetched run early going => exact absurd late (fetched.early.append early who q present)
  | failed fetched run early ended error => exact absurd late (fetched.early.append early who q present)
  | @second es es₁ es₂ _ _ _ _ _ _ _ _ fetched run early ended later finished =>
    -- The write lies in the second phase, so all of the first lies before it.
    have before : .asked who q ∉ es ++ es₁ := fun member => fetched.early.append early who q member late
    have ended : ∀ i < 3, .ended i (.ok () : Except IndexError Unit) ∈ es ++ es₁ := fun i bound =>
      List.mem_append_right _ (ended i bound).2
    rcases List.append_eq_append_iff.1 split with ⟨more, rfl, -⟩ | ⟨more, same, rest⟩
    · exact fun i bound => List.mem_append_left _ (ended i bound)
    · cases more with
      | nil =>
        rw [List.append_nil] at same
        exact same ▸ ended
      | cons event more =>
        obtain ⟨rfl, -⟩ := List.cons.inj rest
        exact absurd (same ▸ by simp) before

/-- The first phase comes to its end when each of its operations has. -/
theorem Completes.firstPhase {bs : List Block} {ds : List DecodedExecution} {es : List Event}
    {r : Except IndexError Unit} (h : Completes E (ix.firstPhase bs ds) w es w' r) :
    ∃ rs, Completes E (Plan.joined (ix.firstOperations bs ds)) w es w' rs ∧ r = firstError rs ∧
      ∀ i < 3, ∃ r, rs[i]? = some r ∧ .ended i r ∈ es := by
  obtain ⟨s, run, -, ends⟩ := steps_start_bind_pure (fun _ => rfl) h
  obtain ⟨rs, rfl, rfl⟩ := ends rfl
  have came := Completes.came_of_joined run
  refine ⟨rs, run, rfl, fun i bound => ?_⟩
  have at_ := List.getElem?_eq_getElem (l := rs) (i := i) (came.length ▸ bound)
  exact ⟨_, at_, came.ended.2 at_⟩

/-- From the storing on. -/
theorem chunkRun_of_storeChunk {results : List (Except Node.Error Block)} {es₀ es : List Event} {w₀ : σ}
    {s : Stage (Except IndexError ChunkReport)}
    (blocks : Completes E (fetchBlocks ix.fetchRetry range) w₀ es₀ w (.ok results))
    (h : Steps E w (start (ix.storeChunk range (successes results))) es w' s) : ChunkRun ix E range (es₀ ++ es) s := by
  rcases steps_start_bind h with ⟨s₁, run, going, rfl⟩ | ⟨executions, es₁, es₂, w₁, run, rest, rfl⟩
  · have fetched := (Steps.asks asks_fetchBlocks blocks).isFetching
    exact .fetching (fetched.append (run.asks Indexer.asks_fetchTransactions)) fun same =>
      absurd same (Stage.bind_ne_done going)
  have fetched := FetchRun.intro blocks run
  rw [← List.append_assoc]
  rcases steps_start_bind rest with ⟨s₁, run, going, rfl⟩ | ⟨r, es₂, es₃, w₂, run, rest, rfl⟩
  · obtain ⟨s₂, joined, -, -⟩ := steps_start_bind_pure (fun _ => rfl) run
    exact .first fetched joined (joined.asks Indexer.asks_firstOperations) (Stage.isDone_bind going _)
  obtain ⟨rs, joined, rfl, each⟩ := Completes.firstPhase run
  have early := Steps.asks Indexer.asks_firstOperations joined
  -- All three operations have ended; what follows hangs on whether one of them failed.
  cases error : firstError rs with
  | error e =>
    rw [error] at rest
    obtain ⟨rfl, rfl⟩ := steps_done rest
    rw [List.append_nil]
    exact .failed fetched joined early each error
  | ok _ =>
    rw [error] at rest
    have ended : ∀ i < 3, rs[i]? = some (.ok ()) ∧ .ended i (.ok () : Except IndexError Unit) ∈ es₂ := fun i bound => by
      obtain ⟨r, at_, ended⟩ := each i bound
      obtain ⟨_, rfl⟩ := firstError_eq_ok.1 error r (List.mem_of_getElem? at_)
      exact ⟨at_, ended⟩
    let report : ChunkReport := ⟨range, (successes results).length, executions.length, .processed⟩
    obtain ⟨s₃, second, -, ends⟩ := steps_start_bind_pure (g := Except.map fun _ => report)
      (by rintro (e | _) <;> rfl) rest
    rw [← List.append_assoc]
    refine .second fetched joined early ended second fun same => ?_
    obtain ⟨r, rfl, rfl⟩ := ends same
    cases r <;> rfl

/-- **Every run of a chunk keeps to the phases.** -/
theorem Steps.chunkRun {es : List Event} {s : Stage (Except IndexError ChunkReport)}
    (h : Steps E w (start (ix.chunk range)) es w' s) : ChunkRun ix E range es s := by
  rcases steps_start_bind h with ⟨s₁, run, going, rfl⟩ | ⟨out, es₁, es₂, w₁, run, rest, rfl⟩
  · exact .fetching (run.asks asks_fetchBlocks).isFetching fun same => absurd same (Stage.bind_ne_done going)
  have fetched := (Steps.asks asks_fetchBlocks run).isFetching
  obtain ⟨-, -, invalid⟩ := run.ensures Environment.honors_only trivial asks_fetchBlocks
  cases out with
  | error e =>
    obtain ⟨rfl, rfl⟩ := steps_done rest
    rw [List.append_nil]
    refine .fetching fetched fun same => .inl ?_
    rw [← Stage.done.inj same, invalid rfl]
  | ok results =>
    change Steps E w₁ (start (if (successes results).isEmpty then _ else _)) es₂ w' s at rest
    by_cases nothing : (successes results).isEmpty
    · rw [if_pos nothing] at rest
      obtain ⟨rfl, rfl⟩ := steps_done rest
      rw [List.append_nil]
      exact .fetching fetched fun same => .inr (Stage.done.inj same).symm
    · rw [if_neg nothing] at rest
      exact chunkRun_of_storeChunk run rest

end Running

end ChainIndex
