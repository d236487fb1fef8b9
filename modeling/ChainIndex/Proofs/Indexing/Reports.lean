import ChainIndex.Proofs.Indexing.Ranges
import ChainIndex.Proofs.Indexing.Restart
import ChainIndex.Proofs.Indexing.Turns
import ChainIndex.Proofs.Node.Fetched

/-!
# Reports tell what happened

What a run over a range reports is held against what could be seen of it, event by event, and without a look at the
program: which blocks and transactions the node gave to the strands that asked for them, and what the operations
ended with that stored them (`Findings`, `Course`). A report `Tells` these findings if its outcome and its counts
are the ones that they call for, and they call for one report only (`Course.report_unique`).

Nothing is known of the node and of storage. They may fail in any pattern, and answer in any order.

**Theorem (`historic_reports`).** A run over a range that is no range ends with an error before anything happens.
Every other can be gone on with to its end, if the world always has an answer, and then the chunks of the range were
run one after another, each with a report that tells what happened in it, whatever happened in the others.
-/

namespace ChainIndex

/-- The operations of the second phase, side by side. -/
def Indexer.secondOperations (ix : Indexer) (bs : List Block) : List (Strand (Except IndexError UInt64)) :=
  [ix.processor.blocks bs, ix.processor.signings bs]

/-! ## What happened to a chunk -/

/-- What became of a chunk. -/
structure Findings where
  /-- The block at each height, where one was fetched. -/
  heights : List (Option Block)
  /-- The transaction of each listed digest, where one was fetched. -/
  executions : List (Option Execution)
  /-- What the operations of the first phase ended with, if they ran. -/
  first : List (Except IndexError Unit)
  /-- What those of the second ended with. -/
  second : List (Except IndexError UInt64)

namespace Findings

/-- The blocks that were fetched. -/
def blocks (f : Findings) : List Block := f.heights.filterMap id

/-- The transactions that were fetched and happened at the height of a fetched block. -/
def placed (f : Findings) : List Execution :=
  (f.executions.filterMap id).filter fun e => f.blocks.any (·.height = e.height)

end Findings

/-- The report is the one that the findings call for. -/
structure ChunkReport.Tells (r : ChunkReport) (range : HeightRange) (f : Findings) : Prop where
  range : r.range = range
  empty : r.outcome = .empty ↔ ∀ found ∈ f.heights, found = none
  failed : (∃ text, r.outcome = .failed text) ↔ (∃ e, .error e ∈ f.first) ∨ ∃ e, .error e ∈ f.second
  text : ∀ text, r.outcome = .failed text →
    ∃ e, (firstError f.first = .error e ∨ firstError f.second = .error e) ∧ text = e.message
  nothing : r.outcome ≠ .processed → r.blocks = 0 ∧ r.transactions = 0
  processed : r.outcome = .processed → r.blocks = f.blocks.length ∧ r.transactions = f.placed.length

namespace Running

/-- What was fetched side by side: at each place what the node told the strand there, and nothing if it told
nothing. -/
structure Fetched {γ β : Type} (brings : γ → β → List Telling → Prop) (items : List γ) (es : List Event)
    (found : List (Option β)) : Prop where
  length : found.length = items.length
  told : ∀ {i c}, items[i]? = some c → ∀ v, found[i]? = some (some v) ↔ brings c v (toldTo i es)

/-- What was fetched batch after batch. -/
inductive FetchedInTurn {γ β : Type} (brings : γ → β → List Telling → Prop) :
    List (List γ) → List Event → List (Option β) → Prop where
  | nil : FetchedInTurn brings [] [] []
  | cons {items : List γ} {rest : List (List γ)} {es es' : List Event} {found found' : List (Option β)}
      (one : Fetched brings items es found) (later : FetchedInTurn brings rest es' found') :
      FetchedInTurn brings (items :: rest) (es ++ es') (found ++ found')

/-- The node told the strand this block when it asked for the height. -/
def BringsBlock (height : UInt64) (b : Block) (told : List Telling) : Prop :=
  (Node.Request.block height).Brought b told

def BringsExecution (hash : String) (e : Execution) (told : List Telling) : Prop :=
  (Node.Request.execution hash).Brought e told

/-- How a chunk went, with what could be seen of it. Blocks and transactions are stored in the order in which they
came. -/
inductive Course (ix : Indexer) (range : HeightRange) : List Event → Findings → Prop where
  /-- No block was fetched, and that was all. -/
  | empty {es : List Event} {heights : List (Option Block)} (fetched : Fetched BringsBlock range.heights es heights)
      (nothing : ∀ found ∈ heights, found = none) (quiet : Asked (·.isBlockFetching) es) :
      Course ix range es ⟨heights, [], [], []⟩
  /-- An operation of the first phase failed, and the second did not begin. -/
  | failed {es es₁ es₂ : List Event} {heights : List (Option Block)} {executions : List (Option Execution)}
      {bs : List Block} {xs : List Execution} {first : List (Except IndexError Unit)} {e : IndexError}
      (fetched : Fetched BringsBlock range.heights es heights) (some_ : bs ≠ [])
      (blocks : bs.Perm (heights.filterMap id))
      (listed : FetchedInTurn BringsExecution (pieces ix.transactionChunk.toNat (bs.flatMap (·.transactions))) es₁
        executions)
      (executed : xs.Perm (executions.filterMap id))
      (came : Came (ix.firstOperations bs (decodeAll (timed bs xs))) es₂ first) (error : firstError first = .error e) :
      Course ix range (es ++ (es₁ ++ es₂)) ⟨heights, executions, first, []⟩
  /-- Both phases ran. -/
  | through {es es₁ es₂ es₃ : List Event} {heights : List (Option Block)} {executions : List (Option Execution)}
      {bs : List Block} {xs : List Execution} {first : List (Except IndexError Unit)}
      {second : List (Except IndexError UInt64)} (fetched : Fetched BringsBlock range.heights es heights)
      (some_ : bs ≠ []) (blocks : bs.Perm (heights.filterMap id))
      (listed : FetchedInTurn BringsExecution (pieces ix.transactionChunk.toNat (bs.flatMap (·.transactions))) es₁
        executions)
      (executed : xs.Perm (executions.filterMap id))
      (came : Came (ix.firstOperations bs (decodeAll (timed bs xs))) es₂ first) (well : firstError first = .ok ())
      (came' : Came (ix.secondOperations bs) es₃ second) :
      Course ix range (es ++ (es₁ ++ (es₂ ++ es₃))) ⟨heights, executions, first, second⟩

/-- The chunks were run one after another, and each report tells what happened in its own. -/
inductive Reports (ix : Indexer) : List HeightRange → List Event → List ChunkReport → Prop where
  | nil : Reports ix [] [] []
  | cons {range : HeightRange} {rest : List HeightRange} {es es' : List Event} {f : Findings} {report : ChunkReport}
      {reports : List ChunkReport} (course : Course ix range es f) (tells : report.Tells range f)
      (later : Reports ix rest es' reports) : Reports ix (range :: rest) (es ++ es') (report :: reports)

variable {σ α β γ : Type} {E : Environment σ} {w w' : σ} {es : List Event} {ix : Indexer} {range : HeightRange}

/-! ## No two reports -/

/-- What a chunk failed with is what one phase failed with: a second did not begin after a first that failed. -/
theorem Course.error_unique {f : Findings} {e e' : IndexError} (course : Course ix range es f)
    (h : firstError f.first = .error e ∨ firstError f.second = .error e)
    (h' : firstError f.first = .error e' ∨ firstError f.second = .error e') : e = e' := by
  cases course with
  | empty fetched nothing quiet => rcases h with h | h <;> cases h
  | failed fetched some_ blocks listed executed came error =>
    rcases h with h | h
    · rcases h' with h' | h'
      · exact Except.error.inj (h.symm.trans h')
      · cases h'
    · cases h
  | through fetched some_ blocks listed executed came well came' =>
    simp only [well, reduceCtorEq, false_or] at h h'
    exact Except.error.inj (h.symm.trans h')

/-- **What happened calls for one report only.** -/
theorem Course.report_unique {f : Findings} {r r' : ChunkReport} (course : Course ix range es f)
    (h : r.Tells range f) (h' : r'.Tells range f) : r = r' := by
  have outcome : r.outcome = r'.outcome := by
    cases told : r.outcome with
    | empty => exact (h'.empty.2 (h.empty.1 told)).symm
    | failed text =>
      obtain ⟨text', told'⟩ := h'.failed.2 (h.failed.1 ⟨text, told⟩)
      obtain ⟨e, error, rfl⟩ := h.text text told
      obtain ⟨e', error', rfl⟩ := h'.text text' told'
      rw [told', course.error_unique error error']
    | processed =>
      cases told' : r'.outcome with
      | processed => rfl
      | empty =>
        have empty := h.empty.2 (h'.empty.1 told')
        rw [told] at empty
        cases empty
      | failed text =>
        obtain ⟨text', failed⟩ := h.failed.2 (h'.failed.1 ⟨text, told'⟩)
        rw [told] at failed
        cases failed
  have counts : r.blocks = r'.blocks ∧ r.transactions = r'.transactions := by
    by_cases processed : r.outcome = .processed
    · obtain ⟨blocks, transactions⟩ := h.processed processed
      obtain ⟨blocks', transactions'⟩ := h'.processed (outcome ▸ processed)
      exact ⟨blocks.trans blocks'.symm, transactions.trans transactions'.symm⟩
    · obtain ⟨blocks, transactions⟩ := h.nothing processed
      obtain ⟨blocks', transactions'⟩ := h'.nothing (outcome ▸ processed)
      exact ⟨blocks.trans blocks'.symm, transactions.trans transactions'.symm⟩
  have range : r.range = r'.range := h.range.trans h'.range.symm
  cases r
  cases r'
  rw [ChunkReport.mk.injEq]
  exact ⟨range, counts.1, counts.2, outcome⟩

/-! ## Fetching -/

/-- Whatever the order in which they come, the successes are what the node told. -/
theorem Completes.fetched {items : List γ} {fetch : γ → Strand (Except Node.Error β)}
    {rs : List (Except Node.Error β)} (brings : γ → β → List Telling → Prop)
    (tells : ∀ c told r, (fetch c).Hears told r → ∀ v, brings c v told ↔ r = .ok v)
    (h : Completes E (Plan.unordered (items.map fetch)) w es w' rs) :
    ∃ found, Fetched brings items es found ∧ (successes rs).Perm (found.filterMap id) := by
  obtain ⟨rs', perm, came⟩ := Completes.came_of_unordered h
  have length : rs'.length = items.length := by rw [came.length, List.length_map]
  refine ⟨rs'.map Except.toOption, ⟨by rw [List.length_map, length], fun {i c} at_ v => ?_⟩, ?_⟩
  · have inside : i < rs'.length := length ▸ (List.getElem?_eq_some_iff.1 at_).1
    have result := List.getElem?_eq_getElem inside
    have strand : (items.map fetch)[i]? = some (fetch c) := by rw [List.getElem?_map, at_]; rfl
    rw [tells c _ _ (came.hears strand result) v, List.getElem?_map, result]
    cases rs'[i] <;> simp [Except.toOption]
  · rw [List.filterMap_map]
    exact perm.filterMap Except.toOption

theorem Completes.fetchBlocks {retry : Retry.Params} {out : Except IndexError (List (Except Node.Error Block))}
    (valid : range.first ≤ range.last) (h : Completes E (fetchBlocks retry range) w es w' out) :
    ∃ results heights, out = .ok results ∧ Fetched BringsBlock range.heights es heights ∧
      (successes results).Perm (heights.filterMap id) := by
  rw [ChainIndex.fetchBlocks, if_neg (UInt64.not_lt.2 valid)] at h
  obtain ⟨results, es₁, es₂, w₁, run, rest, rfl⟩ := Completes.of_bind h
  obtain ⟨rfl, rfl⟩ := Completes.of_pure rest
  obtain ⟨heights, fetched, perm⟩ := run.fetched BringsBlock fun height _ _ hears =>
    (Node.Request.block height).brought_of_fetch hears
  rw [List.append_nil]
  exact ⟨results, heights, rfl, fetched, perm⟩

theorem Completes.fetchBatches {batches : List (List String)} {xs : List Execution}
    (h : Completes E (ix.fetchBatches batches) w es w' xs) :
    ∃ executions, FetchedInTurn BringsExecution batches es executions ∧ xs.Perm (executions.filterMap id) := by
  induction batches generalizing w w' es xs with
  | nil =>
    obtain ⟨rfl, rfl⟩ := Completes.of_pure h
    exact ⟨[], .nil, .nil⟩
  | cons batch batches ih =>
    obtain ⟨results, es₁, es₂, w₁, run, rest, rfl⟩ := Completes.of_bind h
    obtain ⟨later, es₃, es₄, w₂, run', end_, rfl⟩ := Completes.of_bind rest
    obtain ⟨rfl, rfl⟩ := Completes.of_pure end_
    obtain ⟨found, fetched, perm⟩ := run.fetched BringsExecution fun hash _ _ hears =>
      (Node.Request.execution hash).brought_of_fetch hears
    obtain ⟨found', inTurn, perm'⟩ := ih run'
    rw [List.append_nil]
    refine ⟨found ++ found', .cons fetched inTurn, ?_⟩
    rw [List.filterMap_append]
    exact perm.append perm'

/-! ## Counting -/

theorem isSome_timeAt (blocks : List Block) (height : UInt64) :
    (timeAt blocks height).isSome = blocks.any (·.height = height) := by
  rw [timeAt, Option.isSome_map, List.isSome_find?, List.any_reverse]

theorem length_timed (blocks : List Block) (xs : List Execution) :
    (timed blocks xs).length = (xs.filter fun e => blocks.any (·.height = e.height)).length := by
  rw [timed, List.length_filterMap_eq_countP, ← List.countP_eq_length_filter]
  refine List.countP_congr fun e _ => ?_
  rw [Option.isSome_map, isSome_timeAt]

/-- Only how many there are matters, not the order in which they came. -/
theorem length_timed_of_perm {f : Findings} {bs : List Block} {xs : List Execution} (blocks : bs.Perm f.blocks)
    (executed : xs.Perm (f.executions.filterMap id)) : (timed bs xs).length = f.placed.length := by
  have same : (fun e : Execution => bs.any (·.height = e.height)) = fun e => f.blocks.any (·.height = e.height) := by
    funext e
    exact blocks.any_eq
  rw [length_timed, same]
  exact (executed.filter _).length_eq

/-! ## Chunks -/

theorem Completes.secondPhase {bs : List Block} {r : Except IndexError Unit}
    (h : Completes E (ix.secondPhase bs) w es w' r) :
    ∃ second, Came (ix.secondOperations bs) es second ∧ r = firstError second := by
  obtain ⟨second, es₁, es₂, w₁, run, rest, rfl⟩ := Completes.of_bind h
  obtain ⟨rfl, rfl⟩ := Completes.of_pure rest
  rw [List.append_nil]
  exact ⟨second, run.came_of_joined, rfl⟩

end Running

/-- The report on a chunk, also if it failed. -/
def reportOf (range : HeightRange) : Except IndexError ChunkReport → ChunkReport
  | .ok report => report
  | .error e => .ofError range e

/-- A failed phase makes a failed report. -/
theorem tells_ofError {range : HeightRange} {f : Findings} {e : IndexError} (some_ : ∃ b, some b ∈ f.heights)
    (error : firstError f.first = .error e ∨ firstError f.second = .error e) :
    (ChunkReport.ofError range e).Tells range f where
  range := rfl
  empty := by
    obtain ⟨b, found⟩ := some_
    refine iff_of_false nofun fun nothing => ?_
    cases nothing _ found
  failed := by
    refine iff_of_true ⟨e.message, rfl⟩ ?_
    exact error.imp (⟨e, mem_of_firstError ·⟩) (⟨e, mem_of_firstError ·⟩)
  text text failed := ⟨e, error, (ChunkOutcome.failed.inj failed).symm⟩
  nothing _ := ⟨rfl, rfl⟩
  processed := nofun

theorem tells_ofEmpty {range : HeightRange} {heights : List (Option Block)}
    (nothing : ∀ found ∈ heights, found = none) : (ChunkReport.ofEmpty range).Tells range ⟨heights, [], [], []⟩ where
  range := rfl
  empty := iff_of_true rfl nothing
  failed := by simp [ChunkReport.ofEmpty]
  text := nofun
  nothing _ := ⟨rfl, rfl⟩
  processed := nofun

theorem tells_processed {range : HeightRange} {f : Findings} {blocks transactions : Nat}
    (some_ : ∃ b, some b ∈ f.heights) (first : firstError f.first = .ok ()) (second : firstError f.second = .ok ())
    (stored : blocks = f.blocks.length) (placed : transactions = f.placed.length) :
    ChunkReport.Tells ⟨range, blocks, transactions, .processed⟩ range f where
  range := rfl
  empty := by
    obtain ⟨b, found⟩ := some_
    refine iff_of_false nofun fun nothing => ?_
    cases nothing _ found
  failed := by
    refine iff_of_false nofun ?_
    rintro (⟨e, error⟩ | ⟨e, error⟩)
    · obtain ⟨_, same⟩ := firstError_eq_ok.1 first _ error
      cases same
    · obtain ⟨_, same⟩ := firstError_eq_ok.1 second _ error
      cases same
  text := nofun
  nothing other := absurd rfl other
  processed _ := ⟨stored, placed⟩

namespace Running

variable {σ α β γ : Type} {E : Environment σ} {w w' : σ} {es : List Event} {ix : Indexer} {range : HeightRange}

theorem Completes.storeChunk {results : List (Except Node.Error Block)} {heights : List (Option Block)}
    {es₀ : List Event} {r : Except IndexError ChunkReport} (fetched : Fetched BringsBlock range.heights es₀ heights)
    (perm : (successes results).Perm (heights.filterMap id)) (some_ : successes results ≠ [])
    (h : Completes E (ix.storeChunk range (successes results)) w es w' r) :
    ∃ f, Course ix range (es₀ ++ es) f ∧ (reportOf range r).Tells range f := by
  have known : ∃ b, some b ∈ heights := by
    obtain ⟨b, member⟩ := List.exists_mem_of_ne_nil _ some_
    exact ⟨b, by simpa using perm.subset member⟩
  obtain ⟨transactions, es₁, es₂, w₁, run, rest, rfl⟩ := Completes.of_bind h
  obtain ⟨xs, es₃, es₄, w₂, batches, end_, rfl⟩ := Completes.of_bind run
  obtain ⟨rfl, rfl⟩ := Completes.of_pure end_
  obtain ⟨executions, listed, executed⟩ := Completes.fetchBatches batches
  obtain ⟨r₁, es₅, es₆, w₃, phase, rest, rfl⟩ := Completes.of_bind rest
  obtain ⟨first, joined, rfl, -⟩ := Completes.firstPhase phase
  have came := joined.came_of_joined
  rw [List.append_nil]
  cases well : firstError first with
  | error e =>
    rw [well] at rest
    obtain ⟨rfl, rfl⟩ := Completes.of_pure rest
    rw [List.append_nil]
    exact ⟨_, .failed fetched some_ perm listed executed came well, tells_ofError known (.inl well)⟩
  | ok _ =>
    rw [well] at rest
    obtain ⟨r₂, es₇, es₈, w₄, phase, rest, rfl⟩ := Completes.of_bind rest
    obtain ⟨second, came', rfl⟩ := Completes.secondPhase phase
    have course := Course.through fetched some_ perm listed executed came well came'
    cases done : firstError second with
    | error e =>
      rw [done] at rest
      obtain ⟨rfl, rfl⟩ := Completes.of_pure rest
      rw [List.append_nil]
      exact ⟨_, course, tells_ofError known (.inr done)⟩
    | ok _ =>
      rw [done] at rest
      obtain ⟨rfl, rfl⟩ := Completes.of_pure rest
      rw [List.append_nil]
      exact ⟨_, course, tells_processed known well done perm.length_eq (length_timed_of_perm perm executed)⟩

/-- **Every chunk at its end** has a report that tells what happened. -/
theorem Completes.chunk {r : Except IndexError ChunkReport} (valid : range.first ≤ range.last)
    (h : Completes E (ix.chunk range) w es w' r) : ∃ f, Course ix range es f ∧ (reportOf range r).Tells range f := by
  obtain ⟨out, es₁, es₂, w₁, run, rest, rfl⟩ := Completes.of_bind h
  obtain ⟨results, heights, rfl, fetched, perm⟩ := Completes.fetchBlocks valid run
  change Completes E (if (successes results).isEmpty then _ else _) w₁ es₂ w' r at rest
  by_cases empty : (successes results).isEmpty
  · rw [if_pos empty] at rest
    obtain ⟨rfl, rfl⟩ := Completes.of_pure rest
    have nothing : ∀ found ∈ heights, found = none := by
      rw [List.isEmpty_iff.1 empty] at perm
      simpa [List.filterMap_eq_nil_iff] using perm.nil_eq.symm
    rw [List.append_nil]
    exact ⟨_, .empty fetched nothing (Steps.asks asks_fetchBlocks run), tells_ofEmpty nothing⟩
  · rw [if_neg empty] at rest
    exact Completes.storeChunk fetched perm (by simpa using empty) rest

/-- **Every chunk has its turn**, whatever became of those before it. -/
theorem Completes.chunksInTurn {ranges : List HeightRange} {reports : List ChunkReport}
    (valid : ∀ range ∈ ranges, range.first ≤ range.last) (h : Completes E (ix.chunksInTurn ranges) w es w' reports) :
    Reports ix ranges es reports := by
  induction ranges generalizing w w' es reports with
  | nil =>
    obtain ⟨rfl, rfl⟩ := Completes.of_pure h
    exact .nil
  | cons range ranges ih =>
    obtain ⟨one, more⟩ := List.forall_mem_cons.1 valid
    obtain ⟨r, es₁, es₂, w₁, run, rest, rfl⟩ := Completes.of_bind h
    obtain ⟨later, es₃, es₄, w₂, run', end_, rfl⟩ := Completes.of_bind rest
    obtain ⟨rfl, rfl⟩ := Completes.of_pure end_
    obtain ⟨f, course, tells⟩ := Completes.chunk one run
    rw [List.append_nil]
    cases r <;> exact .cons course tells (ih more run')

theorem Reports.ranges {ranges : List HeightRange} {reports : List ChunkReport} (h : Reports ix ranges es reports) :
    reports.map (·.range) = ranges := by
  induction h with
  | nil => rfl
  | cons course tells later ih => rw [List.map_cons, tells.range, ih]

end Running

/-! ## A chain of one block, once more -/

namespace OneBlock

open Storage Running

variable {w : Site}

/-- There is no block above it. -/
theorem gives_chunk_above : (rule false).Gives ((indexer 1 1).chunk ⟨2, 2⟩) w (.ok (.ofEmpty ⟨2, 2⟩)) w := by
  have fetched : (rule false).Gives (Plan.unordered ((HeightRange.heights ⟨2, 2⟩).map fun height =>
      (Node.Request.block height).fetch (indexer 1 1).fetchRetry)) w
      [(.error ⟨.height 2, .rateLimitExhausted⟩ : Except Node.Error Block)] w := rfl
  have found : (rule false).Gives (fetchBlocks (indexer 1 1).fetchRetry ⟨2, 2⟩) w
      (.ok [.error ⟨.height 2, .rateLimitExhausted⟩]) w := fetched.bind (.pure _ _)
  exact found.bind (.pure _ _)

/-- The chunk of the block fails, since signings are refused, and the chunk above it has its turn. -/
theorem gives_historic : (rule false).Gives ((indexer 1 1).historic ⟨1, 2⟩) .empty
    (.ok [.ofError ⟨1, 1⟩ (.persistence failure), .ofEmpty ⟨2, 2⟩]) (indexed false) := by
  have above : (rule false).Gives ((indexer 1 1).chunksInTurn [⟨2, 2⟩]) (indexed false) [.ofEmpty ⟨2, 2⟩]
      (indexed false) := gives_chunk_above.bind (.bind (.pure _ _) (.pure _ _))
  have both : (rule false).Gives ((indexer 1 1).chunksInTurn [⟨1, 1⟩, ⟨2, 2⟩]) .empty
      [.ofError ⟨1, 1⟩ (.persistence failure), .ofEmpty ⟨2, 2⟩] (indexed false) :=
    gives_chunk.bind (above.bind (.pure _ _))
  exact both.bind (.pure _ _)

theorem exists_reported : ∃ es, Completes honestSite ((indexer 1 1).historic ⟨1, 2⟩) .empty es (indexed false)
    (.ok [.ofError ⟨1, 1⟩ (.persistence failure), .ofEmpty ⟨2, 2⟩]) :=
  gives_historic.exists_completes (rule_follows false)

end OneBlock

namespace Running

variable {σ : Type} {E : Environment σ} {w w' : σ} {es : List Event} {ix : Indexer} {range : HeightRange}

/-- A run over a range that is none fails before anything happens. A run over a range can be gone on with to its end,
if the world always has an answer, and it ends well, with a report on each of its chunks, in their order, that tells
what happened in it. -/
theorem historic_reports {c : Stage (Except IndexError (List ChunkReport))}
    (run : Steps E w (start (ix.historic range)) es w' c) :
    (range.last < range.first → es = [] ∧ c = .done (.error (invalidRange range))) ∧
      (range.first ≤ range.last →
        (∀ r, c = .done r → ∃ reports, r = .ok reports ∧
          reports.map (·.range) = chunkRanges range.first range.last ix.blockChunk ∧
            Reports ix (chunkRanges range.first range.last ix.blockChunk) es reports) ∧
        (E.Answering → ∃ es' w'' reports, Steps E w' c es' w'' (.done (.ok reports)))) := by
  have ends : range.first ≤ range.last → ∀ {es w' r}, Completes E (ix.historic range) w es w' r → ∃ reports,
      r = .ok reports ∧ Reports ix (chunkRanges range.first range.last ix.blockChunk) es reports := by
    intro valid es w' r h
    rw [Indexer.historic, if_neg (UInt64.not_lt.2 valid)] at h
    obtain ⟨reports, es₁, es₂, w₁, chunks, end_, rfl⟩ := Completes.of_bind h
    obtain ⟨rfl, rfl⟩ := Completes.of_pure end_
    rw [List.append_nil]
    exact ⟨reports, rfl, Completes.chunksInTurn (fun _ => first_le_last_of_mem_chunkRanges) chunks⟩
  refine ⟨fun empty => ?_, fun valid => ⟨?_, fun answering => ?_⟩⟩
  · rw [Indexer.historic, if_pos empty] at run
    exact steps_done run
  · rintro r rfl
    obtain ⟨reports, rfl, told⟩ := ends valid run
    exact ⟨reports, rfl, told.ranges, told⟩
  · obtain ⟨es', w'', r, rest⟩ := exists_completion answering w' c
    obtain ⟨reports, rfl, -⟩ := ends valid (run.trans rest)
    exact ⟨es', w'', reports, rest⟩

/-- The chunk of the block fails, and the chunk above it is found empty. -/
theorem reports_of_unsigned : ∃ es w,
    Completes honestSite ((OneBlock.indexer 1 1).historic ⟨1, 2⟩) .empty es w
      (.ok [.ofError ⟨1, 1⟩ (.persistence OneBlock.failure), .ofEmpty ⟨2, 2⟩]) ∧
    Reports (OneBlock.indexer 1 1) [⟨1, 1⟩, ⟨2, 2⟩] es
      [.ofError ⟨1, 1⟩ (.persistence OneBlock.failure), .ofEmpty ⟨2, 2⟩] := by
  obtain ⟨es, run⟩ := OneBlock.exists_reported
  obtain ⟨-, ends⟩ := historic_reports run
  obtain ⟨reports, same, -, told⟩ := (ends (by decide)).1 _ rfl
  obtain rfl := Except.ok.inj same
  exact ⟨es, _, run, told⟩

end Running

end ChainIndex
