import ChainIndex.Indexing.Historic
import ChainIndex.Indexing.Live
import ChainIndex.Proofs.Running.Task

/-!
# Requests and their tokens

A strand is *paced* (`Strand.Paced`) if it sends a request right after each token that it took, and no other
requests. Between a token and its request there is nothing to fail or to be decided, so no token is spent in vain.

Being paced says nothing of the world: it is a matter of the tree of questions alone, whatever the answers. So it is
carried over sequences, retries and loops, and over plans strand by strand. **Whatever callers run is paced**
(`Calling.paced`): the two ways to send a request, the fetches with their retries, and whole runs of the indexer.
-/

namespace ChainIndex

variable {ε α β γ : Type}

/-- Whether the question goes to the node. -/
def Query.isRequest : Query → Bool
  | .request _ => true
  | _ => false

/-- Whether the answer brings a token. -/
def Query.brings : (q : Query) → q.Answer → Bool
  | .token, _ => true
  | .tryToken, taken => taken
  | _, _ => false

/-- Whether the question has nothing to do with tokens. -/
def Query.isFree : Query → Bool
  | .request _ | .token | .tryToken => false
  | _ => true

theorem Query.isRequest_of_isFree {q : Query} (free : q.isFree) : q.isRequest = false := by
  cases q with
  | request => simp [isFree] at free
  | _ => rfl

theorem Query.brings_of_isFree {q : Query} (free : q.isFree) (a : q.Answer) : q.brings a = false := by
  cases q with
  | token => simp [isFree] at free
  | tryToken => simp [isFree] at free
  | _ => rfl

/-! ## Strands -/

namespace Strand

/-- A request is sent exactly when a token is held, and the token is gone with it. -/
def Paced : Strand α → (holding : Bool) → Prop
  | .done _, holding => holding = false
  | .ask q next, holding => holding = q.isRequest ∧ ∀ a, (next a).Paced (q.brings a)

theorem paced_pure (a : α) : (pure a : Strand α).Paced false := rfl

theorem Paced.bind {s : Strand α} {f : α → Strand β} {holding : Bool} (h : s.Paced holding)
    (goOn : ∀ a, (f a).Paced false) : (s >>= f).Paced holding := by
  change (s.bind f).Paced holding
  induction s generalizing holding with
  | done a =>
    obtain rfl := h
    exact goOn a
  | ask q next ih => exact ⟨h.1, fun a => ih a (h.2 a)⟩

theorem Paced.map {s : Strand α} {f : α → β} {holding : Bool} (h : s.Paced holding) : (f <$> s).Paced holding :=
  h.bind fun _ => paced_pure _

theorem paced_query {q : Query} (free : q.isFree) : (query q).Paced false :=
  ⟨(Query.isRequest_of_isFree free).symm, fun a => Query.brings_of_isFree free a⟩

theorem paced_forM {items : List α} {f : α → Strand Unit} (each : ∀ a, (f a).Paced false) :
    (items.forM f).Paced false := by
  induction items with
  | nil => exact paced_pure ()
  | cons a items ih => exact (each a).bind fun _ => ih

/-- A loop that never leaves early. -/
theorem paced_forIn {items : List α} {β : α → Type} {f : ∀ a, Strand (β a)} (each : ∀ a, (f a).Paced false) :
    (forIn items PUnit.unit fun a _ => do
      let _ ← f a
      pure (ForInStep.yield PUnit.unit) : Strand PUnit).Paced false := by
  induction items with
  | nil => exact paced_pure _
  | cons a items ih =>
    rw [List.forIn_cons]
    exact ((each a).bind fun _ => paced_pure _).bind fun
      | .done _ => paced_pure _
      | .yield _ => ih

end Strand

/-- Every attempt takes a token of its own if every attempt is paced. -/
theorem Retry.paced_runIf {p : Retry.Params} {retryable : ε → Bool} {act : UInt32 → Strand (Except ε α)}
    (attempt : ∀ n, (act n).Paced false) : (Retry.runIf Strand.sleep p retryable act).Paced false := by
  have attempts : ∀ more n, (Retry.attemptFrom Strand.sleep p retryable act more n).Paced false := by
    intro more
    induction more with
    | zero =>
      intro n
      refine (attempt n).bind fun a => ?_
      cases a with
      | ok value => exact Strand.paced_pure _
      | error e => exact Strand.paced_pure _
    | succ more ih =>
      intro n
      refine (attempt n).bind fun a => ?_
      cases a with
      | ok value => exact Strand.paced_pure _
      | error e =>
        by_cases again : retryable e
        · simp only [again, if_true]
          exact (Strand.paced_query rfl).bind fun _ => ih (n + 1)
        · simp only [again, Bool.false_eq_true, if_false]
          exact Strand.paced_pure _
  exact attempts _ _

namespace Node.Request

theorem paced_send (r : Request) : r.send.Paced false := ⟨rfl, fun _ => ⟨rfl, fun _ => rfl⟩⟩

theorem paced_trySend (r : Request) : r.trySend.Paced false := by
  refine ⟨rfl, fun taken => ?_⟩
  cases taken with
  | true => exact ⟨rfl, fun _ => rfl⟩
  | false => exact Strand.paced_pure _

theorem paced_fetch (retry : Retry.Params) (r : Request) : (r.fetch retry).Paced false :=
  (Retry.paced_runIf fun _ => r.paced_send).bind fun _ => Strand.paced_pure _

end Node.Request

/-! ## What the indexer does with storage -/

namespace BookRef

open Strand

variable (book : BookRef)

theorem paced_learnAll (ids : AddressIds) : (book.learnAll ids).Paced false := paced_forM fun _ => paced_query rfl

theorem paced_insertMissing (settings : SolverSettings) (missing : List String) :
    (book.insertMissing settings missing).Paced false := by
  have insert : ∀ addresses, (call (.insertAddresses book.space addresses)).Paced false := fun _ => paced_query rfl
  refine (Retry.paced_runIf fun _ => insert missing).bind fun outcome => ?_
  cases outcome with
  | success => exact paced_pure _
  | failure e n =>
    simp only
    split
    · exact (paced_forIn fun address => insert [address]).bind fun _ => paced_pure _
    · exact paced_pure _

theorem paced_solveMissing (settings : SolverSettings) (summary : SolveSummary) (missing : List String) :
    (book.solveMissing settings summary missing).Paced false := by
  refine (book.paced_insertMissing settings missing).bind fun inserted => ?_
  cases inserted with
  | error e => exact paced_pure _
  | ok =>
    refine (paced_query rfl).bind fun found => ?_
    cases found with
    | error e => exact paced_pure _
    | ok assigned => exact (book.paced_learnAll assigned).bind fun _ => paced_pure _

theorem paced_solve (settings : SolverSettings) (addresses : List String) :
    (book.solve settings addresses).Paced false := by
  refine (paced_query rfl).bind fun entries => ?_
  simp only
  split
  · exact paced_pure _
  · refine (paced_query rfl).bind fun found => ?_
    cases found with
    | error e => exact paced_pure _
    | ok found =>
      refine (book.paced_learnAll found).bind fun _ => ?_
      split
      · exact paced_pure _
      · exact book.paced_solveMissing _ _ _

theorem paced_refresh : book.refresh.Paced false := by
  refine (paced_query rfl).bind fun since => (paced_query rfl).bind fun newer => ?_
  cases newer with
  | error e => exact paced_pure _
  | ok newer => exact (book.paced_learnAll newer.1).bind fun _ => (paced_query rfl).bind fun _ => paced_pure _

end BookRef

namespace Processor

open Strand

variable (p : Processor)

theorem paced_store (batch : Storage.Batch) : (store batch).Paced false := by
  unfold store
  split
  · exact paced_pure _
  · refine (paced_query rfl).bind fun written => ?_
    cases written <;> exact paced_pure _

theorem paced_validatorAddresses (blocks : List Block) : (p.validatorAddresses blocks).Paced false := by
  refine (p.validators.paced_solve p.solver _).bind fun solved => ?_
  cases solved <;> exact paced_pure _

theorem paced_blocks (blocks : List Block) : (p.blocks blocks).Paced false :=
  (paced_query rfl).bind fun _ => paced_store _

theorem paced_signings (blocks : List Block) : (p.signings blocks).Paced false :=
  (paced_query rfl).bind fun _ => paced_store _

theorem paced_transactions (decoded : List DecodedExecution) : (p.transactions decoded).Paced false := by
  refine (p.accounts.paced_solve p.solver _).bind fun solved => ?_
  cases solved with
  | error e => exact paced_pure _
  | ok summary => exact (paced_query rfl).bind fun _ => paced_store _

theorem paced_messages (decoded : List DecodedExecution) : (p.messages decoded).Paced false := by
  refine (p.accounts.paced_solve p.solver _).bind fun solved => ?_
  cases solved with
  | error e => exact paced_pure _
  | ok summary =>
    refine (paced_query rfl).bind fun accounts => ?_
    simp only
    split
    · exact paced_pure _
    · refine (paced_query rfl).bind fun written => ?_
      cases written <;> exact paced_pure _

end Processor

/-! ## Plans -/

namespace Plan

def Paced : Plan α → Prop
  | .done _ => True
  | .run strand next => strand.Paced false ∧ ∀ b, (next b).Paced
  | .fork strands next => (∀ s ∈ strands, s.Paced false) ∧ ∀ results, (next results).Paced

theorem paced_pure (a : α) : (pure a : Plan α).Paced := trivial

theorem Paced.bind {p : Plan α} {f : α → Plan β} (h : p.Paced) (goOn : ∀ a, (f a).Paced) : (p >>= f).Paced := by
  change (p.bind f).Paced
  induction p with
  | done a => exact goOn a
  | run strand next ih => exact ⟨h.1, fun b => ih b (h.2 b)⟩
  | fork strands next ih => exact ⟨h.1, fun results => ih results (h.2 results)⟩

theorem paced_alone {s : Strand α} (h : s.Paced false) : (Plan.alone s).Paced := ⟨h, fun _ => trivial⟩

theorem paced_unordered {strands : List (Strand α)} (each : ∀ s ∈ strands, s.Paced false) :
    (Plan.unordered strands).Paced := ⟨each, fun _ => trivial⟩

theorem paced_joined {strands : List (Strand α)} (each : ∀ s ∈ strands, s.Paced false) :
    (Plan.joined strands).Paced := ⟨each, fun _ => trivial⟩

end Plan

open Plan

theorem paced_fetchBlocks (retry : Retry.Params) (r : HeightRange) : (fetchBlocks retry r).Paced := by
  unfold fetchBlocks
  split
  · exact paced_pure _
  · refine (paced_unordered fun s member => ?_).bind fun _ => paced_pure _
    obtain ⟨height, -, rfl⟩ := List.mem_map.1 member
    exact (Node.Request.block height).paced_fetch retry

theorem paced_fetchExecutions (retry : Retry.Params) (hashes : List String) : (fetchExecutions retry hashes).Paced := by
  refine paced_unordered fun s member => ?_
  obtain ⟨hash, -, rfl⟩ := List.mem_map.1 member
  exact (Node.Request.execution hash).paced_fetch retry

namespace Indexer

variable (ix : Indexer)

theorem paced_fetchTransactions (blocks : List Block) : (ix.fetchTransactions blocks).Paced := by
  have batches : ∀ batches, (ix.fetchBatches batches).Paced := by
    intro batches
    induction batches with
    | nil => exact paced_pure []
    | cons batch rest ih => exact (paced_fetchExecutions _ batch).bind fun _ => ih.bind fun _ => paced_pure _
  exact (batches _).bind fun _ => paced_pure _

theorem paced_firstPhase (blocks : List Block) (decoded : List DecodedExecution) :
    (ix.firstPhase blocks decoded).Paced := by
  refine (paced_joined fun s member => ?_).bind fun _ => paced_pure _
  simp only [List.mem_cons, List.not_mem_nil, or_false] at member
  rcases member with rfl | rfl | rfl
  · exact (ix.processor.paced_validatorAddresses blocks).map
  · exact (ix.processor.paced_transactions decoded).map
  · exact (ix.processor.paced_messages decoded).map

theorem paced_secondPhase (blocks : List Block) : (ix.secondPhase blocks).Paced := by
  refine (paced_joined fun s member => ?_).bind fun _ => paced_pure _
  simp only [List.mem_cons, List.not_mem_nil, or_false] at member
  rcases member with rfl | rfl
  · exact ix.processor.paced_blocks blocks
  · exact ix.processor.paced_signings blocks

theorem paced_storeChunk (range : HeightRange) (blocks : List Block) : (ix.storeChunk range blocks).Paced := by
  refine (ix.paced_fetchTransactions blocks).bind fun transactions => ?_
  refine (ix.paced_firstPhase blocks _).bind fun first => ?_
  cases first with
  | error e => exact paced_pure _
  | ok =>
    refine (ix.paced_secondPhase blocks).bind fun second => ?_
    cases second <;> exact paced_pure _

theorem paced_chunk (range : HeightRange) : (ix.chunk range).Paced := by
  refine (paced_fetchBlocks _ range).bind fun fetched => ?_
  cases fetched with
  | error e => exact paced_pure _
  | ok results =>
    simp only
    split
    · exact paced_pure _
    · exact ix.paced_storeChunk range _

theorem paced_historic (range : HeightRange) : (ix.historic range).Paced := by
  have chunks : ∀ ranges, (ix.chunksInTurn ranges).Paced := by
    intro ranges
    induction ranges with
    | nil => exact paced_pure []
    | cons range rest ih => exact (ix.paced_chunk range).bind fun _ => ih.bind fun _ => paced_pure _
  unfold historic
  split
  · exact paced_pure _
  · exact (chunks _).bind fun _ => paced_pure _

theorem paced_startingHeight (skipStorage : Bool) : (ix.startingHeight skipStorage).Paced false := by
  unfold startingHeight
  split
  · refine (Node.Request.paced_fetch _ .latest).bind fun head => ?_
    cases head <;> exact Strand.paced_pure _
  · refine (Strand.paced_query rfl).bind fun stored => ?_
    split <;> exact Strand.paced_pure _

theorem paced_rest : ix.rest.Paced := paced_alone (Strand.paced_query rfl)

theorem paced_refreshBooks : ix.refreshBooks.Paced := by
  refine (paced_joined fun s member => ?_).bind fun _ => paced_pure _
  simp only [List.mem_cons, List.not_mem_nil, or_false] at member
  rcases member with rfl | rfl
  · exact ix.processor.accounts.paced_refresh
  · exact ix.processor.validators.paced_refresh

theorem paced_advance (next head : UInt64) : (ix.advance next head).Paced := by
  refine (ix.paced_chunk _).bind fun report => ?_
  cases report with
  | error e => exact ix.paced_refreshBooks.bind fun _ => ix.paced_rest.bind fun _ => paced_pure _
  | ok report =>
    simp only
    split
    · exact paced_pure _
    · exact ix.paced_rest.bind fun _ => paced_pure _

theorem paced_round (next : UInt64) : (ix.round next).Paced := by
  refine (paced_alone (Strand.paced_query rfl)).bind fun stop => ?_
  cases stop with
  | true => exact paced_pure _
  | false =>
    refine (paced_alone (Node.Request.paced_fetch _ .latest)).bind fun head => ?_
    cases head with
    | error e => exact ix.paced_rest.bind fun _ => paced_pure _
    | ok head =>
      simp only
      split
      · exact ix.paced_rest.bind fun _ => paced_pure _
      · exact (ix.paced_advance next head).bind fun _ => paced_pure _

theorem paced_live (rounds : Nat) (skipStorage : Bool) : (ix.live rounds skipStorage).Paced := by
  have all : ∀ rounds next, (ix.roundsFrom rounds next).Paced := by
    intro rounds
    induction rounds with
    | zero => exact fun next => paced_pure _
    | succ rounds ih =>
      intro next
      refine (ix.paced_round next).bind fun left => ?_
      match left with
      | .error e => exact paced_pure _
      | .ok none => exact paced_pure _
      | .ok (some next) => exact ih next
  refine (paced_alone (ix.paced_startingHeight skipStorage)).bind fun first => ?_
  cases first with
  | error e => exact paced_pure _
  | ok next => exact all rounds next

end Indexer

/-! ## What callers run -/

/-- What a caller of the rate-limited node runs: requests that wait for a token or do without, requests with their
retries, fetches side by side, whole runs of an indexer, and any of these one after another. -/
inductive Calling : {α : Type} → Plan α → Prop
  | send (r : Node.Request) : Calling (.alone r.send)
  | trySend (r : Node.Request) : Calling (.alone r.trySend)
  | fetch (retry : Retry.Params) (r : Node.Request) : Calling (.alone (r.fetch retry))
  | blocks (retry : Retry.Params) (r : HeightRange) : Calling (fetchBlocks retry r)
  | executions (retry : Retry.Params) (hashes : List String) : Calling (fetchExecutions retry hashes)
  | historic (ix : Indexer) (range : HeightRange) : Calling (ix.historic range)
  | live (ix : Indexer) (rounds : Nat) (skipStorage : Bool) : Calling (ix.live rounds skipStorage)
  | nothing {α : Type} (a : α) : Calling (.done a)
  | followed {α β : Type} {p : Plan α} {f : α → Plan β} (first : Calling p) (rest : ∀ a, Calling (f a)) :
    Calling (p.bind f)

/-- **Whatever callers run is paced.** -/
theorem Calling.paced {p : Plan α} (h : Calling p) : p.Paced := by
  induction h with
  | send r => exact paced_alone r.paced_send
  | trySend r => exact paced_alone r.paced_trySend
  | fetch retry r => exact paced_alone (r.paced_fetch retry)
  | blocks retry r => exact paced_fetchBlocks retry r
  | executions retry hashes => exact paced_fetchExecutions retry hashes
  | historic ix range => exact ix.paced_historic range
  | live ix rounds skipStorage => exact ix.paced_live rounds skipStorage
  | nothing a => trivial
  | followed _ _ ih ih' => exact ih.bind ih'

end ChainIndex
