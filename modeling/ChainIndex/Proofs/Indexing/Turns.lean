import ChainIndex.Indexing.Historic
import ChainIndex.Indexing.Live
import ChainIndex.Proofs.Indexing.Barrier

/-!
# Chunks in turn

A run over many chunks falls into stretches (`InTurn`): a run of one chunk, or what happens between two.
Every stretch but the last has come to its end, and with it every call that was put in it was answered,
or dropped because another batch of the same strand was refused. So no call of a chunk is put while a
call of an earlier one is open.

**Phases and turns** (`phases_and_turns`). This holds of every run over a range and of every run that
follows the head, finished or not, and within each chunk the second phase waits for the first.
-/

namespace ChainIndex

/-- Whether the question may be put between chunks: where the head is, how far storage has come, which
addresses others stored, and what is no call. -/
def Query.isBetween : Query → Bool
  | .request r => r = .latest
  | .call (.lastHeight _) | .call (.newer ..) => true
  | .call _ | .insertAll _ => false
  | _ => true

namespace Running

variable {σ α β : Type}

/-- A run that falls into stretches, each of a chunk or between chunks, and whether the last is over. -/
inductive InTurn (ix : Indexer) (E : Environment σ) : List (Option HeightRange) → List Event → Bool → Prop where
  | nothing : InTurn ix E [] [] true
  | chunk {range : HeightRange} {rest : List (Option HeightRange)} {es es' : List Event} {finished : Bool} {w w' : σ}
      {r : Except IndexError ChunkReport} (run : Completes E (ix.chunk range) w es w' r) (settled : Settled es)
      (later : InTurn ix E rest es' finished) : InTurn ix E (some range :: rest) (es ++ es') finished
  | between {rest : List (Option HeightRange)} {es es' : List Event} {finished : Bool} (asked : Asked (·.isBetween) es)
      (settled : Settled es) (later : InTurn ix E rest es' finished) : InTurn ix E (none :: rest) (es ++ es') finished
  | inChunk {range : HeightRange} {es : List Event} {w w' : σ} {s : Stage (Except IndexError ChunkReport)}
      (run : Steps E w (start (ix.chunk range)) es w' s) : InTurn ix E [some range] es false
  | inBetween {es : List Event} (asked : Asked (·.isBetween) es) : InTurn ix E [none] es false

variable {ix : Indexer} {E : Environment σ} {w w' : σ}

theorem InTurn.append {ranges ranges' : List (Option HeightRange)} {es es' : List Event} {finished : Bool}
    (h : InTurn ix E ranges es true) (h' : InTurn ix E ranges' es' finished) :
    InTurn ix E (ranges ++ ranges') (es ++ es') finished := by
  generalize done : true = b at h
  induction h with
  | nothing => exact h'
  | chunk run settled _ ih =>
    rw [List.append_assoc]
    exact .chunk run settled (ih done)
  | between asked settled _ ih =>
    rw [List.append_assoc]
    exact .between asked settled (ih done)
  | inChunk => cases done
  | inBetween => cases done

/-- Every run of a chunk is a stretch. -/
theorem Steps.inTurn_chunk {range : HeightRange} {es : List Event} {s : Stage (Except IndexError ChunkReport)}
    (h : Steps E w (start (ix.chunk range)) es w' s) : InTurn ix E [some range] es s.isDone := by
  cases s with
  | done r => simpa [Stage.isDone] using InTurn.chunk h (Completes.settled h) .nothing
  | going tasks results next => exact .inChunk h

/-- A run of a plan that puts only questions between chunks is a stretch. -/
theorem Steps.inTurn_between {p : Plan α} {post : σ → α → Prop} {es : List Event} {s : Stage α}
    (asks : p.Ensures (.only σ (·.isBetween)) post w) (h : Steps E w (start p) es w' s) :
    InTurn ix E [none] es s.isDone := by
  cases s with
  | done a => simpa [Stage.isDone] using InTurn.between (h.asks asks) (Completes.settled h) .nothing
  | going tasks results next => exact .inBetween (h.asks asks)

/-! ## Plans in turn -/

/-- Every run of the plan falls into stretches. -/
def Turns (ix : Indexer) (E : Environment σ) (p : Plan α) : Prop :=
  ∀ ⦃w w' : σ⦄ ⦃es : List Event⦄ ⦃s : Stage α⦄, Steps E w (start p) es w' s →
    ∃ ranges, InTurn ix E ranges es s.isDone

theorem Turns.chunk (range : HeightRange) : Turns ix E (ix.chunk range) := fun _ _ _ _ h => ⟨_, h.inTurn_chunk⟩

theorem Turns.between {p : Plan α} (asks : ∀ w, p.Ensures (.only σ (·.isBetween)) (fun _ _ => True) w) :
    Turns ix E p := fun w _ _ _ h => ⟨_, h.inTurn_between (asks w)⟩

theorem Turns.pure (a : α) : Turns ix E (Plan.done a) := fun _ _ _ _ h => by
  obtain ⟨rfl, rfl⟩ := steps_done h
  exact ⟨[], .nothing⟩

theorem Turns.bind {p : Plan α} {f : α → Plan β} (h : Turns ix E p) (goOn : ∀ a, Turns ix E (f a)) :
    Turns ix E (p >>= f) := by
  intro w w' es c run
  rcases steps_start_bind run with ⟨s, first, going, rfl⟩ | ⟨a, es₁, es₂, w₁, first, rest, rfl⟩
  · rw [Stage.isDone_bind going, ← going]
    exact h first
  · obtain ⟨ranges, turns⟩ := h first
    obtain ⟨ranges', later⟩ := goOn a rest
    exact ⟨ranges ++ ranges', turns.append later⟩

/-! ## A range -/

/-- Chunks are indexed in the order in which they are given, with nothing between them. -/
theorem Steps.inTurn_chunks {ranges : List HeightRange} {es : List Event} {s : Stage (List ChunkReport)}
    (h : Steps E w (start (ix.chunksInTurn ranges)) es w' s) :
    ∃ begun, begun <+: ranges ∧ (s.isDone → begun = ranges) ∧ InTurn ix E (begun.map some) es s.isDone := by
  induction ranges generalizing w es s with
  | nil =>
    obtain ⟨rfl, rfl⟩ := steps_done h
    exact ⟨[], List.prefix_rfl, fun _ => rfl, .nothing⟩
  | cons range ranges ih =>
    rcases steps_start_bind h with ⟨s₁, run, going, rfl⟩ | ⟨r, es₁, es₂, w₁, run, rest, rfl⟩
    · refine ⟨[range], by simp, fun finished => ?_, ?_⟩
      · simp [Stage.isDone_bind going] at finished
      · rw [Stage.isDone_bind going, ← going]
        exact run.inTurn_chunk
    · obtain ⟨s₂, later, same, -⟩ := steps_start_bind_pure (fun _ => rfl) rest
      obtain ⟨begun, order, all, turns⟩ := ih later
      rw [same]
      refine ⟨range :: begun, (List.prefix_cons_inj range).2 order, fun finished => by rw [all finished], ?_⟩
      exact .chunk run (Completes.settled run) turns

theorem Steps.inTurn_historic {range : HeightRange} {es : List Event} {s : Stage (Except IndexError (List ChunkReport))}
    (h : Steps E w (start (ix.historic range)) es w' s) :
    ∃ begun, begun <+: chunkRanges range.first range.last ix.blockChunk ∧
      (s.isDone → begun = chunkRanges range.first range.last ix.blockChunk) ∧
      InTurn ix E (begun.map some) es s.isDone := by
  unfold Indexer.historic at h
  by_cases empty : range.last < range.first
  · rw [if_pos empty] at h
    obtain ⟨rfl, rfl⟩ := steps_done h
    have none_ : chunkRanges range.first range.last ix.blockChunk = [] := by
      unfold chunkRanges firstRanges
      rw [if_neg (UInt64.not_le.2 empty)]
    exact ⟨[], List.nil_prefix, fun _ => none_.symm, .nothing⟩
  · rw [if_neg empty] at h
    obtain ⟨s₁, run, same, -⟩ := steps_start_bind_pure (fun _ => rfl) h
    rw [same]
    exact run.inTurn_chunks

/-! ## The head -/

theorem asks_fetchLatest {retry : Retry.Params} :
    (fetchLatest retry).Ensures (.only σ (·.isBetween)) (fun _ _ => True) w :=
  Node.Request.asks_fetch (r := .latest) (fun _ => rfl) rfl rfl

theorem asks_rest (ix : Indexer) : ix.rest.Ensures (.only σ (·.isBetween)) (fun _ _ => True) w :=
  Plan.ensures_alone (Strand.asks_query rfl rfl)

theorem asks_startingHeight (ix : Indexer) (skipStorage : Bool) :
    (ix.startingHeight skipStorage).Ensures (.only σ (·.isBetween)) (fun _ _ => True) w := by
  cases skipStorage with
  | true =>
    refine Strand.Ensures.bind asks_fetchLatest ?_
    intro r _ _ _ _
    cases r <;> exact Strand.asks_pure _
  | false =>
    refine Strand.ensures_query (fun _ _ _ => rfl) ?_
    intro r _ _ _ _
    match r with
    | .ok (some height) => exact Strand.asks_pure _
    | .ok none => exact Strand.asks_pure _
    | .error e => exact Strand.asks_pure _

theorem asks_refresh (book : BookRef) : book.refresh.Ensures (.only σ (·.isBetween)) (fun _ _ => True) w := by
  refine Strand.ensures_query (fun _ _ _ => rfl) ?_
  intro since _ _ _ _
  refine Strand.ensures_query (fun _ _ _ => rfl) ?_
  intro r w₁ _ _ _
  match r with
  | .error e => exact Strand.asks_pure _
  | .ok (ids, highest) =>
    have each : ∀ entry ∈ ids.toList, (Strand.book book (.learn entry.1 entry.2)).Ensures
        (.only σ (·.isBetween)) (fun _ _ => True) w₁ :=
      fun _ _ => Strand.asks_query rfl rfl
    refine Strand.Ensures.bind (Strand.ensures_forM each) ?_
    intro _ _ _ _ _
    refine Strand.ensures_query (fun _ _ _ => rfl) ?_
    intro _ _ _ _ _
    exact Strand.asks_pure _

theorem asks_refreshBooks (ix : Indexer) : ix.refreshBooks.Ensures (.only σ (·.isBetween)) (fun _ _ => True) w := by
  refine (Plan.ensures_joined (fun _ _ _ => True) fun i s at_ => ?_).bind fun _ _ _ _ _ => Plan.asks_pure _
  have member := List.mem_of_getElem? at_
  simp only [List.mem_cons, List.not_mem_nil, or_false] at member
  rcases member with rfl | rfl
  · exact asks_refresh _
  · exact asks_refresh _

theorem turns_idle (ix : Indexer) (a : α) : Turns ix E (ix.rest >>= fun _ => pure a) :=
  (Turns.between fun _ => asks_rest ix).bind fun _ => .pure a

theorem turns_advance (next head : UInt64) : Turns ix E (ix.advance next head) := by
  refine (Turns.chunk _).bind fun r => ?_
  cases r with
  | ok report =>
    change Turns ix E (if report.outcome = .processed then _ else _)
    by_cases processed : report.outcome = .processed
    · rw [if_pos processed]
      exact .pure _
    · rw [if_neg processed]
      exact turns_idle ix _
  | error e => exact (Turns.between fun _ => asks_refreshBooks ix).bind fun _ => turns_idle ix _

theorem turns_round (next : UInt64) : Turns ix E (ix.round next) := by
  have stopped : ∀ w, (Plan.alone Strand.stopped).Ensures (.only σ (·.isBetween)) (fun _ _ => True) w := fun _ =>
    Plan.ensures_alone (Strand.asks_query rfl rfl)
  refine (Turns.between stopped).bind fun stop => ?_
  cases stop with
  | true => exact .pure _
  | false =>
    refine (Turns.between fun _ => Plan.ensures_alone asks_fetchLatest).bind fun r => ?_
    cases r with
    | error e => exact turns_idle ix _
    | ok head =>
      change Turns ix E (if head < next then _ else _)
      by_cases done : head < next
      · rw [if_pos done]
        exact turns_idle ix _
      · rw [if_neg done]
        exact (turns_advance next head).bind fun _ => .pure _

theorem turns_roundsFrom (rounds : Nat) (next : UInt64) : Turns ix E (ix.roundsFrom rounds next) := by
  induction rounds generalizing next with
  | zero => exact .pure _
  | succ rounds ih =>
    refine (turns_round next).bind fun r => ?_
    match r with
    | .error e => exact .pure _
    | .ok none => exact .pure _
    | .ok (some next) => exact ih next

theorem turns_live (rounds : Nat) (skipStorage : Bool) : Turns ix E (ix.live rounds skipStorage) := by
  refine (Turns.between fun _ => Plan.ensures_alone (asks_startingHeight ix skipStorage)).bind fun r => ?_
  cases r with
  | error e => exact .pure _
  | ok next => exact turns_roundsFrom rounds next

/-- **Phases and turns.** In every run of a chunk the second phase waits until all of the first has
ended well, and a failure of the first is the failure of the chunk once all of it has ended. In every
run over a range, and in every run that follows the head, chunks do not overlap. -/
theorem phases_and_turns (ix : Indexer) (E : Environment σ) :
    (∀ {range w es w'} {s : Stage (Except IndexError ChunkReport)}, Steps E w (start (ix.chunk range)) es w' s →
      ChunkRun ix E range es s ∧
      (∀ pre who q post, es = pre ++ .asked who q :: post → q.isLateWrite →
        ∀ i < 3, .ended i (.ok () : Except IndexError Unit) ∈ pre) ∧
      (E.Answering → ∃ es' w'' r, Steps E w' s es' w'' (.done r))) ∧
    (∀ {range w es w'} {s : Stage (Except IndexError (List ChunkReport))},
      Steps E w (start (ix.historic range)) es w' s →
      ∃ begun, begun <+: chunkRanges range.first range.last ix.blockChunk ∧
        (s.isDone → begun = chunkRanges range.first range.last ix.blockChunk) ∧
        InTurn ix E (begun.map some) es s.isDone) ∧
    ∀ {rounds skipStorage w es w'} {s : Stage (Except Halt (Option UInt64))},
      Steps E w (start (ix.live rounds skipStorage)) es w' s → ∃ ranges, InTurn ix E ranges es s.isDone := by
  refine ⟨fun run => ⟨run.chunkRun, fun pre who q post split late => run.chunkRun.barrier split late, ?_⟩, ?_, ?_⟩
  · exact fun answering => exists_completion answering _ _
  · exact fun run => run.inTurn_historic
  · exact fun run => turns_live _ _ run

end Running

end ChainIndex
