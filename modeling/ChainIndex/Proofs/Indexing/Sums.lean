import ChainIndex.Proofs.Indexing.Cutting
import ChainIndex.Proofs.Indexing.Restart
import ChainIndex.Proofs.Running.Alone

/-!
# Sums of heights

Heights have sixty-four bits, and a sum that needs more overflows. What is computed from the heights of a chunk never
does (`HeightRange.Exact`), wherever the range begins, whatever size chunks have and however high the head is: a chunk
ends at the head at the latest, and its end stops at the highest height.

**Two sums have nothing above them** (`Running.sums_exact`). A run begins at the height after the highest stored one,
and goes on at the height after a chunk that was processed. They are exact if there is such a height, and then the
cursor moves forward. If there is none, the run breaks off.

**Runs do break off** (`Running.highest_height_halts`). One does that processes the block at the highest height, and one
does that finds this height stored.
-/

namespace ChainIndex

/-- What is computed from the heights of a chunk comes to the exact numbers: how many heights may follow the first, the
end of the chunk, what is left behind it up to the top, and how many heights it has. -/
structure HeightRange.Exact (size top : UInt64) (r : HeightRange) : Prop where
  valid : r.first ≤ r.last
  within : r.last ≤ top
  more : (max size 1 - 1).toNat = max 1 size.toNat - 1
  last : r.last.toNat = min top.toNat (r.first.toNat + (max 1 size.toNat - 1))
  left : (top - r.last).toNat = top.toNat - r.last.toNat
  count : (r.last - r.first + 1).toNat = r.last.toNat - r.first.toNat + 1

/-- The heights of a chunk can be counted in a word. -/
theorem HeightRange.Exact.isCountable {size top : UInt64} {r : HeightRange} (exact_ : r.Exact size top) :
    r.IsCountable := by
  rintro ⟨first, last⟩
  have count := exact_.count
  rw [first, last] at count
  exact absurd count (by decide)

/-- A chunk that ends where chunks of the size end has exact sums. -/
theorem HeightRange.exact_of_ends {size top : UInt64} {r : HeightRange} (valid : r.first ≤ r.last)
    (last : r.last.toNat = min top.toNat (r.first.toNat + (max 1 size.toNat - 1))) : r.Exact size top := by
  have within : r.last ≤ top := UInt64.le_iff_toNat_le.2 (by omega)
  have lower := UInt64.le_iff_toNat_le.1 valid
  have word := size.toNat_lt_size
  have some_ : 1 < UInt64.size := by decide
  have one : (1 : UInt64) ≤ max size 1 := by
    rw [UInt64.le_iff_toNat_le, toNat_max_one]
    exact fullSize_pos size
  refine ⟨valid, within, ?_, last, UInt64.toNat_sub_of_le _ _ within, ?_⟩
  · rw [UInt64.toNat_sub_of_le _ _ one, toNat_max_one, fullSize, Nat.max_comm]
    rfl
  · have heights := r.length_heights
    rw [toNat_last_sub_first valid (by omega)]
    omega

/-- The sums of every chunk of a range are exact, and so is the beginning of the next. -/
theorem exact_of_mem_chunkRanges (first top size : UInt64) :
    (∀ r ∈ chunkRanges first top size, r.Exact size top) ∧
      (chunkRanges first top size).IsChain fun r r' => r'.first.toNat = r.last.toNat + 1 := by
  rcases UInt64.lt_or_le top first with past | valid
  · rw [chunkRanges_eq_nil size past]
    exact ⟨fun r member => absurd member List.not_mem_nil, .nil⟩
  · have cut : Cut top size first (chunkRanges first top size) := cut_firstRanges valid 0
    refine ⟨fun r member => ?_, cut.consecutive⟩
    obtain ⟨lower, end_⟩ := cut.ends member
    rw [fullSize, Nat.max_comm] at end_
    exact HeightRange.exact_of_ends lower end_

/-! ## The cursor -/

/-- Where the cursor is before and after each turn. Behind a turn with no height to go on with it is nowhere. -/
def cursors (cursor : UInt64) : List Turn → List UInt64
  | [] => [cursor]
  | t :: ts =>
    cursor ::
      match t.next cursor with
      | .ok next => cursors next ts
      | .error _ => []

variable {size cursor next last : UInt64} {t : Turn} {ts : List Turn}

theorem cursors_of_ok (goesOn : t.next cursor = .ok next) : cursors cursor (t :: ts) = cursor :: cursors next ts := by
  rw [cursors, goesOn]

theorem cursors_of_error {e : Halt} (beyond : t.next cursor = .error e) : cursors cursor (t :: ts) = [cursor] := by
  rw [cursors, beyond]

theorem head?_cursors (cursor : UInt64) (ts : List Turn) : (cursors cursor ts).head? = some cursor := by
  cases ts <;> rfl

theorem cursors_ne_nil (cursor : UInt64) (ts : List Turn) : cursors cursor ts ≠ [] := by
  cases ts <;> exact List.cons_ne_nil _ _

namespace Turn

/-- The sums of the chunk of a turn are exact. -/
theorem From.exact (here : t.From size cursor) {head : UInt64} {r : HeightRange}
    {result : Option (Except IndexError ChunkReport)} (begun : t = .chunk head r result) : r.Exact size head := by
  cases here with
  | unread => cases begun
  | caughtUp ahead => cases begun
  | chunk ready =>
    cases begun
    have end_ := toNat_chunkEnd cursor head size
    rw [fullSize, Nat.max_comm] at end_
    exact HeightRange.exact_of_ends (le_chunkEnd size ready) end_

theorem next_of_not_isOver (going : t.isOver = false) : t.next cursor = .ok cursor := by
  rcases next_cases cursor t with ⟨r, -, processed, -⟩ | ⟨-, stays⟩
  · rw [not_isProcessed_of_not_isOver going] at processed
    cases processed
  · exact stays

end Turn

namespace Walk

/-- A walk ends at the last of its cursors. -/
theorem getLast?_cursors (h : Walk size cursor ts last) : (cursors cursor ts).getLast? = some last := by
  induction h with
  | rest => rfl
  | turn here settled goesOn later ih =>
    rw [cursors_of_ok goesOn, List.getLast?_cons_of_ne_nil (cursors_ne_nil _ _)]
    exact ih
  | amid here going =>
    rw [cursors_of_ok (Turn.next_of_not_isOver going)]
    rfl
  | halted here beyond =>
    rw [cursors_of_error beyond]
    rfl

/-- **The cursor of a walk only moves forward.** -/
theorem isChain_cursors (h : Walk size cursor ts last) : (cursors cursor ts).IsChain (· ≤ ·) := by
  induction h with
  | rest => exact .singleton _
  | @turn cursor next last t ts here settled goesOn later ih =>
    rw [cursors_of_ok goesOn, List.isChain_cons]
    refine ⟨fun first found => ?_, ih⟩
    obtain rfl : next = first := Option.some.inj ((head?_cursors next ts).symm.trans found)
    exact here.le_next goesOn
  | amid here going =>
    rw [cursors_of_ok (Turn.next_of_not_isOver going), cursors, List.isChain_pair]
    exact UInt64.le_refl _
  | halted here beyond =>
    rw [cursors_of_error beyond]
    exact .singleton _

/-- Behind a chunk that was processed the cursor is at the next height, if there is one. -/
theorem exists_cursors_succ (h : Walk size cursor ts last) {i : Nat} {r : HeightRange} (at_ : ts[i]? = some t)
    (begun : t.range? = some r) (processed : t.isProcessed) (below : r.last ≠ highestHeight) :
    ∃ next, (cursors cursor ts)[i + 1]? = some next ∧ next.toNat = r.last.toNat + 1 := by
  induction h generalizing i with
  | rest => cases at_
  | @turn cursor next last u ts here settled goesOn later ih =>
    rw [cursors_of_ok goesOn, List.getElem?_cons_succ]
    cases i with
    | zero =>
      obtain rfl : u = t := Option.some.inj at_
      have moved := here.toNat_next goesOn begun
      rw [if_pos processed] at moved
      exact ⟨next, List.head?_eq_getElem?.symm.trans (head?_cursors next ts), moved⟩
    | succ i => exact ih at_
  | @amid cursor u here going =>
    obtain rfl : t = u := List.mem_singleton.1 (List.mem_of_getElem? at_)
    rw [Turn.not_isProcessed_of_not_isOver going] at processed
    cases processed
  | @halted cursor u e here beyond =>
    obtain rfl : t = u := List.mem_singleton.1 (List.mem_of_getElem? at_)
    refine absurd (fun v member _ r' begun' => ?_) (Turn.next_eq_error beyond).2
    obtain rfl := List.mem_singleton.1 member
    exact Option.some.inj (begun.symm.trans begun') ▸ below

end Walk

namespace Running

variable {σ : Type} {E : Environment σ} {ix : Indexer} {w w' : σ} {es : List Event}

/-! ## Where a run begins -/

/-- A run that looks into storage begins at the height after the one that it is told, or at the first. -/
theorem Completes.began {r : Except Halt UInt64}
    (run : Completes E (.alone (ix.startingHeight false)) w es w' r) :
    (∃ stored : Option UInt64, .answered ⟨0, none⟩ (.call (.lastHeight ix.processor.chain)) (.ok stored) ∈ es ∧
      r = (stored.map heightAfter).getD (.ok 1)) ∨ ∃ e, r = .error (.failed e) := by
  obtain ⟨told, es', w₁, w₂, -, rest, rfl⟩ := run.alone.of_ask rfl
  match told, rest with
  | .ok none, rest => exact .inl ⟨none, by simp, rest.of_done.1⟩
  | .ok (some height), rest => exact .inl ⟨some height, by simp, rest.of_done.1⟩
  | .error e, rest => exact .inr ⟨_, rest.of_done.1⟩

/-- A run that begins at the head adds nothing up to begin with. -/
theorem Completes.began_at_head {r : Except Halt UInt64}
    (run : Completes E (.alone (ix.startingHeight true)) w es w' r) : r ≠ .error .overflow := by
  have fails : (ix.startingHeight true).Ensures (.only σ (·.isBetween)) (fun _ r => r ≠ .error .overflow) w := by
    refine Strand.Ensures.bind asks_fetchLatest ?_
    intro head _ _ _ _
    cases head <;> exact Strand.ensures_pure fun _ _ _ => nofun
  exact (run.ensures Environment.honors_only trivial (Plan.ensures_alone fails)).2.2

/-- Where a run begins, if storage knows a height: behind it. -/
theorem Completes.began_exactly {first : UInt64}
    (run : Completes E (.alone (ix.startingHeight false)) w es w' (.ok first)) :
    ∃ stored : Option UInt64, .answered ⟨0, none⟩ (.call (.lastHeight ix.processor.chain)) (.ok stored) ∈ es ∧
      (stored = none → first = 1) ∧
      ∀ height, stored = some height → height ≠ highestHeight ∧ first.toNat = height.toNat + 1 := by
  rcases run.began with ⟨stored, told, begins⟩ | ⟨e, failed⟩
  · refine ⟨stored, told, ?_, ?_⟩
    · rintro rfl
      exact Except.ok.inj begins
    · rintro height rfl
      have begins : heightAfter height = .ok first := begins.symm
      exact ⟨(heightAfter_eq_ok begins).1, toNat_heightAfter begins⟩
  · cases failed

/-- A run does not find out where to begin because of an overflow only if the highest height is stored. -/
theorem Completes.began_nowhere {skipStorage : Bool}
    (run : Completes E (.alone (ix.startingHeight skipStorage)) w es w' (.error .overflow)) :
    skipStorage = false ∧
      .answered ⟨0, none⟩ (.call (.lastHeight ix.processor.chain)) (.ok (some highestHeight)) ∈ es := by
  cases skipStorage with
  | true => exact absurd rfl run.began_at_head
  | false =>
    refine ⟨rfl, ?_⟩
    rcases run.began with ⟨_ | height, told, begins⟩ | ⟨e, failed⟩
    · cases begins
    · have beyond : heightAfter height = .error .overflow := begins.symm
      exact (heightAfter_eq_error beyond).1 ▸ told
    · cases failed

/-! ## Runs -/

/-- **Heights are added up exactly.** The chunks of a range have exact sums, and so has every chunk of a run that
follows the head. Two sums overflow, and only at the highest height: where a run begins behind the height that storage
tells, and where it goes on behind a chunk that was processed. The run breaks off there, and nowhere else. Otherwise
both are exact, and the cursor of a run moves forward only. -/
theorem sums_exact {rounds : Nat} {skipStorage : Bool} {c : Stage (Except Halt (Option UInt64))}
    (run : Steps E w (start (ix.live rounds skipStorage)) es w' c) :
    (∀ first top, (∀ r ∈ chunkRanges first top ix.blockChunk, r.Exact ix.blockChunk top ∧ r.IsCountable) ∧
      (chunkRanges first top ix.blockChunk).IsChain fun r r' => r'.first.toNat = r.last.toNat + 1) ∧
    (Lull E w es w' ∧ (∀ {n}, c ≠ .done (.ok n)) ∧
        (c = .done (.error .overflow) → skipStorage = false ∧
          .answered ⟨0, none⟩ (.call (.lastHeight ix.processor.chain)) (.ok (some highestHeight)) ∈ es) ∨
      ∃ first es₁ es₂ w₁ ts cursor, es = es₁ ++ es₂ ∧
        Completes E (.alone (ix.startingHeight skipStorage)) w es₁ w₁ (.ok first) ∧
        Rounds ix E first w₁ ts es₂ cursor w' ∧ (∀ {n}, c = .done (.ok (some n)) → n = cursor) ∧
        (skipStorage = false → ∃ stored : Option UInt64,
          .answered ⟨0, none⟩ (.call (.lastHeight ix.processor.chain)) (.ok stored) ∈ es₁ ∧
          (stored = none → first = 1) ∧
          ∀ height, stored = some height → height ≠ highestHeight ∧ first.toNat = height.toNat + 1) ∧
        (∀ head r result, .chunk head r result ∈ ts → r.Exact ix.blockChunk head ∧ r.IsCountable) ∧
        (∀ i t r, ts[i]? = some t → t.range? = some r → t.isProcessed → r.last ≠ highestHeight →
          ∃ next, (cursors first ts)[i + 1]? = some next ∧ next.toNat = r.last.toNat + 1) ∧
        (∀ {e}, c = .done (.error e) ↔ e = .overflow ∧ ¬EndsBelow ts) ∧
        (cursors first ts).getLast? = some cursor ∧ (cursors first ts).IsChain (· ≤ ·)) := by
  refine ⟨fun first top => ?_, ?_⟩
  · obtain ⟨each, consecutive⟩ := exact_of_mem_chunkRanges first top ix.blockChunk
    exact ⟨fun r member => ⟨each r member, (each r member).isCountable⟩, consecutive⟩
  rcases run.live with ⟨lull, never, failed⟩ | ⟨first, es₁, es₂, w₁, ts, cursor, rfl, began, rounds, ends, breaks⟩
  · exact .inl ⟨lull, never, fun broken => (failed broken).began_nowhere⟩
  · have walk := rounds.walk
    refine .inr ⟨first, es₁, es₂, w₁, ts, cursor, rfl, began, rounds, ends, ?_, ?_,
      fun _ _ _ at_ begun => walk.exists_cursors_succ at_ begun, breaks, walk.getLast?_cursors, walk.isChain_cursors⟩
    · rintro rfl
      exact began.began_exactly
    · intro head r result member
      obtain ⟨cursor', here⟩ := walk.bounded member
      have exact_ := here.exact rfl
      exact ⟨exact_, exact_.isCountable⟩

/-- A run that indexes the block at the first height goes on at the second. -/
theorem sums_of_signed : ∃ es w ts,
    Completes honestSite ((OneBlock.indexer 1 1).live 1 false) .empty es w (.ok (some 2)) ∧ EndsBelow ts ∧
    (cursors 1 ts).IsChain (· ≤ ·) ∧ (cursors 1 ts).getLast? = some 2 := by
  obtain ⟨es, run⟩ := OneBlock.exists_signed
  rcases (sums_exact run).2 with
    ⟨-, never, -⟩ | ⟨first, es₁, es₂, w₁, ts, cursor, rfl, began, rounds, ends, -, -, -, breaks, last, forward⟩
  · exact absurd rfl never
  · obtain rfl := ends rfl
    obtain ⟨rfl, -⟩ := began.startingHeight
    have below : EndsBelow ts := by
      by_contra top
      cases breaks.2 ⟨rfl, top⟩
    exact ⟨_, _, ts, run, below, forward, last⟩

end Running

/-! ## A chain whose head is the highest height -/

namespace TopBlock

open Storage Running

/-- The block at the highest height. -/
def block : Block := { OneBlock.bare with height := highestHeight }

def indexer : Indexer := OneBlock.indexer 1 1

/-- The validator of the block is known. -/
def book : AddressBook := ⟨(∅ : AddressIds).insert "val" 1, 1⟩

/-- The head is at the highest height, which is also the highest that storage has. Nothing changes. -/
def rule : Rule Unit := fun _ q =>
  match q with
  | .request (.block height) =>
    if height = highestHeight then ((.ok block : Except Node.Error Block), ())
    else (.error ⟨.height height, .rateLimitExhausted⟩, ())
  | .request (.execution hash) => ((.error ⟨.hash hash, .rateLimitExhausted⟩ : Except Node.Error Execution), ())
  | .request .latest => ((.ok highestHeight : Except Node.Error UInt64), ())
  | .request .health => ((.ok () : Except Node.Error Unit), ())
  | .call (.lastHeight _) => ((.ok (some highestHeight) : Except Storage.Error (Option UInt64)), ())
  | .call (.find _ asked) =>
    ((.ok (book.ids.filter fun a _ => asked.contains a) : Except Storage.Error AddressIds), ())
  | .call (.newer _ since) => ((.ok (∅, since) : Except Storage.Error (AddressIds × AddressId)), ())
  | .call (.insertAddresses _ _) => ((.ok () : Except Storage.Error Unit), ())
  | .call (.insert b) => ((.ok b.length.toUInt64 : Except Storage.Error UInt64), ())
  | .insertAll _ => ((.ok 0 : Except Storage.Error UInt64), ())
  | .book _ step => ((book.step step).1, ())
  | .token => ((), ())
  | .tryToken => (true, ())
  | .sleep _ => ((), ())
  | .pause _ => ((), ())
  | .stopped => (false, ())

/-- The world that answers as the rule does. -/
def world : Environment Unit where
  answers w q a w' := rule w q = (a, w')
  works _ _ _ := False
  others _ _ := False

theorem world_follows : world.Follows rule := fun _ _ => rfl

def range : HeightRange := ⟨highestHeight, highestHeight⟩

theorem gives_chunk : rule.Gives (indexer.chunk range) () (.ok ⟨range, 1, 0, .processed⟩) () := by
  have fetched : rule.Gives (fetchBlocks indexer.fetchRetry range) () (.ok [.ok block]) () := by
    have each : rule.Gives (Plan.unordered (range.heights.map fun height =>
        (Node.Request.block height).fetch indexer.fetchRetry)) () [(.ok block : Except Node.Error Block)] () := rfl
    exact each.bind (.pure _ _)
  have listed : rule.Gives (indexer.fetchTransactions [block]) () [] () := by
    have batches : rule.Gives (indexer.fetchBatches (pieces 1 [])) () [] () := by
      rw [pieces_nil]
      exact .pure _ _
    exact batches.bind (.pure _ _)
  have first : rule.Gives (indexer.firstPhase [block] []) () (.ok ()) () := by
    have joined : rule.Gives (Plan.joined (indexer.firstOperations [block] [])) () [.ok (), .ok (), .ok ()] () :=
      .joined (by decide +kernel)
    exact joined.bind (.pure _ _)
  have second : rule.Gives (indexer.secondPhase [block]) () (.ok ()) () := by
    have joined : rule.Gives (Plan.joined [indexer.processor.blocks [block], indexer.processor.signings [block]]) ()
        [.ok 0, .ok 0] () := .joined (by decide +kernel)
    exact joined.bind (.pure _ _)
  exact fetched.bind (listed.bind (first.bind (second.bind (.pure _ _))))

/-- Behind the block there is no height to go on with. -/
theorem gives_live : rule.Gives (indexer.live 1 true) () (.error .overflow) () := by
  have first : rule.Gives (.alone (indexer.startingHeight true)) () (.ok highestHeight) () := rfl
  have going : rule.Gives (.alone Strand.stopped) () false () := rfl
  have head : rule.Gives (.alone (fetchLatest indexer.fetchRetry)) () (.ok highestHeight) () := rfl
  have advanced : rule.Gives (indexer.advance highestHeight highestHeight) () (.error .overflow) () :=
    gives_chunk.bind (.pure _ _)
  have ready : rule.Gives (if highestHeight < highestHeight then (do indexer.rest; pure (.ok (some highestHeight)))
      else (do let after ← indexer.advance highestHeight highestHeight; pure (after.map some))) ()
      (.error .overflow) () := advanced.bind (.pure _ _)
  have round : rule.Gives (indexer.round highestHeight) () (.error .overflow) () := going.bind (head.bind ready)
  exact first.bind (round.bind (.pure _ _))

theorem gives_first_stored : rule.Gives (.alone (indexer.startingHeight false)) () (.error .overflow) () := rfl

end TopBlock

namespace Running

/-- **At the highest height a run breaks off.** One that begins at the head does once it has processed the block there,
and one that finds this height stored does before it begins. -/
theorem highest_height_halts :
    (∃ es, Completes TopBlock.world (TopBlock.indexer.chunk ⟨highestHeight, highestHeight⟩) () es ()
      (.ok ⟨⟨highestHeight, highestHeight⟩, 1, 0, .processed⟩)) ∧
    (∃ es, Completes TopBlock.world (TopBlock.indexer.live 1 true) () es () (.error .overflow)) ∧
    ∃ es, Completes TopBlock.world (TopBlock.indexer.live 1 false) () es () (.error .overflow) ∧
      .answered ⟨0, none⟩ (.call (.lastHeight TopBlock.indexer.processor.chain)) (.ok (some highestHeight)) ∈ es := by
  obtain ⟨es, began⟩ := TopBlock.gives_first_stored.exists_completes TopBlock.world_follows
  have broken : Completes TopBlock.world (TopBlock.indexer.live 1 false) () (es ++ []) () (.error .overflow) :=
    began.bind (Steps.refl _ _)
  rw [List.append_nil] at broken
  exact ⟨TopBlock.gives_chunk.exists_completes TopBlock.world_follows,
    TopBlock.gives_live.exists_completes TopBlock.world_follows, es, broken, began.began_nowhere.2⟩

end Running

end ChainIndex
