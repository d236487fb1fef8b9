import ChainIndex.Proofs.Indexing.Convergence
import ChainIndex.Proofs.Running.Played
import ChainIndex.Proofs.Storage.Honest

/-!
# Following the head, and beginning again

**The walk** (`live_gapless`). Once a run that follows the head knows where to begin, the ranges that it hands to
chunks follow one another without gap and overlap up to its cursor, whatever heads it is told and however its
reads, its fetches and its calls to storage fail.

**Beginning again** (`live_resumes`). The cursor of a run is gone when the run is. A later run begins above the
highest block row instead, and block rows are stored last, next to the rows of signings. So it begins at the
cursor of the first run or below, unless a chunk of that run had come to its second phase and was not processed.
From where it begins it goes over every height.

The exception is real (`signings_lost`). The two writes of a second phase run side by side, and if that
of the block rows succeeds while that of the signings fails, a later run takes the chunk for done.
-/

namespace ChainIndex

open Storage Running

namespace Running

/-- The height is one of a chunk that came to its second phase and was not processed. -/
def TornAt (ix : Indexer) (ts : List Turn) (es : List Event) (height : UInt64) : Prop :=
  ∃ t ∈ ts, t.isProcessed = false ∧ (∃ r, t.range? = some r ∧ height ∈ r.heights) ∧
    ∃ cursor w es' w', Round ix honestSite cursor w t es' w' ∧ es' <:+: es ∧
      ∀ i < 3, .ended i (.ok () : Except IndexError Unit) ∈ es'

variable {ix : Indexer} {cursor last : UInt64} {w w' : Site} {t : Turn} {ts : List Turn} {es es' : List Event}
  {height : UInt64}

theorem TornAt.later (torn : TornAt ix ts es height) : TornAt ix (t :: ts) (es' ++ es) height := by
  obtain ⟨t', member, failed, inside, cursor, w, es₁, w', round, part, ended⟩ := torn
  exact ⟨t', List.mem_cons_of_mem t member, failed, inside, cursor, w, es₁, w', round,
    part.trans (List.suffix_append es' es).isInfix, ended⟩

/-! ## Which block rows there are -/

/-- A round stores block rows of its chunk only, and only if that comes to its second phase. -/
theorem Round.block_stored (round : Round ix honestSite cursor w t es w') {r : BlockRow} (member : .block r ∈ w'.rows) :
    .block r ∈ w.rows ∨ (∃ range, t.range? = some range ∧ r.at ∈ range.heights) ∧
      ∀ i < 3, .ended i (.ok () : Except IndexError Unit) ∈ es := by
  cases round with
  | unread looked read rested =>
    exact .inl (looked.rows_subset ((Lull.head read).rows_subset (rested.rows_subset member)))
  | caughtUp looked read ahead rested =>
    exact .inl (looked.rows_subset ((Lull.head read).rows_subset (rested.rows_subset member)))
  | chunk looked read ready ran rested =>
    rcases ran.block_stored (rested.rows_subset member) with before | ⟨inside, ended⟩
    · exact .inl (looked.rows_subset ((Lull.head read).rows_subset before))
    · refine .inr ⟨⟨_, rfl, inside⟩, fun i bound => ?_⟩
      have here := ended i bound
      simp [here]

/-- **After rounds**, block rows that are new are below the cursor, but for those of chunks that came to their
second phase and were not processed. -/
theorem Rounds.block_stored (rounds : Rounds ix honestSite cursor w ts es last w') (below : HeadsBelow ts)
    {r : BlockRow} (member : .block r ∈ w'.rows) : .block r ∈ w.rows ∨ r.at < last ∨ TornAt ix ts es r.at := by
  induction rounds with
  | rest lull => exact .inl (lull.rows_subset member)
  | @turn cursor next last w w₁ w' t ts es es' here settled goesOn later ih =>
    rcases ih below.tail member with before | passed | torn
    · rcases here.block_stored before with old | ⟨⟨range, begun, inside⟩, ended⟩
      · exact .inl old
      · by_cases processed : t.isProcessed
        · have moved := here.from.toNat_next goesOn begun
          have forward := later.walk.forward
          have upper := (HeightRange.mem_heights.1 inside).2
          rw [if_pos processed] at moved
          rw [UInt64.le_iff_toNat_le] at forward upper
          exact .inr (.inl (UInt64.lt_iff_toNat_lt.2 (by omega)))
        · exact .inr (.inr ⟨t, List.mem_cons_self, by simpa using processed, ⟨range, begun, inside⟩, cursor, w, es, w₁,
            here, (List.prefix_append es es').isInfix, ended⟩)
    · exact .inr (.inl passed)
    · exact .inr (.inr torn.later)
  | @amid cursor w w' t es here going =>
    rcases here.block_stored member with old | ⟨inside, ended⟩
    · exact .inl old
    · exact .inr (.inr ⟨t, List.mem_singleton_self t, Turn.not_isProcessed_of_not_isOver going, inside, cursor, w, es,
        w', here, List.infix_rfl, ended⟩)
  | halted here beyond lull => exact absurd (here.from.endsBelow below) (Turn.next_eq_error beyond).2

/-- **After a run** that began with nothing stored, block rows are below its cursor, but for those of chunks that
came to their second phase and were not processed. -/
theorem Steps.live_stored {rounds : Nat} {c : Stage (Except Halt (Option UInt64))}
    (run : Steps honestSite .empty (start (ix.live rounds false)) es w c) :
    ∃ es₁ es₂ w₁ ts last, es = es₁ ++ es₂ ∧ Lull honestSite .empty es₁ w₁ ∧ Rounds ix honestSite 1 w₁ ts es₂ last w ∧
      (∀ {n}, c = .done (.ok (some n)) → n = last) ∧
      ∀ r, .block r ∈ w.rows → r.at < last ∨ TornAt ix ts es₂ r.at := by
  have nothing {w' : Site} (subset : w'.rows ⊆ Site.empty.rows) (row : Row) : row ∉ w'.rows :=
    fun member => absurd (subset member) List.not_mem_nil
  rcases run.live with ⟨lull, ends, -⟩ | ⟨first, es₁, es₂, w₁, ts, last, rfl, began, rounds, ends, -⟩
  · refine ⟨es, [], w, [], 1, (List.append_nil es).symm, lull, .rest .nothing, fun same => absurd same ends, ?_⟩
    exact fun r member => absurd member (nothing lull.rows_subset _)
  · have lull := Lull.first began
    obtain ⟨rfl, -⟩ := began.startingHeight
    refine ⟨es₁, es₂, w₁, ts, last, rfl, lull, rounds, ends, fun r member => ?_⟩
    exact (rounds.block_stored (rounds.headsBelow honestSite_headsBelow) member).resolve_left
      (nothing lull.rows_subset _)

/-- The heights from the beginning of a walk up to its cursor are those of processed chunks. -/
theorem exists_processed {size first : UInt64} (gapless : Gapless size first ts cursor) (from_ : first ≤ height)
    (passed : height < cursor) : ∃ t ∈ ts, t.isProcessed ∧ ∃ r, t.range? = some r ∧ height ∈ r.heights := by
  rw [UInt64.le_iff_toNat_le] at from_
  rw [UInt64.lt_iff_toNat_lt] at passed
  have tile : height.toNat ∈ (((ts.filter (·.isProcessed)).filterMap Turn.range?).flatMap HeightRange.heights).map
      UInt64.toNat := by
    rw [gapless.tiles, List.mem_range'_1]
    omega
  obtain ⟨height', inside, same⟩ := List.mem_map.1 tile
  obtain rfl : height' = height := UInt64.toNat_inj.1 same
  obtain ⟨r, member, inside⟩ := List.mem_flatMap.1 inside
  obtain ⟨t, member, begun⟩ := List.mem_filterMap.1 member
  obtain ⟨member, processed⟩ := List.mem_filter.1 member
  exact ⟨t, member, processed, r, begun, inside⟩

end Running

/-! ## A chain of one block -/

namespace OneBlock

/-- The block without its transaction. -/
def bare : Block := { block with transactions := [] }

def failure : Storage.Error := .query "insert" "refused"

def isSignings : Batch → Bool
  | .signings _ => true
  | _ => false

/-- The block is at the first height, and that is where the head is. Signings may be refused. -/
def rule (signed : Bool) : Rule Site := fun w q =>
  match q with
  | .request (.block height) =>
    if height = 1 then ((.ok bare : Except Node.Error Block), w) else (.error ⟨.height height, .rateLimitExhausted⟩, w)
  | .request (.execution hash) => ((.error ⟨.hash hash, .rateLimitExhausted⟩ : Except Node.Error Execution), w)
  | .request .latest => ((.ok 1 : Except Node.Error UInt64), w)
  | .request .health => ((.ok () : Except Node.Error Unit), w)
  | .call (.lastHeight chain) => ((.ok (w.lastHeight chain) : Except Storage.Error (Option UInt64)), w)
  | .call (.find space asked) =>
    ((.ok ((w.ids space).filter fun a _ => asked.contains a) : Except Storage.Error AddressIds), w)
  | .call (.newer _ since) => ((.ok (∅, since) : Except Storage.Error (AddressIds × AddressId)), w)
  | .call (.insertAddresses space asked) =>
    if (w.ids space).isEmpty ∧ asked = ["val"] then
      ((.ok () : Except Storage.Error Unit), w.setIds space ((∅ : AddressIds).insert "val" 1))
    else (.error failure, w)
  | .call (.insert b) =>
    if isSignings b && !signed then ((.error failure : Except Storage.Error UInt64), w)
    else ((.ok b.length.toUInt64 : Except Storage.Error UInt64), w.insert b.rows)
  | .insertAll _ => ((.error failure : Except Storage.Error UInt64), w)
  | .book ref step => (((w.books ref).step step).1, { w with books := w.books.after (.book ref step) })
  | .token => ((), w)
  | .tryToken => (true, w)
  | .sleep _ => ((), w)
  | .pause _ => ((), w)
  | .stopped => (false, w)

theorem rule_follows (signed : Bool) : honestSite.Follows (rule signed) := by
  intro w q
  cases q with
  | request question =>
    cases question with
    | block height =>
      by_cases first : height = 1
      · subst first
        exact ⟨rfl, rfl⟩
      · simp only [rule, if_neg first]
        exact rfl
    | latest => exact ⟨by decide, rfl⟩
    | _ => exact rfl
  | call c =>
    cases c with
    | lastHeight chain => exact ⟨rfl, rfl⟩
    | find space asked => exact ⟨rfl, rfl⟩
    | newer space since => exact rfl
    | insertAddresses space asked =>
      by_cases granted : (w.ids space).isEmpty ∧ asked = ["val"]
      · simp only [rule, if_pos granted]
        obtain ⟨nothing, rfl⟩ := granted
        exact ⟨_, .first nothing "val" (by decide), rfl⟩
      · simp only [rule, if_neg granted]
        exact rfl
    | insert b =>
      by_cases refuse : isSignings b && !signed
      · simp only [rule, if_pos refuse]
        exact rfl
      · simp only [rule, if_neg refuse]
        exact rfl
  | book ref step => exact ⟨rfl, rfl⟩
  | _ => exact rfl

variable {signed : Bool} {w w' : Site}

/-- The block is fetched, and it lists nothing. -/
theorem gives_fetchBlocks :
    (rule signed).Gives (fetchBlocks (indexer 1 1).fetchRetry ⟨1, 1⟩) w (.ok [.ok bare]) w := by
  have fetched : (rule signed).Gives (Plan.unordered ((HeightRange.heights ⟨1, 1⟩).map fun height =>
      (Node.Request.block height).fetch (indexer 1 1).fetchRetry)) w [(.ok bare : Except Node.Error Block)] w := rfl
  exact fetched.bind (.pure _ _)

theorem gives_fetchTransactions : (rule signed).Gives ((indexer 1 1).fetchTransactions [bare]) w [] w := by
  have batches : (rule signed).Gives ((indexer 1 1).fetchBatches (pieces 1 [])) w [] w := by
    rw [pieces_nil]
    exact .pure _ _
  exact batches.bind (.pure _ _)

/-- The site after the first phase. -/
def numbered (signed : Bool) : Site := ((rule signed).playEach ((indexer 1 1).firstOperations [bare] []) 0 .empty).2

theorem gives_firstPhase :
    (rule signed).Gives ((indexer 1 1).firstPhase [bare] []) .empty (.ok ()) (numbered signed) := by
  have joined : (rule signed).Gives (Plan.joined ((indexer 1 1).firstOperations [bare] [])) .empty
      [.ok (), .ok (), .ok ()] (numbered signed) := .joined (by cases signed <;> decide +kernel)
  exact joined.bind (.pure _ _)

/-- The site after the second phase. -/
def indexed (signed : Bool) : Site :=
  ((rule signed).playEach [(indexer 1 1).processor.blocks [bare], (indexer 1 1).processor.signings [bare]] 0
    (numbered signed)).2

theorem gives_secondPhase : (rule signed).Gives ((indexer 1 1).secondPhase [bare]) (numbered signed)
    (if signed then .ok () else .error (.persistence failure)) (indexed signed) := by
  have joined : (rule signed).Gives
      (Plan.joined [(indexer 1 1).processor.blocks [bare], (indexer 1 1).processor.signings [bare]]) (numbered signed)
      [.ok 1, if signed then .ok 1 else .error (.persistence failure)] (indexed signed) :=
    .joined (by cases signed <;> decide +kernel)
  cases signed <;> exact joined.bind (.pure _ _)

theorem gives_chunk : (rule signed).Gives ((indexer 1 1).chunk ⟨1, 1⟩) .empty
    (if signed then .ok ⟨⟨1, 1⟩, 1, 0, .processed⟩ else .error (.persistence failure)) (indexed signed) := by
  refine gives_fetchBlocks.bind (gives_fetchTransactions.bind (gives_firstPhase.bind (gives_secondPhase.bind ?_)))
  cases signed <;> exact .pure _ _

/-- The block row is stored whether signings are refused or not. -/
theorem keys_indexed (signed : Bool) : (indexed signed).rows.map Row.key =
    .block 1 "c" ⟨0, 0⟩ :: if signed then [.signing 1 "c" ⟨0, 0⟩] else [] := by
  cases signed <;> decide +kernel

theorem lastHeight_indexed (signed : Bool) : (indexed signed).lastHeight "c" = some 1 := by
  cases signed <;> decide +kernel

/-- The site after the chunk failed and the books were refreshed. -/
def refreshed : Site :=
  ((rule false).playEach [(indexer 1 1).processor.accounts.refresh, (indexer 1 1).processor.validators.refresh] 0
    (indexed false)).2

theorem rows_refreshed : refreshed.rows = (indexed false).rows := rfl

theorem gives_advance_signed : (rule true).Gives ((indexer 1 1).advance 1 1) .empty (.ok 2) (indexed true) :=
  gives_chunk.bind (.pure _ _)

theorem gives_advance_unsigned : (rule false).Gives ((indexer 1 1).advance 1 1) .empty (.ok 1) refreshed := by
  have refresh : (rule false).Gives (indexer 1 1).refreshBooks (indexed false) () refreshed :=
    (Rule.Gives.joined rfl).bind (.pure _ _)
  have rested : (rule false).Gives (indexer 1 1).rest refreshed () refreshed := rfl
  exact gives_chunk.bind (refresh.bind (rested.bind (.pure _ _)))

theorem gives_startingHeight {height : Option UInt64} (told : w.lastHeight "c" = height) :
    (rule signed).Gives (.alone ((indexer 1 1).startingHeight false)) w ((height.map heightAfter).getD (.ok 1)) w := by
  have reply : rule signed w (.call (.lastHeight "c")) = ((.ok height : Except Storage.Error (Option UInt64)), w) :=
    told ▸ rfl
  exact .call reply (by cases height <;> rfl)

theorem gives_live {first next : UInt64}
    (began : (rule signed).Gives (.alone ((indexer 1 1).startingHeight false)) w (.ok first) w)
    (made : (rule signed).Gives ((indexer 1 1).round first) w (.ok (some next)) w') :
    (rule signed).Gives ((indexer 1 1).live 1 false) w (.ok (some next)) w' := by
  have rounds : (rule signed).Gives ((indexer 1 1).roundsFrom 1 first) w (.ok (some next)) w' := made.bind (.pure _ _)
  exact began.bind rounds

theorem gives_going : (rule signed).Gives (.alone Strand.stopped) w false w := rfl

theorem gives_head : (rule signed).Gives (.alone (fetchLatest (indexer 1 1).fetchRetry)) w (.ok 1) w := rfl

/-- A round that begins with nothing stored indexes the block. -/
theorem gives_round_empty {next : UInt64}
    (advanced : (rule signed).Gives ((indexer 1 1).advance 1 1) .empty (.ok next) w) :
    (rule signed).Gives ((indexer 1 1).round 1) .empty (.ok (some next)) w := by
  have ready : (rule signed).Gives (if (1 : UInt64) < 1 then (do (indexer 1 1).rest; pure (.ok (some 1)))
      else (do let after ← (indexer 1 1).advance 1 1; pure (after.map some))) .empty (.ok (some next)) w :=
    advanced.bind (.pure _ _)
  exact gives_going.bind (gives_head.bind ready)

theorem gives_live_empty {next : UInt64}
    (advanced : (rule signed).Gives ((indexer 1 1).advance 1 1) .empty (.ok next) w) :
    (rule signed).Gives ((indexer 1 1).live 1 false) .empty (.ok (some next)) w :=
  gives_live (gives_startingHeight rfl) (gives_round_empty advanced)

/-- A run that finds the block row stored has nothing to do. -/
theorem gives_live_stored (stored : w.lastHeight "c" = some 1) :
    (rule signed).Gives ((indexer 1 1).live 1 false) w (.ok (some 2)) w := by
  have rested : (rule signed).Gives (indexer 1 1).rest w () w := rfl
  have ahead : (rule signed).Gives (if (1 : UInt64) < 2 then (do (indexer 1 1).rest; pure (.ok (some 2)))
      else (do let after ← (indexer 1 1).advance 2 1; pure (after.map some))) w (.ok (some 2)) w :=
    rested.bind (.pure _ _)
  exact gives_live (gives_startingHeight stored) (gives_going.bind (gives_head.bind ahead))

theorem lastHeight_refreshed : refreshed.reopened.lastHeight (indexer 1 1).processor.chain = some 1 :=
  lastHeight_indexed false

theorem signing_not_mem_refreshed (r : SigningRow) : .signing r ∉ refreshed.rows := by
  intro member
  have key : (Row.signing r).key ∈ (indexed false).rows.map Row.key := List.mem_map_of_mem (rows_refreshed ▸ member)
  rw [keys_indexed] at key
  cases List.mem_singleton.1 key

/-- A run that processes the block. -/
theorem exists_signed : ∃ es,
    Completes honestSite ((indexer 1 1).live 1 false) .empty es (indexed true) (.ok (some 2)) :=
  (gives_live_empty gives_advance_signed).exists_completes (rule_follows true)

/-- A run that stores the block, while signings are refused. -/
theorem exists_unsigned : ∃ es, Completes honestSite ((indexer 1 1).live 1 false) .empty es refreshed (.ok (some 1)) :=
  (gives_live_empty gives_advance_unsigned).exists_completes (rule_follows false)

/-- A run after that one. -/
theorem exists_stored : ∃ es,
    Completes honestSite ((indexer 1 1).live 1 false) refreshed.reopened es refreshed.reopened (.ok (some 2)) :=
  (gives_live_stored lastHeight_refreshed).exists_completes (rule_follows false)

end OneBlock

namespace Running

/-! ## The walk -/

/-- **The walk.** In every run that follows the head, once it knows where to begin, the ranges that are handed to
chunks follow one another without gap and overlap from there up to the cursor. -/
theorem live_gapless {σ : Type} {E : Environment σ} {ix : Indexer} {w w' : σ} {es : List Event} {rounds : Nat}
    {skipStorage : Bool} {c : Stage (Except Halt (Option UInt64))}
    (run : Steps E w (start (ix.live rounds skipStorage)) es w' c) :
    Lull E w es w' ∧ (∀ {n}, c ≠ .done (.ok n)) ∨
      ∃ first es₁ es₂ w₁ ts cursor, es = es₁ ++ es₂ ∧
        Completes E (.alone (ix.startingHeight skipStorage)) w es₁ w₁ (.ok first) ∧
        Rounds ix E first w₁ ts es₂ cursor w' ∧ (∀ {n}, c = .done (.ok (some n)) → n = cursor) ∧
        (HeadsBelow ts → Gapless ix.blockChunk first ts cursor) := by
  rcases run.live with ⟨lull, never, -⟩ | ⟨first, es₁, es₂, w₁, ts, cursor, rfl, began, rounds, ends, -⟩
  · exact .inl ⟨lull, never⟩
  · exact .inr ⟨first, es₁, es₂, w₁, ts, cursor, rfl, began, rounds, ends, rounds.walk.gapless⟩

/-- The block is indexed, and the walk has come behind it. -/
theorem gapless_of_signed : ∃ es w es₂ w₁ ts,
    Completes honestSite ((OneBlock.indexer 1 1).live 1 false) .empty es w (.ok (some 2)) ∧
    Rounds (OneBlock.indexer 1 1) honestSite 1 w₁ ts es₂ 2 w ∧ HeadsBelow ts ∧ Gapless 1 1 ts 2 := by
  obtain ⟨es, run⟩ := OneBlock.exists_signed
  rcases live_gapless run with ⟨-, never⟩ | ⟨first, es₁, es₂, w₁, ts, cursor, rfl, began, rounds, ends, gapless⟩
  · exact absurd rfl never
  · obtain rfl := ends rfl
    obtain ⟨rfl, -⟩ := began.startingHeight
    have below := rounds.headsBelow honestSite_headsBelow
    exact ⟨_, _, es₂, w₁, ts, run, rounds, below, gapless below⟩

/-! ## Beginning again -/

/-- **Beginning again.** After a run that began with nothing stored and was left at whatever point, a later run
begins at the cursor of the first or below, unless a chunk of the first had come to its second phase and was not
processed. From there on it leaves out no height. -/
theorem live_resumes {ix : Indexer} {w : Site} {es : List Event} {rounds : Nat}
    {c : Stage (Except Halt (Option UInt64))}
    (first : Steps honestSite .empty (start (ix.live rounds false)) es w c) :
    ∃ es₁ es₂ w₁ ts last, es = es₁ ++ es₂ ∧ Lull honestSite .empty es₁ w₁ ∧ Rounds ix honestSite 1 w₁ ts es₂ last w ∧
      (∀ {n}, c = .done (.ok (some n)) → n = last) ∧
      ∀ {ix' : Indexer} {rounds' es' w' c'}, Steps honestSite w.reopened (start (ix'.live rounds' false)) es' w' c' →
        Lull honestSite w.reopened es' w' ∧ (∀ {n}, c' ≠ .done (.ok n)) ∨
          ∃ again es₃ es₄ w₂ ts' cursor, es' = es₃ ++ es₄ ∧
            Completes honestSite (.alone (ix'.startingHeight false)) w.reopened es₃ w₂ (.ok again) ∧
            Rounds ix' honestSite again w₂ ts' es₄ cursor w' ∧
            (again ≤ last ∨ ∃ height, again = height + 1 ∧ TornAt ix ts es₂ height) ∧
            ∀ height, again ≤ height → height < cursor →
              ∃ t ∈ ts', t.isProcessed ∧ ∃ r, t.range? = some r ∧ height ∈ r.heights := by
  obtain ⟨es₁, es₂, w₁, ts, last, rfl, lull, rounds, ends, stored⟩ := first.live_stored
  refine ⟨es₁, es₂, w₁, ts, last, rfl, lull, rounds, ends, fun {ix' rounds' es' w' c'} second => ?_⟩
  rcases second.live with ⟨lull', never, -⟩ | ⟨again, es₃, es₄, w₂, ts', cursor, rfl, began, later, -⟩
  · exact .inl ⟨lull', never⟩
  refine .inr ⟨again, es₃, es₄, w₂, ts', cursor, rfl, began, later, ?_, fun height from_ passed => ?_⟩
  · have begins := began.startingHeight.1
    cases found : w.reopened.lastHeight ix'.processor.chain with
    | none =>
      rw [found] at begins
      exact .inl (begins ▸ rounds.walk.forward)
    | some height =>
      rw [found] at begins
      obtain ⟨r, member, rfl⟩ := Site.exists_of_lastHeight found
      rcases stored r member with passed | torn
      · have next := toNat_add_one passed
        rw [UInt64.lt_iff_toNat_lt] at passed
        refine .inl (begins ▸ ?_)
        change r.at + 1 ≤ last
        rw [UInt64.le_iff_toNat_le]
        omega
      · exact .inr ⟨r.at, begins, torn⟩
  · exact exists_processed (later.walk.gapless (later.headsBelow honestSite_headsBelow)) from_ passed

/-- After signings were refused, the block row makes a later run begin behind the block. -/
theorem torn_of_unsigned : ∃ es w es₂ ts,
    Completes honestSite ((OneBlock.indexer 1 1).live 1 false) .empty es w (.ok (some 1)) ∧
    TornAt (OneBlock.indexer 1 1) ts es₂ 1 := by
  obtain ⟨es, run⟩ := OneBlock.exists_unsigned
  obtain ⟨es₁, es₂, w₁, ts, last, rfl, -, -, ends, resumes⟩ := live_resumes run
  obtain rfl := ends rfl
  obtain ⟨es', second⟩ := OneBlock.exists_stored
  rcases resumes second with ⟨-, never⟩ | ⟨again, es₃, es₄, w₂, ts', cursor, rfl, began, -, begins, -⟩
  · exact absurd rfl never
  obtain rfl : again = 2 := began.startingHeight.1.trans (by rw [OneBlock.lastHeight_refreshed]; rfl)
  rcases begins with low | ⟨height, same, torn⟩
  · exact absurd low (by decide)
  · obtain rfl : height = 1 := by rw [← UInt64.add_sub_cancel height 1, ← same]; rfl
    exact ⟨_, _, es₂, ts, run, torn⟩

/-- **Signings can be lost.** A run that begins with nothing stored ends with the first height still to do, since
its signings were refused. A later run begins at the second height, and the signings are not stored then either. -/
theorem signings_lost : ∃ es w es₀ w₀ es' w',
    Completes honestSite ((OneBlock.indexer 1 1).live 1 false) .empty es w (.ok (some 1)) ∧
    Completes honestSite (.alone ((OneBlock.indexer 1 1).startingHeight false)) w.reopened es₀ w₀ (.ok 2) ∧
    Completes honestSite ((OneBlock.indexer 1 1).live 1 false) w.reopened es' w' (.ok (some 2)) ∧
    (∃ r, .block r ∈ w.rows ∧ r.at = 1) ∧ ∀ r, .signing r ∉ w.rows ∧ .signing r ∉ w'.rows := by
  obtain ⟨es, run⟩ := OneBlock.exists_unsigned
  obtain ⟨es', second⟩ := OneBlock.exists_stored
  obtain ⟨es₀, began⟩ := (OneBlock.gives_startingHeight OneBlock.lastHeight_refreshed).exists_completes
    (OneBlock.rule_follows false)
  refine ⟨es, _, es₀, _, es', _, run, began, second, Site.exists_of_lastHeight OneBlock.lastHeight_refreshed, ?_⟩
  exact fun r => ⟨OneBlock.signing_not_mem_refreshed r, OneBlock.signing_not_mem_refreshed r⟩

end Running

end ChainIndex
