import ChainIndex.Proofs.Indexing.Barrier
import ChainIndex.Proofs.Indexing.Fetching
import ChainIndex.Proofs.Rows.Records

/-!
# The heights of a chunk

A node that gives the block that it is asked for, and not another, is all that it takes: a chunk then stores
block rows at its own heights only. Blocks are asked for at these heights, and block rows are built from them.

Nothing else is known of the world here. Answers may change from one question to the next, come late or not
at all.
-/

namespace ChainIndex

open Storage

/-- The height of a block as it is told. -/
def Storage.BlockRow.at (r : BlockRow) : UInt64 := r.height.toInt.toNat.toUInt64

/-- If the question stores block rows, they are at these heights. -/
def Query.KeepsTo (heights : List UInt64) (q : Query) : Prop :=
  ∀ b, q = .call (.insert b) → ∀ r, .block r ∈ b.rows → r.at ∈ heights

/-- The node gives the block that it is asked for. -/
def Running.Environment.Obliges {σ : Type} (E : Running.Environment σ) : Prop :=
  ∀ {w height w'} {b : Block}, E.answers w (.request (.block height)) (.ok b) w' → b.height = height

/-- Block rows are stored at these heights only, and the node gives the blocks that it is asked for. -/
def heightsContract (σ : Type) (heights : List UInt64) : Contract (Growth.any σ) where
  May _ q := q.KeepsTo heights
  Told _ q r :=
    match q, r with
    | .request (.block height), .ok (b : Block) => b.height = height
    | _, _ => True
  may_later _ may := may
  stored_later _ _ := trivial

theorem Storage.BlockRow.Records.at_eq {means : String → AddressId → Prop} {chain : String} {b : Block} {r : BlockRow}
    (h : r.Records means chain b) : r.at = b.height := by
  rw [BlockRow.at, h.height, Int.toNat_natCast]
  exact UInt64.ofNat_toNat

theorem Query.keepsTo_of_isFetching {heights : List UInt64} {q : Query} (fetching : q.isFetching) :
    q.KeepsTo heights := by
  rintro b rfl
  cases fetching

theorem Query.keepsTo_of_not_isLateWrite {heights : List UInt64} {q : Query} (early : ¬q.isLateWrite) :
    q.KeepsTo heights := by
  rintro b rfl r member
  exact absurd (Batch.isLate_of_mem member).symm early

variable {σ : Type} {w : σ} {heights : List UInt64}

theorem honors_heights {E : Running.Environment σ} (obliges : E.Obliges) : E.Honors (heightsContract σ heights) where
  keeps _ _ _ _ := ⟨trivial, trivial⟩
  works _ _ _ := ⟨trivial, trivial⟩
  answers {w q r w'} _ _ answers := by
    refine ⟨trivial, trivial, ?_⟩
    match q, r, answers with
    | .request (.block height), .ok b, answers => exact obliges answers
    | .request (.block height), .error e, _ => exact trivial
    | .request (.execution _), _, _ | .request .latest, _, _ | .request .health, _, _ | .call _, _, _
    | .insertAll _, _, _ | .book _ _, _, _ | .token, _, _ | .tryToken, _, _ | .sleep _, _, _ | .pause _, _, _
    | .stopped, _, _ => exact trivial

/-- Where nothing is known of ids, rows that keep to the heights may be stored. -/
theorem serves_heights (p : Processor) :
    (heightsContract σ heights).Serves p (fun _ _ => True) (fun _ _ _ _ => True) (fun _ _ _ => True)
      (fun _ _ _ => True) (fun _ row => ∀ r, row = .block r → r.at ∈ heights) (fun _ _ => True) True := by
  refine Contract.serves_of_faulty (fun _ _ => trivial) ?_ ?_ (fun _ _ => trivial) (fun _ _ _ => trivial) ?_
  · rintro w q unstored - b rfl
    exact absurd rfl (unstored b)
  · exact fun _ => nofun
  · rintro w b - fit b' same r member
    cases same
    exact fit _ member r rfl

variable {ix : Indexer} {range : HeightRange} {bs : List Block}

theorem ensures_fetchBlocks_at {retry : Retry.Params} :
    (fetchBlocks retry range).Ensures (heightsContract σ range.heights)
      (fun _ out => ∀ results, out = .ok results → ∀ b ∈ successes results, b.height ∈ range.heights) w := by
  rw [fetchBlocks]
  by_cases empty : range.last < range.first
  · rw [if_pos empty]
    exact Plan.ensures_pure fun _ _ _ results same => by cases same
  · rw [if_neg empty]
    have fetch (height : UInt64) : ((Node.Request.block height).fetch retry).Ensures (heightsContract σ range.heights)
        (fun _ r => ∀ b, r = .ok b → b.height = height) w := by
      refine Node.Request.ensures_fetch (fun d _ _ _ => ?_) (fun _ _ _ => ?_) (fun _ _ _ => ?_) ?_
      · exact Query.keepsTo_of_isFetching rfl
      · exact Query.keepsTo_of_isFetching rfl
      · exact Query.keepsTo_of_isFetching rfl
      · rintro a w₁ - - told w₂ - - b rfl
        exact told
    refine (Plan.ensures_unordered _ fun height _ => fetch height).bind ?_
    intro results w₁ _ _ holds
    refine Plan.ensures_pure ?_
    rintro w₂ later sound _ ⟨⟩ b member
    obtain ⟨height, inside, at_⟩ := (holds w₂ later sound).1 _ (mem_successes.1 member)
    exact at_ b rfl ▸ inside

/-- Block rows are at the heights of the blocks that they are built from. -/
theorem fits_heights (inside : ∀ b ∈ bs, b.height ∈ heights) {op : Operation}
    (late : op = .blocks bs ∨ op = .signings bs) :
    op.Fits (Growth.any σ) ix.processor.chain (fun _ _ _ _ => True)
      fun _ row => ∀ r, row = .block r → r.at ∈ heights := by
  rintro w ids - - row member r rfl
  rcases late with rfl | rfl
  · obtain ⟨r', built, same⟩ := List.mem_map.1 member
    cases same
    obtain ⟨b, of, built⟩ := mem_keepGood.1 built
    rw [(blockRow_eq_ok.1 built).at_eq]
    exact inside b of
  · obtain ⟨r', -, same⟩ := List.mem_map.1 member
    cases same

theorem ensures_secondPhase_at (inside : ∀ b ∈ bs, b.height ∈ heights) :
    (ix.secondPhase bs).Ensures (heightsContract σ heights) (fun _ _ => True) w := by
  have serves : (heightsContract σ heights).Serves ix.processor _ _ _ _ _ _ _ := serves_heights ix.processor
  refine (Plan.ensures_joined (fun _ _ _ => True) fun i s at_ => ?_).bind fun _ _ _ _ _ =>
    Plan.ensures_pure fun _ _ _ => trivial
  have member := List.mem_of_getElem? at_
  simp only [List.mem_cons, List.not_mem_nil, or_false] at member
  rcases member with rfl | rfl
  · exact (serves.ensures_blocks (fits_heights inside (.inl rfl)) fun _ _ _ _ => trivial).mono
      fun _ _ _ _ _ => trivial
  · exact (serves.ensures_signings (fits_heights inside (.inr rfl)) fun _ _ _ _ => trivial).mono
      fun _ _ _ _ _ => trivial

/-- **A chunk keeps to its heights.** -/
theorem Indexer.ensures_chunk_at :
    (ix.chunk range).Ensures (heightsContract σ range.heights) (fun _ _ => True) w := by
  refine ensures_fetchBlocks_at.bind ?_
  intro out w₁ _ _ fetched
  cases out with
  | error e => exact Plan.ensures_pure fun _ _ _ => trivial
  | ok results =>
  have inside := fetched w₁ trivial trivial results rfl
  change Plan.Ensures _ _ (if (successes results).isEmpty then _ else _) w₁
  split
  · exact Plan.ensures_pure fun _ _ _ => trivial
  refine (asks_fetchTransactions.of_only fun _ _ => Query.keepsTo_of_isFetching).bind ?_
  intro executions w₂ _ _ _
  have firstPhase : (ix.firstPhase (successes results) (decodeAll executions)).Ensures
      (heightsContract σ range.heights) (fun _ _ => True) w₂ :=
    (asks_firstOperations.of_only fun _ _ => Query.keepsTo_of_not_isLateWrite).bind fun _ _ _ _ _ =>
      Plan.ensures_pure fun _ _ _ => trivial
  refine firstPhase.bind ?_
  intro first w₃ _ _ _
  cases first with
  | error e => exact Plan.ensures_pure fun _ _ _ => trivial
  | ok _ =>
  refine (ensures_secondPhase_at inside).bind ?_
  intro second _ _ _ _
  cases second <;> exact Plan.ensures_pure fun _ _ _ => trivial

/-- In every run of a chunk, whatever is put to storage keeps to its heights. -/
theorem Running.Steps.keepsTo {E : Environment σ} (obliges : E.Obliges) {w' : σ} {es : List Event}
    {s : Stage (Except IndexError ChunkReport)} (run : Steps E w (start (ix.chunk range)) es w' s) :
    Asked (·.KeepsTo range.heights) es := by
  obtain ⟨-, -, -, may⟩ := Steps.meets (honors_heights obliges) run trivial
    (start_meets trivial Indexer.ensures_chunk_at)
  intro who q member
  obtain ⟨_, -, -, -, keeps⟩ := may who q member
  exact keeps

end ChainIndex
