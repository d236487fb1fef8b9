import ChainIndex.Indexing.Historic
import ChainIndex.Proofs.Indexing.Barrier
import ChainIndex.Proofs.Indexing.Fetching
import ChainIndex.Proofs.Storage.Invariant

/-!
# What a run without failures leaves

A site is `Complete` for heights if every address that their blocks name has an id and every row that
the node defines for them is stored. A chunk that runs without failures of storage makes the site
complete for its heights, whatever was there before and whatever tasks do in what order
(`ensures_chunk`), and a run over a range makes it complete for the range (`ensures_historic`).

Without that assumption the same rules say that whatever is put to storage may be put to it, so that
the site stays sound.
-/

namespace ChainIndex

open Storage Running

/-- Everything that there is to store for these heights is stored. -/
structure Site.Complete (node : FixedNode) (chain : String) (heights : List UInt64) (w : Site) : Prop where
  named : ∀ {role a}, node.Names heights role a → a ∈ w.idsOf chain role
  rows : ∀ {row}, node.Defines chain heights (w.idsOf chain) row → row ∈ w.rows

section

variable {node : FixedNode} {all heights : List UInt64} {faulty : Prop} {ix : Indexer} {w : Site}

/-- An operation is done at a site. -/
abbrev Operation.DoneAt (p : Processor) (op : Operation) (w : Site) : Prop :=
  op.Done p.chain (fun w role a id => (w.idsOf p.chain role)[a]? = some id)
    (fun w role a => a ∈ (w.books (p.bookOf role)).ids) (fun w row => row ∈ w.rows) w

theorem site_asks (node : FixedNode) (chain : String) (heights : List UInt64) (faulty : Prop) :
    (siteContract node chain heights faulty).Asks node where
  may_sleep _ _ := trivial
  may_token _ := trivial
  may_request _ _ := trivial
  block told := told
  execution told := told

namespace Operation.Fetched

variable {p : Processor} {bs : List Block} {ds : List DecodedExecution} (fetched : Fetched node heights bs ds)

include fetched

theorem fits (subset : ∀ height ∈ heights, height ∈ all) {op : Operation} (member : op ∈ ofChunk bs ds) :
    op.Fits (siteGrowth node p.chain all) p.chain (fun w role a id => (w.idsOf p.chain role)[a]? = some id)
      (fun w row => node.Defines p.chain all (w.idsOf p.chain) row) := by
  intro w ids _ holds row present
  let known : AddressRole → AddressIds := Function.update (w.idsOf p.chain) op.role ids
  have here : known op.role = ids := Function.update_self ..
  have defined : node.Defines p.chain heights known row := fetched.defines member (here ▸ present)
  refine (defined.mono subset).more ?_
  intro role a id found
  by_cases same : role = op.role
  · subst same
    exact holds a id (here ▸ found)
  · rwa [show known role = w.idsOf p.chain role from Function.update_of_ne same ..] at found

/-- When the operations on what was fetched are done, everything is stored. -/
theorem complete (wired : p.Wired) (sound : w.Sound node p.chain all) (done : ∀ op ∈ ofChunk bs ds, op.DoneAt p w) :
    w.Complete node p.chain heights where
  named {role a} names := by
    have inBook : ∀ op ∈ ofChunk bs ds, a ∈ op.names → a ∈ w.idsOf p.chain op.role := fun op member named => by
      obtain ⟨id, found⟩ := exists_of_mem ((done op member).known a named names.1)
      exact mem_of_some (ids_space wired w op.role ▸ sound.books found)
    obtain ⟨-, height, member, b, known, naming⟩ := names
    have present := (fetched.blocks b).2 ⟨height, member, known⟩
    cases role with
    | validator => exact inBook (.blocks bs) (by simp [ofChunk]) (List.mem_flatMap.2 ⟨b, present, naming⟩)
    | account =>
      obtain ⟨d, lists, naming⟩ := naming
      have listed := (fetched.decoded d).2 ⟨b, present, lists⟩
      exact inBook (.messages ds) (by simp [ofChunk]) (List.mem_flatMap.2 ⟨d, listed, naming⟩)
  rows {row} defined := by
    obtain ⟨op, member, present⟩ := fetched.exists_mem_rows defined
    obtain ⟨ids, holds, named, stored⟩ := (done op member).stored
    have decoded : ∀ ds', op = .messages ds' → ∀ d ∈ ds', d.envelope.Decoded := by
      rintro ds' rfl d listed
      obtain rfl : ds' = ds := by simpa [ofChunk] using member
      obtain ⟨b, -, lists⟩ := (fetched.decoded d).1 listed
      exact lists.listed.decoded
    have same : ∀ a ∈ op.names, (w.idsOf p.chain op.role)[a]? = ids[a]? := by
      intro a names
      by_cases filled : a = ""
      · subst filled
        rw [show (w.idsOf p.chain op.role)[""]? = none from sound.blank _]
        cases found : ids[""]? with
        | none => rfl
        | some id => exact absurd ((holds _ _ found).symm.trans (sound.blank _)) (by simp)
      · obtain ⟨id, found⟩ := exists_of_mem (named a names filled)
        rw [found]
        exact holds a id found
    rw [Operation.rows_congr decoded same] at present
    exact stored row present

end Operation.Fetched

/-! ## One chunk -/

/-- The validators that a list of blocks names are known. -/
def Site.KnowsValidators (w : Site) (p : Processor) (bs : List Block) : Prop :=
  ∀ a ∈ bs.flatMap Block.validators, a ≠ "" → a ∈ (w.books (p.bookOf .validator)).ids

/-- Without what it counts, an operation ends as well. -/
theorem Strand.Ensures.uncounted {σ α : Type} {G : Growth σ} {C : Contract G} {w : σ} {P : σ → Prop}
    {s : Strand (Except IndexError α)} (h : s.Ensures C (fun w₁ r => ¬faulty → (∃ n, r = .ok n) ∧ P w₁) w) :
    (Except.map (fun _ => ()) <$> s).Ensures C (fun w₁ r => ¬faulty → r = .ok () ∧ P w₁) w := by
  refine h.map ?_
  intro r w₁ _ _ ends sane
  obtain ⟨⟨n, rfl⟩, holds⟩ := ends sane
  exact ⟨rfl, holds⟩

section Phases

variable {bs : List Block} {ds : List DecodedExecution} (wired : ix.processor.Wired)
  (fetched : Operation.Fetched node heights bs ds) (subset : ∀ height ∈ heights, height ∈ all)

include wired fetched subset

theorem ensures_firstPhase :
    (ix.firstPhase bs ds).Ensures (siteContract node ix.processor.chain all faulty) (fun w₁ r => ¬faulty →
      r = .ok () ∧ w₁.KnowsValidators ix.processor bs ∧ Operation.DoneAt ix.processor (.transactions ds) w₁ ∧
        Operation.DoneAt ix.processor (.messages ds) w₁) w := by
  let p := ix.processor
  have serves := site_serves node all faulty wired
  have names : ∀ op ∈ Operation.validatorAddresses bs :: Operation.ofChunk bs ds, ∀ a ∈ op.names, a ≠ "" →
      node.Names all op.role a :=
    fun op member a named filled => (fetched.names member named filled).mono subset
  have fits {op : Operation} (member : op ∈ Operation.ofChunk bs ds) := fetched.fits (p := p) subset member
  let mid (i : Nat) (w₁ : Site) (r : Except IndexError Unit) : Prop := ¬faulty → r = .ok () ∧
    match i with
    | 0 => w₁.KnowsValidators p bs
    | 1 => Operation.DoneAt p (.transactions ds) w₁
    | _ => Operation.DoneAt p (.messages ds) w₁
  have strands : ∀ (i : Nat) (s : Strand (Except IndexError Unit)),
      [Except.map (fun _ => ()) <$> p.validatorAddresses bs, Except.map (fun _ => ()) <$> p.transactions ds,
        Except.map (fun _ => ()) <$> p.messages ds][i]? = some s →
      s.Ensures (siteContract node p.chain all faulty) (mid i) w := by
    intro i s at_
    match i with
    | 0 =>
      obtain rfl := Option.some.inj at_
      exact (serves.ensures_validatorAddresses (names (.validatorAddresses bs) (by simp))).uncounted
    | 1 =>
      obtain rfl := Option.some.inj at_
      have member : Operation.transactions ds ∈ Operation.ofChunk bs ds := by simp [Operation.ofChunk]
      exact (serves.ensures_transactions (names _ (List.mem_cons_of_mem _ member)) (fits member)).uncounted
    | 2 =>
      obtain rfl := Option.some.inj at_
      have member : Operation.messages ds ∈ Operation.ofChunk bs ds := by simp [Operation.ofChunk]
      exact (serves.ensures_messages (names _ (List.mem_cons_of_mem _ member)) (fits member)).uncounted
    | i + 3 => simp at at_
  refine (Plan.ensures_joined mid strands).bind ?_
  intro results w₁ _ _ holds
  refine Plan.ensures_pure ?_
  intro w₂ later sound sane
  obtain ⟨length, each⟩ := holds w₂ later sound
  obtain ⟨r₀, r₁, r₂, rfl⟩ := List.length_eq_three.1 length
  obtain ⟨rfl, known⟩ := each 0 r₀ rfl sane
  obtain ⟨rfl, transactions⟩ := each 1 r₁ rfl sane
  obtain ⟨rfl, messages⟩ := each 2 r₂ rfl sane
  exact ⟨rfl, known, transactions, messages⟩

theorem ensures_secondPhase (known : ¬faulty → w.KnowsValidators ix.processor bs) :
    (ix.secondPhase bs).Ensures (siteContract node ix.processor.chain all faulty) (fun w₁ r => ¬faulty →
      r = .ok () ∧ Operation.DoneAt ix.processor (.blocks bs) w₁ ∧
        Operation.DoneAt ix.processor (.signings bs) w₁) w := by
  let p := ix.processor
  have serves := site_serves node all faulty wired
  have fits {op : Operation} (member : op ∈ Operation.ofChunk bs ds) := fetched.fits (p := p) subset member
  let mid (i : Nat) (w₁ : Site) (r : Except IndexError UInt64) : Prop := ¬faulty → (∃ n, r = .ok n) ∧
    match i with
    | 0 => Operation.DoneAt p (.blocks bs) w₁
    | _ => Operation.DoneAt p (.signings bs) w₁
  have strands : ∀ (i : Nat) (s : Strand (Except IndexError UInt64)), [p.blocks bs, p.signings bs][i]? = some s →
      s.Ensures (siteContract node p.chain all faulty) (mid i) w := by
    intro i s at_
    match i with
    | 0 =>
      obtain rfl := Option.some.inj at_
      exact serves.ensures_blocks (fits (by simp [Operation.ofChunk])) known
    | 1 =>
      obtain rfl := Option.some.inj at_
      exact serves.ensures_signings (fits (by simp [Operation.ofChunk])) known
    | i + 2 => simp at at_
  refine (Plan.ensures_joined mid strands).bind ?_
  intro results w₁ _ _ holds
  refine Plan.ensures_pure ?_
  intro w₂ later sound sane
  obtain ⟨length, each⟩ := holds w₂ later sound
  obtain ⟨r₀, r₁, rfl⟩ := List.length_eq_two.1 length
  obtain ⟨⟨n, rfl⟩, blocks⟩ := each 0 r₀ rfl sane
  obtain ⟨⟨m, rfl⟩, signings⟩ := each 1 r₁ rfl sane
  exact ⟨rfl, blocks, signings⟩

end Phases

/-- A chunk is stored: it is reported as such, or as empty, and nothing of it is missing. -/
def Stores (node : FixedNode) (chain : String) (heights : List UInt64) (faulty : Prop) (w : Site)
    (r : Except IndexError ChunkReport) : Prop :=
  ¬faulty → (∃ report, r = .ok report ∧ ∀ text, report.outcome ≠ .failed text) ∧ w.Complete node chain heights

theorem ensures_storeChunk (wired : ix.processor.Wired) {range : HeightRange} {bs : List Block}
    (fetched : ∀ b, b ∈ bs ↔ ∃ height ∈ range.heights, node.block height = some b)
    (subset : ∀ height ∈ range.heights, height ∈ all) :
    (ix.storeChunk range bs).Ensures (siteContract node ix.processor.chain all faulty)
      (Stores node ix.processor.chain range.heights faulty) w := by
  have known : ∀ b ∈ bs, ∃ height, node.block height = some b := fun b member =>
    have ⟨height, _, known⟩ := (fetched b).1 member
    ⟨height, known⟩
  refine ((site_asks ..).ensures_fetchTransactions known).bind ?_
  intro executions w₁ _ sound₁ listed
  have fetched : Operation.Fetched node range.heights bs (decodeAll executions) :=
    ⟨fetched, listed w₁ (Site.Later.refl w₁) sound₁⟩
  refine (ensures_firstPhase wired fetched subset).bind ?_
  intro r w₂ _ sound₂ first
  cases r with
  | error e =>
    refine Plan.ensures_pure ?_
    intro w₃ later₃ sound₃ sane
    exact nomatch (first w₃ later₃ sound₃ sane).1
  | ok _ =>
    have validators : ¬faulty → w₂.KnowsValidators ix.processor bs := fun sane =>
      (first w₂ (Site.Later.refl w₂) sound₂ sane).2.1
    refine (ensures_secondPhase wired fetched subset validators).bind ?_
    intro r w₃ later₃ _ second
    cases r with
    | error e =>
      refine Plan.ensures_pure ?_
      intro w₄ later₄ sound₄ sane
      exact nomatch (second w₄ later₄ sound₄ sane).1
    | ok _ =>
      refine Plan.ensures_pure fun w₄ later₄ sound₄ sane => ⟨⟨_, rfl, fun text => nofun⟩, ?_⟩
      obtain ⟨-, -, transactions, messages⟩ := first w₄ (later₃.trans later₄) sound₄ sane
      obtain ⟨-, blocks, signings⟩ := second w₄ later₄ sound₄ sane
      refine fetched.complete wired sound₄ fun op member => ?_
      simp only [Operation.ofChunk, List.mem_cons, List.not_mem_nil, or_false] at member
      rcases member with rfl | rfl | rfl | rfl
      · exact blocks
      · exact signings
      · exact transactions
      · exact messages

/-- Where the node has no block there is nothing to store. -/
theorem Site.complete_of_none {chain : String} (none_ : ∀ height ∈ heights, node.block height = none) :
    w.Complete node chain heights where
  named names := by
    obtain ⟨-, height, member, b, known, -⟩ := names
    exact nomatch (none_ height member).symm.trans known
  rows defined := by
    have nothing : ∀ {height b}, height ∈ heights → node.block height = some b → False := fun member known =>
      nomatch (none_ _ member).symm.trans known
    cases defined with
    | block member known _ => exact (nothing member known).elim
    | signing member known _ => exact (nothing member known).elim
    | transaction member known _ _ => exact (nothing member known).elim
    | message member known _ _ _ => exact (nothing member known).elim

/-- **A chunk is stored as a whole**, unless storage fails. -/
theorem ensures_chunk (wired : ix.processor.Wired) {range : HeightRange} (valid : range.first ≤ range.last)
    (subset : ∀ height ∈ range.heights, height ∈ all) :
    (ix.chunk range).Ensures (siteContract node ix.processor.chain all faulty)
      (Stores node ix.processor.chain range.heights faulty) w := by
  refine ((site_asks ..).ensures_fetchBlocks valid).bind ?_
  intro out w₁ _ sound₁ holds
  obtain ⟨results, rfl, fetched⟩ := holds w₁ (Site.Later.refl w₁) sound₁
  change Plan.Ensures _ _ (if (successes results).isEmpty then _ else _) w₁
  by_cases nothing : (successes results).isEmpty
  · rw [if_pos nothing]
    have none_ : ∀ height ∈ range.heights, node.block height = none := by
      intro height member
      cases known : node.block height with
      | none => rfl
      | some b =>
        have present := (fetched b).2 ⟨height, member, known⟩
        rw [List.isEmpty_iff.1 nothing] at present
        cases present
    exact Plan.ensures_pure fun w₂ _ _ _ => ⟨⟨_, rfl, fun text => nofun⟩, Site.complete_of_none none_⟩
  · rw [if_neg nothing]
    exact ensures_storeChunk wired fetched subset

/-! ## A range -/

theorem failedOf_cons {report : ChunkReport} {reports : List ChunkReport}
    (good : ∀ text, report.outcome ≠ .failed text) : failedOf (report :: reports) = failedOf reports := by
  rw [failedOf, List.filter_cons_of_neg]
  · rfl
  · cases same : report.outcome with
    | failed text => exact absurd same (good text)
    | _ => simp

theorem ensures_chunksInTurn (wired : ix.processor.Wired) {ranges : List HeightRange}
    (valid : ∀ r ∈ ranges, r.first ≤ r.last) (subset : ∀ r ∈ ranges, ∀ height ∈ r.heights, height ∈ all) :
    (ix.chunksInTurn ranges).Ensures (siteContract node ix.processor.chain all faulty) (fun w₁ reports => ¬faulty →
      failedOf reports = [] ∧ ∀ r ∈ ranges, w₁.Complete node ix.processor.chain r.heights) w := by
  induction ranges generalizing w with
  | nil => exact Plan.ensures_pure fun _ _ _ _ => ⟨rfl, by simp⟩
  | cons range ranges ih =>
    have here : (ix.chunk range).Ensures (siteContract node ix.processor.chain all faulty)
        (Stores node ix.processor.chain range.heights faulty) w :=
      ensures_chunk wired (valid range (by simp)) (subset range (by simp))
    refine here.bind ?_
    intro r w₁ _ _ stores
    have rest := ih (w := w₁) (fun r member => valid r (by simp [member])) fun r member => subset r (by simp [member])
    refine rest.bind fun reports w₂ later₂ _ holds => Plan.ensures_pure fun w₃ later₃ sound₃ sane => ?_
    obtain ⟨⟨report, rfl, good⟩, complete⟩ := stores w₃ (later₂.trans later₃) sound₃ sane
    obtain ⟨fine, completes⟩ := holds w₃ later₃ sound₃ sane
    refine ⟨(failedOf_cons good).trans fine, fun r member => ?_⟩
    rcases List.mem_cons.1 member with rfl | member
    · exact complete
    · exact completes r member

/-- What is complete for each height is complete. -/
theorem Site.complete_of_each {chain : String}
    (each : ∀ height ∈ heights, ∃ part, height ∈ part ∧ w.Complete node chain part) :
    w.Complete node chain heights where
  named names := by
    obtain ⟨filled, height, member, rest⟩ := names
    obtain ⟨part, present, complete⟩ := each height member
    exact complete.named ⟨filled, height, present, rest⟩
  rows defined := by
    cases defined with
    | block member known built =>
      obtain ⟨part, present, complete⟩ := each _ member
      exact complete.rows (.block present known built)
    | signing member known built =>
      obtain ⟨part, present, complete⟩ := each _ member
      exact complete.rows (.signing present known built)
    | transaction member known lists built =>
      obtain ⟨part, present, complete⟩ := each _ member
      exact complete.rows (.transaction present known lists built)
    | message member known lists built of =>
      obtain ⟨part, present, complete⟩ := each _ member
      exact complete.rows (.message present known lists built of)

/-- **A range is stored as a whole**, in whatever chunks, unless storage fails. -/
theorem ensures_historic (wired : ix.processor.Wired) {range : HeightRange} (valid : range.first ≤ range.last) :
    (ix.historic range).Ensures (siteContract node ix.processor.chain range.heights faulty) (fun w₁ r => ∃ reports,
      r = .ok reports ∧
        (¬faulty → failedOf reports = [] ∧ w₁.Complete node ix.processor.chain range.heights)) w := by
  have cut := flatMap_heights_chunkRanges ix.blockChunk valid
  have subset : ∀ r ∈ chunkRanges range.first range.last ix.blockChunk, ∀ height ∈ r.heights, height ∈ range.heights :=
    fun r member height present => cut ▸ List.mem_flatMap.2 ⟨r, member, present⟩
  rw [Indexer.historic, if_neg (UInt64.not_lt.2 valid)]
  refine (ensures_chunksInTurn wired (fun r => first_le_last_of_mem_chunkRanges) subset).bind ?_
  intro reports w₁ _ _ holds
  refine Plan.ensures_pure fun w₂ later sound => ⟨reports, rfl, fun sane => ?_⟩
  obtain ⟨fine, completes⟩ := holds w₂ later sound sane
  refine ⟨fine, Site.complete_of_each fun height member => ?_⟩
  obtain ⟨r, present, at_⟩ := List.mem_flatMap.1 (cut.symm ▸ member)
  exact ⟨r.heights, at_, completes r present⟩

end

end ChainIndex
