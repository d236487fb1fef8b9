import ChainIndex.Proofs.Indexing.Heights
import ChainIndex.Proofs.Indexing.Rounds
import ChainIndex.Proofs.Running.Kept
import ChainIndex.Proofs.Storage.Site

/-!
# A site that tells how far it is

A database that can be asked for its highest stored height and answers truthfully, and a node that gives the
blocks that it is asked for. What else the node tells is left open, and so is where the head is, as long as it
is not at the highest height there is. Every question may fail, and a call that is not answered yet may have done
a part of its work.

Rows come from batches that are put to storage and from nowhere else (`Steps.row_asked`). So nothing is stored
in a lull, and a chunk stores block rows at its own heights only, and only in its second phase
(`Steps.block_stored`).
-/

namespace ChainIndex

open Storage Running

/-- The highest height of a chain at which there is a block row. -/
def Site.lastHeight (w : Site) (chain : String) : Option UInt64 :=
  List.max? <| w.rows.filterMap fun
    | .block r => if r.chain = chain then some r.at else none
    | _ => none

/-- The same database, while the address books are new. -/
def Site.reopened (w : Site) : Site := { w with books := fun _ => .empty }

/-- A world that is told truthfully how far storage is, and that gives blocks to whoever asks for them. -/
def honestSite : Environment Site where
  answers w q r w' :=
    match q, r with
    | .request (.block height), .ok (b : Block) => b.height = height ∧ w' = w
    | .request .latest, .ok (head : UInt64) => head.toNat < UInt64.size - 1 ∧ w' = w
    | .call (.lastHeight chain), .ok (highest : Option UInt64) => highest = w.lastHeight chain ∧ w' = w
    | .call c, .ok a => w.Performs c a w'
    | .book ref step, r => r = ((w.books ref).step step).1 ∧ w' = { w with books := w.books.after (.book ref step) }
    | _, _ => w' = w
  works w q w' :=
    match q with
    | .call c => w.Begins c w'
    | _ => False
  others _ _ := False

instance maxEqOr_uint64 : Std.MaxEqOr UInt64 where
  max_eq_or a b := by
    change (if a ≤ b then b else a) = a ∨ (if a ≤ b then b else a) = b
    split
    · exact .inr rfl
    · exact .inl rfl

theorem Site.exists_of_lastHeight {w : Site} {chain : String} {height : UInt64} (h : w.lastHeight chain = some height) :
    ∃ r, .block r ∈ w.rows ∧ r.at = height := by
  obtain ⟨row, member, found⟩ := List.mem_filterMap.1 (List.max?_mem h)
  cases row with
  | block r =>
    by_cases same : r.chain = chain
    · exact ⟨r, member, by simpa [same] using found⟩
    · simp [same] at found
  | _ => simp at found

theorem honestSite_obliges : honestSite.Obliges := fun answers => answers.1

theorem honestSite_headsBelow : honestSite.HeadsBelow := fun answers => answers.1

variable {w w' : Site}

theorem Site.lastHeight_congr {chain : String} (same : w'.rows = w.rows) :
    w'.lastHeight chain = w.lastHeight chain := by
  rw [Site.lastHeight, same, Site.lastHeight]

/-! ## Rows come from batches -/

/-- A question leaves the rows alone, or stores some of the batch that it is about. -/
def Site.RowsBy (w : Site) (q : Query) (w' : Site) : Prop :=
  w'.rows = w.rows ∨ ∃ b part, q = .call (.insert b) ∧ part ⊆ b.rows ∧ w'.rows = insertRows w.rows part

theorem rowsBy_of_answers {q : Query} {r : q.Answer} (answers : honestSite.answers w q r w') : w.RowsBy q w' := by
  have idle : w' = w → w.RowsBy q w' := fun same => .inl (congrArg Site.rows same)
  cases q with
  | request question =>
    cases question with
    | block height =>
      cases r with
      | ok b => exact idle answers.2
      | error e => exact idle answers
    | latest =>
      cases r with
      | ok head => exact idle answers.2
      | error e => exact idle answers
    | _ => exact idle answers
  | call c =>
    cases r with
    | error e => cases c <;> exact idle answers
    | ok a =>
      cases c with
      | lastHeight chain => exact idle answers.2
      | find space asked => exact idle answers.1
      | newer space since => exact idle answers
      | insertAddresses space asked =>
        obtain ⟨ids, -, rfl⟩ := answers
        exact .inl rfl
      | insert b => exact .inr ⟨b, b.rows, rfl, List.Subset.refl _, congrArg Site.rows answers⟩
  | book ref step =>
    obtain ⟨-, rfl⟩ := answers
    exact .inl rfl
  | _ => exact idle answers

theorem rowsBy_of_works {q : Query} (works : honestSite.works w q w') : w.RowsBy q w' := by
  cases q with
  | call c =>
    cases c with
    | insertAddresses space asked =>
      obtain ⟨-, -, ids, -, rfl⟩ := works
      exact .inl rfl
    | insert b =>
      obtain ⟨part, subset, rfl⟩ := works
      exact .inr ⟨b, part, rfl, subset, rfl⟩
    | _ => exact works.elim
  | _ => exact works.elim

/-- No question between chunks stores a row. -/
theorem Site.RowsBy.still {q : Query} (by_ : w.RowsBy q w') (between : q.isBetween) : w'.rows = w.rows := by
  rcases by_ with same | ⟨b, part, rfl, -, -⟩
  · exact same
  · cases between

/-- The rows are those of an earlier state and of batches of the kind. -/
def RowsFrom (w₀ : Site) (P : Query → Prop) (w : Site) : Prop :=
  ∀ row ∈ w.rows, row ∈ w₀.rows ∨ ∃ b, P (.call (.insert b)) ∧ row ∈ b.rows

theorem RowsFrom.later {w₀ : Site} {P : Query → Prop} {q : Query} (from_ : RowsFrom w₀ P w) (asked : P q)
    (by_ : w.RowsBy q w') : RowsFrom w₀ P w' := by
  intro row member
  rcases by_ with same | ⟨b, part, rfl, subset, same⟩
  · exact from_ row (same ▸ member)
  · rcases mem_or_mem_of_insertRows (same ▸ member) with old | new
    · exact from_ row old
    · exact .inr ⟨b, asked, subset new⟩

theorem preserves_rowsFrom (w₀ : Site) (P : Query → Prop) : honestSite.Preserves P (RowsFrom w₀ P) where
  others _ others := others.elim
  answers from_ asked answers := from_.later asked (rowsBy_of_answers answers)
  works from_ asked works := from_.later asked (rowsBy_of_works works)

namespace Running

variable {α : Type} {es : List Event}

/-- **Rows come from batches.** A row that is there after a run was there before, or its batch was put to storage. -/
theorem Steps.row_asked {p : Plan α} {s : Stage α} (run : Steps honestSite w (start p) es w' s) {row : Row}
    (member : row ∈ w'.rows) : row ∈ w.rows ∨ ∃ who b, .asked who (.call (.insert b)) ∈ es ∧ row ∈ b.rows := by
  have from_ := run.preserves (preserves_rowsFrom w fun q => ∃ who, .asked who q ∈ es)
    (fun who q here => ⟨who, here⟩) fun row before => .inl before
  rcases from_ row member with before | ⟨b, ⟨who, here⟩, of⟩
  · exact .inl before
  · exact .inr ⟨who, b, here, of⟩

/-- Nothing is stored in a lull. -/
theorem Lull.rows_subset (lull : Lull honestSite w es w') : w'.rows ⊆ w.rows := by
  induction lull with
  | nothing => exact List.Subset.refl _
  | run asks run later ih =>
    intro row member
    rcases run.row_asked (ih member) with before | ⟨who, b, asked, -⟩
    · exact before
    · cases run.asks (asks _) who _ asked

variable {ix : Indexer} {range : HeightRange}

/-- **A chunk stores block rows at its heights only, and only in its second phase.** -/
theorem Steps.block_stored {s : Stage (Except IndexError ChunkReport)}
    (run : Steps honestSite w (start (ix.chunk range)) es w' s) {r : BlockRow} (member : .block r ∈ w'.rows) :
    .block r ∈ w.rows ∨ r.at ∈ range.heights ∧ ∀ i < 3, .ended i (.ok () : Except IndexError Unit) ∈ es := by
  rcases run.row_asked member with before | ⟨who, b, asked, of⟩
  · exact .inl before
  · have late : (Query.call (.insert b)).isLateWrite := (Batch.isLate_of_mem of).symm
    obtain ⟨pre, post, split⟩ := List.append_of_mem asked
    refine .inr ⟨run.keepsTo honestSite_obliges who _ asked b rfl r of, fun i bound => ?_⟩
    have first := run.chunkRun.barrier split late i bound
    exact split ▸ List.mem_append_left _ first

/-! ## Where a run begins -/

/-- Sites with the rows of another. -/
def sameRows (w₀ : Site) : Growth Site where
  Sound w := w.rows = w₀.rows
  Later _ _ := True
  refl _ := trivial
  trans _ _ := trivial

/-- Nothing is stored, and how far storage is, is told truthfully. -/
def heightContract (w₀ : Site) : Contract (sameRows w₀) where
  May _ q := q.isBetween
  Told _ q r :=
    match q, r with
    | .call (.lastHeight chain), .ok (highest : Option UInt64) => highest = w₀.lastHeight chain
    | _, _ => True
  may_later _ may := may
  stored_later _ _ := trivial

theorem honors_heightContract (w₀ : Site) : honestSite.Honors (heightContract w₀) where
  keeps _ _ _ others := others.elim
  works sound may works := ⟨((rowsBy_of_works works).still may).trans sound, trivial⟩
  answers {w q r w'} sound may answers := by
    refine ⟨((rowsBy_of_answers answers).still may).trans sound, trivial, ?_⟩
    match q, r, answers with
    | .call (.lastHeight chain), .ok highest, answers => exact answers.1.trans (Site.lastHeight_congr sound)
    | .call (.lastHeight chain), .error e, _ => exact trivial
    | .call (.find ..), _, _ | .call (.newer ..), _, _ | .call (.insertAddresses ..), _, _ | .call (.insert _), _, _
    | .request _, _, _ | .insertAll _, _, _ | .book _ _, _, _ | .token, _, _ | .tryToken, _, _ | .sleep _, _, _
    | .pause _, _, _ | .stopped, _, _ => exact trivial

theorem ensures_startingHeight (w₀ : Site) :
    (ix.startingHeight false).Ensures (heightContract w₀)
      (fun _ r => ∀ n, r = .ok n → n = ((w₀.lastHeight ix.processor.chain).map (· + 1)).getD 1) w := by
  refine Strand.ensures_query (fun _ _ _ => rfl) ?_
  intro r w₁ _ _ told
  match r, told with
  | .ok none, told =>
    refine Strand.ensures_pure fun _ _ _ => ?_
    rintro _ ⟨⟩
    rw [← show none = w₀.lastHeight ix.processor.chain from told]
    rfl
  | .ok (some height), told =>
    refine Strand.ensures_pure fun _ _ _ next begins => ?_
    rw [← show some height = w₀.lastHeight ix.processor.chain from told]
    exact (heightAfter_eq_ok begins).2
  | .error e, _ => exact Strand.ensures_pure fun _ _ _ => nofun

/-- **A run begins above the highest block row**, or at the first height if there is none. -/
theorem Completes.startingHeight {n : UInt64}
    (run : Completes honestSite (.alone (ix.startingHeight false)) w es w' (.ok n)) :
    n = ((w.lastHeight ix.processor.chain).map (· + 1)).getD 1 ∧ w'.rows = w.rows := by
  obtain ⟨same, -, begins⟩ := run.ensures (honors_heightContract w) rfl (Plan.ensures_alone (ensures_startingHeight w))
  exact ⟨begins n rfl, same⟩

end Running

end ChainIndex
