import ChainIndex.Indexing.Live
import ChainIndex.Proofs.Indexing.Ranges
import Mathlib.Data.List.Chain

/-!
# Walking behind the head

A run that follows the head works in turns, and each turn begins where the one before left the cursor. In a
turn the head cannot be read, or nothing is left up to the head, or the next chunk is indexed. What the turns
of a run can be is written down here without the run (`Walk`): only how far the cursor moves, from the head that
was read and from what became of the chunk.

**No gap, no overlap** (`Walk.gapless`). The first chunk begins where the walk does. A chunk is not empty, ends
at the head at the latest and has no more heights than it may. The next chunk begins behind it if it was
processed, and where it began if it was not. So the heights of the processed chunks, one chunk after another,
are those from the beginning of the walk up to the cursor, and if all heads that are read are the same, the
walk does what `chunkRanges` does.

Behind a processed chunk that ends at the highest height there is none to go on with. The turn of such a chunk is the
last of the walk.
-/

namespace ChainIndex

/-- What became of a turn. -/
inductive Turn where
  /-- The head could not be read. -/
  | unread
  /-- Nothing was left up to the head. -/
  | caughtUp (head : UInt64)
  /-- A chunk was begun, and if it is over it came to this. -/
  | chunk (head : UInt64) (range : HeightRange) (result : Option (Except IndexError ChunkReport))

namespace Turn

def head? : Turn → Option UInt64
  | .unread => none
  | .caughtUp head | .chunk head _ _ => some head

def range? : Turn → Option HeightRange
  | .chunk _ range _ => some range
  | _ => none

/-- Whether a chunk was stored. -/
def isProcessed : Turn → Bool
  | .chunk _ _ (some (.ok report)) => report.outcome = .processed
  | _ => false

/-- Whether the turn is not amid its chunk. -/
def isOver : Turn → Bool
  | .chunk _ _ none => false
  | _ => true

/-- The cursor after the turn, if there is a height to go on with. -/
def next (cursor : UInt64) (t : Turn) : Except Halt UInt64 :=
  match t with
  | .chunk _ range _ => if t.isProcessed then heightAfter range.last else .ok cursor
  | _ => .ok cursor

section

variable (cursor head : UInt64) (range : HeightRange) (result : Option (Except IndexError ChunkReport))

@[simp] theorem head?_unread : unread.head? = none := rfl
@[simp] theorem head?_caughtUp : (caughtUp head).head? = some head := rfl
@[simp] theorem head?_chunk : (chunk head range result).head? = some head := rfl
@[simp] theorem range?_unread : unread.range? = none := rfl
@[simp] theorem range?_caughtUp : (caughtUp head).range? = none := rfl
@[simp] theorem range?_chunk : (chunk head range result).range? = some range := rfl
@[simp] theorem next_unread : unread.next cursor = .ok cursor := rfl
@[simp] theorem next_caughtUp : (caughtUp head).next cursor = .ok cursor := rfl

end

/-- What can become of a turn that begins at the cursor. -/
inductive From (size cursor : UInt64) : Turn → Prop
  | unread : From size cursor .unread
  | caughtUp {head : UInt64} (ahead : head < cursor) : From size cursor (.caughtUp head)
  | chunk {head : UInt64} {result : Option (Except IndexError ChunkReport)} (ready : cursor ≤ head) :
    From size cursor (.chunk head ⟨cursor, chunkEnd cursor head size⟩ result)

end Turn

/-- Turns that begin at one height and leave the cursor at another. Only the last may be amid its chunk or have no
height to go on with, and then the cursor stays where it was. -/
inductive Walk (size : UInt64) : UInt64 → List Turn → UInt64 → Prop
  | rest {cursor : UInt64} : Walk size cursor [] cursor
  | turn {cursor next last : UInt64} {t : Turn} {ts : List Turn} (here : t.From size cursor) (settled : t.isOver)
      (goesOn : t.next cursor = .ok next) (later : Walk size next ts last) : Walk size cursor (t :: ts) last
  | amid {cursor : UInt64} {t : Turn} (here : t.From size cursor) (going : t.isOver = false) :
    Walk size cursor [t] cursor
  | halted {cursor : UInt64} {t : Turn} {e : Halt} (here : t.From size cursor) (beyond : t.next cursor = .error e) :
    Walk size cursor [t] cursor

/-- No head is the highest height there is. -/
def HeadsBelow (ts : List Turn) : Prop :=
  ∀ t ∈ ts, ∀ head, t.head? = some head → head.toNat < UInt64.size - 1

/-- No chunk that ends at the highest height was processed. -/
def EndsBelow (ts : List Turn) : Prop := ∀ t ∈ ts, t.isProcessed → ∀ r, t.range? = some r → r.last ≠ highestHeight

/-- Turns whose chunks follow one another without gap and overlap, from a height up to a cursor. -/
structure Gapless (size first : UInt64) (ts : List Turn) (cursor : UInt64) : Prop where
  begins : ∀ t ∈ (ts.filter (·.range?.isSome)).head?, ∀ r, t.range? = some r → r.first = first
  bounded : ∀ head r result, .chunk head r result ∈ ts →
    r.first ≤ r.last ∧ r.last ≤ head ∧ r.last.toNat - r.first.toNat < max 1 size.toNat
  goesOn : (ts.filter (·.range?.isSome)).IsChain fun t t' => ∀ r r', t.range? = some r → t'.range? = some r' →
    r'.first.toNat = if t.isProcessed then r.last.toNat + 1 else r.first.toNat
  forward : first ≤ cursor
  tiles : (((ts.filter (·.isProcessed)).filterMap Turn.range?).flatMap HeightRange.heights).map UInt64.toNat =
    List.range' first.toNat (cursor.toNat - first.toNat)
  splits : ∀ top, (∀ t ∈ ts, ∀ head, t.head? = some head → head = top) → (∀ t ∈ ts, t.range?.isSome → t.isOver →
    t.isProcessed) → ts.filterMap Turn.range? = (chunkRanges first top size).take (ts.countP (·.head?.isSome))

/-! ## Ranges -/

theorem HeightRange.map_toNat_heights (r : HeightRange) :
    r.heights.map UInt64.toNat = List.range' r.first.toNat (r.last.toNat + 1 - r.first.toNat) := by
  rw [heights_eq, List.map_map]
  refine (List.map_congr_left fun n member => ?_).trans (List.map_id _)
  have := r.last.toNat_lt_size
  have bounds := List.mem_range'_1.1 member
  exact UInt64.toNat_ofNat_of_lt' (by omega)

theorem chunkEnd_le (start top size : UInt64) : chunkEnd start top size ≤ top := by
  rw [UInt64.le_iff_toNat_le, toNat_chunkEnd]
  omega

theorem toNat_add_one_of_below {height : UInt64} (below : height.toNat < UInt64.size - 1) :
    (height + 1).toNat = height.toNat + 1 :=
  toNat_add_one (UInt64.lt_iff_toNat_lt.2 (show _ < highestHeight.toNat from below))

theorem toNat_lt_of_ne_highestHeight {height : UInt64} (below : height ≠ highestHeight) :
    height.toNat < UInt64.size - 1 := by
  have bound := height.toNat_lt_size
  have other : height.toNat ≠ UInt64.size - 1 := fun same => below (UInt64.toNat_inj.1 same)
  omega

theorem toNat_heightAfter {height next : UInt64} (h : heightAfter height = .ok next) :
    next.toNat = height.toNat + 1 := by
  obtain ⟨below, rfl⟩ := heightAfter_eq_ok h
  exact toNat_add_one_of_below (toNat_lt_of_ne_highestHeight below)

/-- The first chunk, and the chunks of what is left. -/
theorem chunkRanges_eq_cons {first top size : UInt64} (ready : first ≤ top) (below : top.toNat < UInt64.size - 1) :
    chunkRanges first top size =
      ⟨first, chunkEnd first top size⟩ :: chunkRanges (chunkEnd first top size + 1) top size := by
  have end_ := toNat_chunkEnd first top size
  have positive := fullSize_pos size
  have lower := UInt64.le_iff_toNat_le.1 ready
  simp only [chunkRanges, firstRanges, rangeCount, if_pos ready, toNat_max_one]
  rw [rangesFrom]
  by_cases more : chunkEnd first top size < top
  · have upper := UInt64.lt_iff_toNat_lt.1 more
    have next := toNat_add_one more
    have left : chunkEnd first top size + 1 ≤ top := by
      rw [UInt64.le_iff_toNat_le]
      omega
    have whole : top.toNat - first.toNat = top.toNat - (chunkEnd first top size + 1).toNat + fullSize size := by
      omega
    rw [if_pos more, if_pos left, if_pos left, whole, Nat.add_div_right _ positive]
  · have last : chunkEnd first top size = top := by
      rw [UInt64.lt_iff_toNat_lt] at more
      exact UInt64.toNat_inj.1 (by omega)
    have past : ¬top + 1 ≤ top := by
      rw [UInt64.le_iff_toNat_le, toNat_add_one_of_below below]
      omega
    rw [if_neg more, last, if_neg past]

theorem chunkRanges_eq_nil {first top : UInt64} (size : UInt64) (past : top < first) :
    chunkRanges first top size = [] := by
  rw [chunkRanges, firstRanges, if_neg (UInt64.not_le.2 past)]

/-! ## Turns -/

variable {size cursor last : UInt64} {t : Turn} {ts : List Turn}

theorem HeadsBelow.tail (below : HeadsBelow (t :: ts)) : HeadsBelow ts :=
  fun u member => below u (List.mem_cons_of_mem t member)

theorem EndsBelow.tail (below : EndsBelow (t :: ts)) : EndsBelow ts :=
  fun u member => below u (List.mem_cons_of_mem t member)

theorem endsBelow_nil : EndsBelow [] := fun _ member => absurd member List.not_mem_nil

theorem endsBelow_cons : EndsBelow (t :: ts) ↔ EndsBelow [t] ∧ EndsBelow ts := by
  simp only [EndsBelow, List.forall_mem_cons, List.not_mem_nil, false_implies, implies_true, and_true]

namespace Turn

/-- A chunk begins at the cursor, and keeps to its size and to the head. -/
theorem From.bounds (here : t.From size cursor) {r : HeightRange} (begun : t.range? = some r) :
    r.first = cursor ∧ r.first ≤ r.last ∧ r.last.toNat - r.first.toNat < max 1 size.toNat ∧
      ∃ head, t.head? = some head ∧ r.last ≤ head := by
  cases here with
  | unread => cases begun
  | caughtUp ahead => cases begun
  | @chunk head result ready =>
    cases begun
    have end_ := toNat_chunkEnd cursor head size
    have lower := UInt64.le_iff_toNat_le.1 ready
    refine ⟨rfl, le_chunkEnd size ready, ?_, head, rfl, chunkEnd_le cursor head size⟩
    rw [fullSize] at end_
    simp only
    omega

/-- A chunk that was processed moves the cursor behind it, and nothing else moves it. -/
theorem next_cases (cursor : UInt64) (t : Turn) :
    (∃ r, t.range? = some r ∧ t.isProcessed ∧ t.next cursor = heightAfter r.last) ∨
      t.isProcessed = false ∧ t.next cursor = .ok cursor := by
  cases t with
  | unread => exact .inr ⟨rfl, rfl⟩
  | caughtUp head => exact .inr ⟨rfl, rfl⟩
  | chunk head range result =>
    rw [next]
    by_cases processed : (Turn.chunk head range result).isProcessed
    · exact .inl ⟨range, rfl, processed, if_pos processed⟩
    · exact .inr ⟨by simpa using processed, if_neg processed⟩

variable {next : UInt64}

/-- The cursor after the turn as a number. -/
theorem From.toNat_next (here : t.From size cursor) (goesOn : t.next cursor = .ok next) {r : HeightRange}
    (begun : t.range? = some r) :
    next.toNat = if t.isProcessed then r.last.toNat + 1 else r.first.toNat := by
  rcases next_cases cursor t with ⟨r', begun', processed, moved⟩ | ⟨processed, stays⟩
  · obtain rfl : r' = r := Option.some.inj (begun'.symm.trans begun)
    rw [if_pos processed, toNat_heightAfter (moved.symm.trans goesOn)]
  · obtain rfl : cursor = next := Except.ok.inj (stays.symm.trans goesOn)
    rw [processed, (here.bounds begun).1]
    rfl

theorem next_of_range?_eq_none (cursor : UInt64) (idle : t.range? = none) : t.next cursor = .ok cursor := by
  rcases next_cases cursor t with ⟨r, begun, -, -⟩ | ⟨-, next⟩
  · rw [idle] at begun
    cases begun
  · exact next

/-- The cursor only moves forward. -/
theorem From.le_next (here : t.From size cursor) (goesOn : t.next cursor = .ok next) : cursor ≤ next := by
  cases begun : t.range? with
  | none =>
    obtain rfl : cursor = next := Except.ok.inj ((next_of_range?_eq_none cursor begun).symm.trans goesOn)
    exact UInt64.le_refl cursor
  | some r =>
    obtain ⟨rfl, valid, -⟩ := here.bounds begun
    have moved := here.toNat_next goesOn begun
    rw [UInt64.le_iff_toNat_le] at valid ⊢
    split at moved <;> omega

/-- There is no height to go on with if a chunk was processed that ends at the highest, and only then. -/
theorem next_eq_error {e : Halt} (beyond : t.next cursor = .error e) : e = .overflow ∧ ¬EndsBelow [t] := by
  rcases next_cases cursor t with ⟨r, begun, processed, moved⟩ | ⟨-, stays⟩
  · obtain ⟨top, rfl⟩ := heightAfter_eq_error (moved.symm.trans beyond)
    exact ⟨rfl, fun below => below t (List.mem_singleton_self t) processed r begun top⟩
  · exact nomatch stays.symm.trans beyond

theorem endsBelow_of_next (goesOn : t.next cursor = .ok next) : EndsBelow [t] := by
  intro u member processed r begun
  obtain rfl := List.mem_singleton.1 member
  rcases next_cases cursor u with ⟨r', begun', -, moved⟩ | ⟨unprocessed, -⟩
  · obtain rfl : r' = r := Option.some.inj (begun'.symm.trans begun)
    exact (heightAfter_eq_ok (moved.symm.trans goesOn)).1
  · rw [unprocessed] at processed
    cases processed

theorem not_isProcessed_of_not_isOver (going : t.isOver = false) : t.isProcessed = false := by
  match t with
  | .chunk _ _ none => rfl
  | .chunk _ _ (some _) => cases going
  | .unread | .caughtUp _ => cases going

/-- Chunks end at the head at the latest, so if no head is the highest height they end below it. -/
theorem From.endsBelow (here : t.From size cursor) (below : HeadsBelow [t]) : EndsBelow [t] := by
  intro u member processed r begun top
  obtain rfl := List.mem_singleton.1 member
  obtain ⟨-, -, -, head, read, upper⟩ := here.bounds begun
  have bound := below u (List.mem_singleton_self u) head read
  rw [top, UInt64.le_iff_toNat_le] at upper
  exact absurd (Nat.lt_of_le_of_lt upper bound) (by decide)

end Turn

namespace Walk

theorem begins_single (here : t.From size cursor) :
    ∀ u ∈ ([t].filter (·.range?.isSome)).head?, ∀ r, u.range? = some r → r.first = cursor := by
  intro u member r begun
  obtain rfl : u = t := by
    have := List.mem_of_mem_filter (List.mem_of_mem_head? member)
    simpa using this
  exact (here.bounds begun).1

/-- The first chunk begins at the cursor. -/
theorem begins (h : Walk size cursor ts last) :
    ∀ t ∈ (ts.filter (·.range?.isSome)).head?, ∀ r, t.range? = some r → r.first = cursor := by
  induction h with
  | rest => simp
  | @turn cursor next last t ts here settled goesOn later ih =>
    cases begun : t.range? with
    | none =>
      rw [List.filter_cons_of_neg (by simp [begun])]
      obtain rfl : cursor = next := Except.ok.inj ((Turn.next_of_range?_eq_none cursor begun).symm.trans goesOn)
      exact ih
    | some r =>
      rw [List.filter_cons_of_pos (by simp [begun])]
      intro t' member r' begun'
      obtain rfl : t = t' := Option.some.inj member
      exact (here.bounds begun').1
  | amid here going => exact begins_single here
  | halted here beyond => exact begins_single here

theorem bounded (h : Walk size cursor ts last) (member : t ∈ ts) : ∃ cursor', t.From size cursor' := by
  induction h with
  | rest => simp at member
  | turn here settled goesOn later ih =>
    rcases List.mem_cons.1 member with rfl | member
    · exact ⟨_, here⟩
    · exact ih member
  | amid here going =>
    obtain rfl := List.mem_singleton.1 member
    exact ⟨_, here⟩
  | halted here beyond =>
    obtain rfl := List.mem_singleton.1 member
    exact ⟨_, here⟩

/-- Each chunk begins where the one before left the cursor. -/
theorem goesOn (h : Walk size cursor ts last) :
    (ts.filter (·.range?.isSome)).IsChain fun t t' => ∀ r r', t.range? = some r → t'.range? = some r' →
      r'.first.toNat = if t.isProcessed then r.last.toNat + 1 else r.first.toNat := by
  have single : ∀ t : Turn, ([t].filter (·.range?.isSome)).IsChain fun t t' => ∀ r r', t.range? = some r →
      t'.range? = some r' → r'.first.toNat = if t.isProcessed then r.last.toNat + 1 else r.first.toNat := by
    intro t
    rw [List.filter_singleton, Bool.cond_eq_ite]
    split
    · exact .singleton _
    · exact .nil
  induction h with
  | rest => exact .nil
  | @turn cursor next last t ts here settled goesOn later ih =>
    cases begun : t.range? with
    | none =>
      rw [List.filter_cons_of_neg (by simp [begun])]
      exact ih
    | some r =>
      rw [List.filter_cons_of_pos (by simp [begun]), List.isChain_cons]
      refine ⟨fun t' member r' r'' begun' begun'' => ?_, ih⟩
      obtain rfl : r' = r := Option.some.inj (begun'.symm.trans begun)
      rw [later.begins t' member r'' begun'']
      exact here.toNat_next goesOn begun
  | amid here going => exact single _
  | halted here beyond => exact single _

/-- The cursor only moves forward. -/
theorem forward (h : Walk size cursor ts last) : cursor ≤ last := by
  induction h with
  | rest => exact UInt64.le_refl _
  | turn here settled goesOn later ih => exact UInt64.le_trans (here.le_next goesOn) ih
  | amid here going => exact UInt64.le_refl _
  | halted here beyond => exact UInt64.le_refl _

/-- If no head is the highest height, chunks end below it. -/
theorem endsBelow (h : Walk size cursor ts last) (below : HeadsBelow ts) : EndsBelow ts := by
  intro t member
  obtain ⟨cursor', here⟩ := h.bounded member
  refine here.endsBelow ?_ t (List.mem_singleton_self t)
  intro u same
  exact below u (List.mem_singleton.1 same ▸ member)

/-- What the cursor passes are the heights of the processed chunks. -/
theorem tiles (h : Walk size cursor ts last) (below : EndsBelow ts) :
    (((ts.filter (·.isProcessed)).filterMap Turn.range?).flatMap HeightRange.heights).map UInt64.toNat =
      List.range' cursor.toNat (last.toNat - cursor.toNat) := by
  induction h with
  | rest => simp
  | @turn cursor next last t ts here settled goesOn later ih =>
    have tiled := ih below.tail
    rcases Turn.next_cases cursor t with ⟨r, begun, processed, -⟩ | ⟨processed, stays⟩
    · obtain ⟨rfl, valid, -⟩ := here.bounds begun
      have moved := here.toNat_next goesOn begun
      have forward := later.forward
      rw [if_pos processed] at moved
      rw [UInt64.le_iff_toNat_le] at forward valid
      rw [List.filter_cons_of_pos processed, List.filterMap_cons_some begun, List.flatMap_cons, List.map_append, tiled,
        HeightRange.map_toNat_heights, moved]
      have begin_ : r.last.toNat + 1 = r.first.toNat + (r.last.toNat + 1 - r.first.toNat) := by omega
      have count : last.toNat - r.first.toNat =
          (r.last.toNat + 1 - r.first.toNat) + (last.toNat - (r.last.toNat + 1)) := by omega
      rw [count, ← List.range'_append_1, ← begin_]
    · obtain rfl : cursor = next := Except.ok.inj (stays.symm.trans goesOn)
      rw [List.filter_cons_of_neg (by simp [processed])]
      exact tiled
  | @amid cursor t here going =>
    simp [Turn.not_isProcessed_of_not_isOver going]
  | halted here beyond => exact absurd below (Turn.next_eq_error beyond).2

/-- If the head stays where it is and every chunk is processed, the walk is the cutting of a range. -/
theorem splits (h : Walk size cursor ts last) (below : HeadsBelow ts) {top : UInt64}
    (same : ∀ t ∈ ts, ∀ head, t.head? = some head → head = top)
    (processed : ∀ t ∈ ts, t.range?.isSome → t.isOver → t.isProcessed) :
    ts.filterMap Turn.range? = (chunkRanges cursor top size).take (ts.countP (·.head?.isSome)) := by
  induction h with
  | rest => simp
  | @turn cursor next last t ts here settled goesOn later ih =>
    have rest := ih below.tail (fun u member => same u (List.mem_cons_of_mem t member))
      fun u member => processed u (List.mem_cons_of_mem t member)
    cases here with
    | unread =>
      obtain rfl : cursor = next := Except.ok.inj goesOn
      simpa [List.filterMap_cons] using rest
    | @caughtUp head ahead =>
      obtain rfl : cursor = next := Except.ok.inj goesOn
      obtain rfl := same _ List.mem_cons_self head rfl
      have nothing := chunkRanges_eq_nil size ahead
      simpa [nothing] using rest
    | @chunk head result ready =>
      obtain rfl := same _ List.mem_cons_self head rfl
      have stored := processed _ List.mem_cons_self rfl settled
      rw [Turn.next, if_pos stored] at goesOn
      obtain ⟨-, rfl⟩ := heightAfter_eq_ok goesOn
      rw [chunkRanges_eq_cons ready (below _ List.mem_cons_self head rfl)]
      simpa [List.filterMap_cons, List.countP_cons] using rest
  | @amid cursor t here going =>
    cases here with
    | unread => cases going
    | caughtUp ahead => cases going
    | @chunk head result ready =>
      obtain rfl := same _ List.mem_cons_self head rfl
      rw [chunkRanges_eq_cons ready (below _ List.mem_cons_self head rfl)]
      simp
  | halted here beyond => exact absurd (here.endsBelow below) (Turn.next_eq_error beyond).2

/-- **No gap, no overlap.** -/
theorem gapless (h : Walk size cursor ts last) (below : HeadsBelow ts) : Gapless size cursor ts last where
  begins := h.begins
  bounded head r result member := by
    obtain ⟨_, here⟩ := h.bounded member
    obtain ⟨-, valid, few, head', read, upper⟩ := here.bounds rfl
    obtain rfl : head = head' := Option.some.inj read
    exact ⟨valid, upper, few⟩
  goesOn := h.goesOn
  forward := h.forward
  tiles := h.tiles (h.endsBelow below)
  splits _ same processed := h.splits below same processed

end Walk

end ChainIndex
