import ChainIndex.Proofs.Indexing.Walk
import Mathlib.Algebra.Order.Floor.Div

/-!
# How a range is cut

Cut into chunks, a range of heights falls into ranges that follow one another, each as long as a chunk may be and only
the last one shorter. `Cut` says so of a list of ranges without saying how the list is made; there is one such list for
each range (`Cut.unique`), and `chunkRanges` is that list.

**The chunks are a partition** (`chunkRanges_partition`). Heights are counted as numbers, so that a sum that went
around would show: the ends of the chunks, and the number of heights that each has, are the exact sums, up to the
highest height there is.
-/

namespace ChainIndex

/-- The ranges follow one another from a height up to the top. All are full but the last, which may be shorter. -/
inductive Cut (top size : UInt64) : UInt64 → List HeightRange → Prop
  | last {start : UInt64} (lower : start ≤ top) (room : top.toNat < start.toNat + fullSize size) :
    Cut top size start [⟨start, top⟩]
  | more {start last : UInt64} {rest : List HeightRange} (full : last.toNat + 1 = start.toNat + fullSize size)
      (below : last < top) (later : Cut top size (last + 1) rest) : Cut top size start (⟨start, last⟩ :: rest)

theorem HeightRange.length_heights (r : HeightRange) : r.heights.length = r.last.toNat + 1 - r.first.toNat := by
  rw [heights, List.length_map, List.length_range]

/-- With enough of them, the ranges reach the top. -/
theorem cut_rangesFrom {top size start : UInt64} {count : Nat} (lower : start ≤ top)
    (enough : (top.toNat - start.toNat) / fullSize size < count) :
    Cut top size start (rangesFrom top size count start) := by
  have positive := fullSize_pos size
  induction count generalizing start with
  | zero => exact absurd enough (Nat.not_lt_zero _)
  | succ count ih =>
    have end_ := toNat_chunkEnd start top size
    have begin_ := UInt64.le_iff_toNat_le.1 lower
    rw [rangesFrom]
    by_cases more : chunkEnd start top size < top
    · have upper := UInt64.lt_iff_toNat_lt.1 more
      have next := toNat_add_one more
      have whole : top.toNat - start.toNat = top.toNat - (chunkEnd start top size + 1).toNat + fullSize size := by
        omega
      rw [whole, Nat.add_div_right _ positive] at enough
      rw [if_pos more]
      refine .more (by omega) more (ih ?_ (Nat.lt_of_succ_lt_succ enough))
      rw [UInt64.le_iff_toNat_le]
      omega
    · have last : chunkEnd start top size = top :=
        UInt64.toNat_inj.1 (by rw [UInt64.lt_iff_toNat_lt] at more; omega)
      rw [if_neg more, last]
      exact .last lower (by rw [last] at end_; omega)

namespace Cut

variable {top size start : UInt64} {ranges ranges' : List HeightRange} {r : HeightRange}

theorem lower (cut : Cut top size start ranges) : start ≤ top := by
  cases cut with
  | last lower room => exact lower
  | more full below later =>
    rw [UInt64.lt_iff_toNat_lt] at below
    rw [UInt64.le_iff_toNat_le]
    have positive := fullSize_pos size
    omega

theorem first_of_head? (cut : Cut top size start ranges) (head : r ∈ ranges.head?) : r.first = start := by
  cases cut <;> cases Option.some.inj head <;> rfl

/-- There is one way to cut a range. -/
theorem unique (cut : Cut top size start ranges) (cut' : Cut top size start ranges') : ranges = ranges' := by
  induction cut generalizing ranges' with
  | last lower room =>
    cases cut' with
    | last => rfl
    | more full below later =>
      rw [UInt64.lt_iff_toNat_lt] at below
      omega
  | more full below later ih =>
    cases cut' with
    | last lower room =>
      rw [UInt64.lt_iff_toNat_lt] at below
      omega
    | more full' below' later' =>
      obtain rfl := UInt64.toNat_inj.1 (Nat.succ.inj (full.trans full'.symm))
      rw [ih later']

/-- No range is empty, and each ends where a full one would, or at the top. -/
theorem ends (cut : Cut top size start ranges) (member : r ∈ ranges) :
    r.first ≤ r.last ∧ r.last.toNat = min top.toNat (r.first.toNat + (fullSize size - 1)) := by
  have positive := fullSize_pos size
  induction cut with
  | last lower room =>
    obtain rfl := List.mem_singleton.1 member
    exact ⟨lower, (Nat.min_eq_left (by dsimp only; omega)).symm⟩
  | @more start last rest full below later ih =>
    rw [UInt64.lt_iff_toNat_lt] at below
    rcases List.mem_cons.1 member with rfl | member
    · have end_ : last.toNat = start.toNat + (fullSize size - 1) := by omega
      have before : start.toNat + (fullSize size - 1) ≤ top.toNat := by omega
      exact ⟨UInt64.le_iff_toNat_le.2 (by dsimp only; omega), end_.trans (Nat.min_eq_right before).symm⟩
    · exact ih member

/-- Only the last range may be shorter. -/
theorem full (cut : Cut top size start ranges) (member : r ∈ ranges.dropLast) : r.heights.length = fullSize size := by
  induction cut with
  | last lower room => cases member
  | @more start last rest full below later ih =>
    have some_ : rest ≠ [] := by
      rintro rfl
      cases later
    rw [List.dropLast_cons_of_ne_nil some_] at member
    rcases List.mem_cons.1 member with rfl | member
    · rw [HeightRange.length_heights]
      dsimp only
      omega
    · exact ih member

/-- The ranges follow one another. -/
theorem consecutive (cut : Cut top size start ranges) :
    ranges.IsChain fun r r' => r'.first.toNat = r.last.toNat + 1 := by
  induction cut with
  | last lower room => exact .singleton _
  | more full below later ih =>
    refine List.isChain_cons.2 ⟨fun r head => ?_, ih⟩
    rw [later.first_of_head? head, toNat_add_one below]

theorem length (cut : Cut top size start ranges) :
    ranges.length = (top.toNat + 1 - start.toNat) ⌈/⌉ fullSize size := by
  have positive := fullSize_pos size
  induction cut with
  | @last start lower room =>
    rw [UInt64.le_iff_toNat_le] at lower
    rw [Nat.ceilDiv_eq_add_pred_div, List.length_singleton]
    exact (Nat.div_eq_of_lt_le (by omega) (by omega)).symm
  | @more start last rest full below later ih =>
    have upper := UInt64.lt_iff_toNat_lt.1 below
    have left : top.toNat + 1 - start.toNat + fullSize size - 1 =
        top.toNat + 1 - (last + 1).toNat + fullSize size - 1 + fullSize size := by
      rw [toNat_add_one below]
      omega
    rw [List.length_cons, ih, Nat.ceilDiv_eq_add_pred_div, Nat.ceilDiv_eq_add_pred_div, left,
      Nat.add_div_right _ positive]

end Cut

/-- If there is anything to cut, the chunks are what it is cut into, and more of them are not to be had. -/
theorem cut_firstRanges {first top size : UInt64} (valid : first ≤ top) (more : Nat) :
    Cut top size first (firstRanges (rangeCount first top size + more) first top size) := by
  rw [firstRanges, if_pos valid, rangeCount, if_pos valid, toNat_max_one]
  exact cut_rangesFrom valid (by omega)

theorem firstRanges_eq (first top size : UInt64) (more : Nat) :
    firstRanges (rangeCount first top size + more) first top size = chunkRanges first top size := by
  by_cases valid : first ≤ top
  · exact (cut_firstRanges valid more).unique (cut_firstRanges valid 0)
  · rw [chunkRanges, firstRanges, firstRanges, if_neg valid, if_neg valid]

/-- The number of heights of a range is the sum that a word can hold, unless the range has all heights there are. -/
theorem HeightRange.toNat_last_sub_first {r : HeightRange} (valid : r.first ≤ r.last)
    (fits : r.heights.length < UInt64.size) : (r.last - r.first + 1).toNat = r.heights.length := by
  rw [length_heights] at fits ⊢
  have lower := UInt64.le_iff_toNat_le.1 valid
  have less : (r.last - r.first).toNat = r.last.toNat - r.first.toNat := UInt64.toNat_sub_of_le _ _ valid
  have room : (r.last - r.first).toNat < UInt64.size - 1 := by omega
  rw [toNat_add_one_of_below room, less]
  omega

/-- **The chunks are a partition** of the heights from the first to the top, and there are none if the first is beyond
the top. No chunk is empty or longer than it may be, and all but the last are as long as that. The end of each chunk,
the beginning of the next and the number of heights of each are exact, so no sum went around; and however many chunks
are asked for, there are no others. -/
theorem chunkRanges_partition (first top size : UInt64) :
    let chunks := chunkRanges first top size
    let full := max 1 size.toNat
    (chunks.flatMap HeightRange.heights).map UInt64.toNat = List.range' first.toNat (top.toNat + 1 - first.toNat) ∧
    (∀ r ∈ chunks, r.first ≤ r.last ∧ r.heights.length ≤ full ∧
      r.last.toNat = min top.toNat (r.first.toNat + (full - 1)) ∧ (r.last - r.first + 1).toNat = r.heights.length) ∧
    (∀ r ∈ chunks.dropLast, r.heights.length = full) ∧
    (chunks.IsChain fun r r' => r'.first.toNat = r.last.toNat + 1) ∧
    chunks.length = (top.toNat + 1 - first.toNat) ⌈/⌉ full ∧
    ∀ more, firstRanges (rangeCount first top size + more) first top size = chunks := by
  intro chunks full
  have same : fullSize size = full := Nat.max_comm _ _
  rcases UInt64.lt_or_le top first with past | valid
  · have none_ : chunks = [] := chunkRanges_eq_nil size past
    have nothing : top.toNat + 1 - first.toNat = 0 := Nat.sub_eq_zero_of_le (UInt64.lt_iff_toNat_lt.1 past)
    rw [none_, nothing]
    refine ⟨rfl, by simp, by simp, .nil, (zero_ceilDiv full).symm, fun more => ?_⟩
    exact (firstRanges_eq first top size more).trans none_
  · have cut : Cut top size first chunks := cut_firstRanges valid 0
    refine ⟨?_, fun r member => ?_, fun r member => same ▸ cut.full member, cut.consecutive, same ▸ cut.length,
      firstRanges_eq first top size⟩
    · rw [flatMap_heights_chunkRanges size valid, HeightRange.map_toNat_heights]
    · obtain ⟨lower, end_⟩ := cut.ends member
      have word := size.toNat_lt_size
      have some_ : 1 < UInt64.size := by decide
      have short : r.heights.length ≤ full := by
        rw [HeightRange.length_heights]
        omega
      rw [same] at end_
      exact ⟨lower, short, end_, HeightRange.toNat_last_sub_first lower (by omega)⟩

example : chunkRanges 18446744073709551613 18446744073709551615 2 =
    [⟨18446744073709551613, 18446744073709551614⟩, ⟨18446744073709551615, 18446744073709551615⟩] := by decide

end ChainIndex
