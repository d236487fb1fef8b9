import ChainIndex.Fetch

/-!
# The heights of chunks

No sum of heights goes around, so heights can be counted as numbers. Cut into chunks, a range keeps all
its heights: those of the chunks, one chunk after another, are the heights of the range in order
(`flatMap_heights_chunkRanges`).
-/

namespace ChainIndex

/-- The heights of a range as numbers. -/
theorem HeightRange.heights_eq (r : HeightRange) :
    r.heights = (List.range' r.first.toNat (r.last.toNat + 1 - r.first.toNat)).map UInt64.ofNat := by
  rw [heights, List.range'_eq_map_range, List.map_map]
  refine List.map_congr_left fun i _ => ?_
  simp [UInt64.ofNat_add]

theorem HeightRange.mem_heights {r : HeightRange} {h : UInt64} : h ∈ r.heights ↔ r.first ≤ h ∧ h ≤ r.last := by
  rw [heights_eq, List.mem_map, UInt64.le_iff_toNat_le, UInt64.le_iff_toNat_le]
  constructor
  · rintro ⟨n, member, rfl⟩
    rw [List.mem_range'_1] at member
    have bound : n < UInt64.size := by
      have := r.last.toNat_lt_size
      omega
    rw [UInt64.toNat_ofNat_of_lt' bound]
    omega
  · intro bounds
    exact ⟨h.toNat, List.mem_range'_1.2 (by omega), UInt64.ofNat_toNat⟩

/-- The next height, if there is one. -/
theorem toNat_add_one {height top : UInt64} (h : height < top) : (height + 1).toNat = height.toNat + 1 := by
  rw [UInt64.lt_iff_toNat_lt] at h
  have := top.toNat_lt
  rw [UInt64.toNat_add, Nat.mod_eq_of_lt]
  · rfl
  · change height.toNat + 1 < 2 ^ 64
    omega

/-- A range is cut at any of its heights. -/
theorem HeightRange.heights_append {first last top : UInt64} (lower : first ≤ last) (upper : last < top) :
    heights ⟨first, last⟩ ++ heights ⟨last + 1, top⟩ = heights ⟨first, top⟩ := by
  simp only [heights_eq, toNat_add_one upper, ← List.map_append]
  rw [UInt64.le_iff_toNat_le] at lower
  rw [UInt64.lt_iff_toNat_lt] at upper
  congr 1
  have begin_ : last.toNat + 1 = first.toNat + (last.toNat + 1 - first.toNat) := by omega
  have count : top.toNat + 1 - first.toNat = (last.toNat + 1 - first.toNat) + (top.toNat + 1 - (last.toNat + 1)) := by
    omega
  rw [count, ← List.range'_append_1, ← begin_]

theorem toNat_saturatingAdd (a b : UInt64) :
    (saturatingAdd a b).toNat = min (a.toNat + b.toNat) (UInt64.size - 1) := by
  unfold saturatingAdd
  split
  · next fits =>
    rw [UInt64.toNat_add, Nat.mod_eq_of_lt fits]
    omega
  · next large =>
    change UInt64.size - 1 = _
    omega

theorem toNat_min (a b : UInt64) : (min a b).toNat = min a.toNat b.toNat := by
  change (if a ≤ b then a else b).toNat = _
  split <;> simp_all only [UInt64.le_iff_toNat_le] <;> omega

theorem toNat_max (a b : UInt64) : (max a b).toNat = max a.toNat b.toNat := by
  change (if a ≤ b then b else a).toNat = _
  split <;> simp_all only [UInt64.le_iff_toNat_le] <;> omega

/-- How many heights a chunk has, when none are missing. A size of zero counts as one. -/
def fullSize (size : UInt64) : Nat := max size.toNat 1

theorem fullSize_pos (size : UInt64) : 0 < fullSize size := by
  unfold fullSize
  omega

theorem toNat_max_one (size : UInt64) : (max size 1).toNat = fullSize size := toNat_max size 1

/-- The end of a chunk, counted as a number. -/
theorem toNat_chunkEnd (start top size : UInt64) :
    (chunkEnd start top size).toNat = min top.toNat (start.toNat + (fullSize size - 1)) := by
  have one : (1 : UInt64) ≤ max size 1 := by
    rw [UInt64.le_iff_toNat_le, toNat_max_one]
    exact fullSize_pos size
  have less : (max size 1 - 1).toNat = fullSize size - 1 := by
    rw [UInt64.toNat_sub_of_le _ _ one, toNat_max_one]
    rfl
  have := top.toNat_lt_size
  rw [chunkEnd, toNat_min, toNat_saturatingAdd, less]
  omega

theorem le_chunkEnd {start top : UInt64} (size : UInt64) (lower : start ≤ top) : start ≤ chunkEnd start top size := by
  have end_ := toNat_chunkEnd start top size
  rw [UInt64.le_iff_toNat_le] at lower ⊢
  omega

/-- From a height on, so many chunks of one size have all heights up to the top. -/
theorem flatMap_heights_rangesFrom {top size : UInt64} {count : Nat} {start : UInt64} (lower : start ≤ top)
    (enough : (top.toNat - start.toNat) / fullSize size < count) :
    (rangesFrom top size count start).flatMap HeightRange.heights = HeightRange.heights ⟨start, top⟩ := by
  induction count generalizing start with
  | zero => simp at enough
  | succ count ih =>
    have end_ := toNat_chunkEnd start top size
    have positive := fullSize_pos size
    rw [rangesFrom, List.flatMap_cons]
    by_cases more : chunkEnd start top size < top
    · have next := toNat_add_one more
      have upper := UInt64.lt_iff_toNat_lt.1 more
      have fewer : (top.toNat - (chunkEnd start top size + 1).toNat) / fullSize size < count := by
        have whole : top.toNat - start.toNat = top.toNat - (chunkEnd start top size + 1).toNat + fullSize size := by
          omega
        rw [whole, Nat.add_div_right _ positive] at enough
        omega
      have begin_ : chunkEnd start top size + 1 ≤ top := by
        rw [UInt64.le_iff_toNat_le]
        omega
      rw [if_pos more, ih begin_ fewer, HeightRange.heights_append (le_chunkEnd size lower) more]
    · have last : chunkEnd start top size = top := by
        rw [UInt64.lt_iff_toNat_lt] at more
        exact UInt64.toNat_inj.1 (by omega)
      rw [if_neg more, last]
      simp

/-- **Chunks keep all heights.** Those of the chunks, one chunk after another, are those of the range. -/
theorem flatMap_heights_chunkRanges {first top : UInt64} (size : UInt64) (valid : first ≤ top) :
    (chunkRanges first top size).flatMap HeightRange.heights = HeightRange.heights ⟨first, top⟩ := by
  rw [chunkRanges, firstRanges, if_pos valid, rangeCount, if_pos valid]
  refine flatMap_heights_rangesFrom valid ?_
  rw [toNat_max_one]
  omega

/-- No chunk is empty. -/
theorem first_le_last_of_mem_rangesFrom {top size : UInt64} {count : Nat} {start : UInt64} (lower : start ≤ top)
    {r : HeightRange} (member : r ∈ rangesFrom top size count start) : r.first ≤ r.last := by
  induction count generalizing start with
  | zero => simp [rangesFrom] at member
  | succ count ih =>
    rw [rangesFrom] at member
    rcases List.mem_cons.1 member with rfl | later
    · exact le_chunkEnd size lower
    · by_cases more : chunkEnd start top size < top
      · rw [if_pos more] at later
        refine ih ?_ later
        have next := toNat_add_one more
        rw [UInt64.lt_iff_toNat_lt] at more
        rw [UInt64.le_iff_toNat_le]
        omega
      · rw [if_neg more] at later
        simp at later

theorem first_le_last_of_mem_chunkRanges {first top size : UInt64} {r : HeightRange}
    (member : r ∈ chunkRanges first top size) : r.first ≤ r.last := by
  unfold chunkRanges firstRanges at member
  split at member
  · next valid => exact first_le_last_of_mem_rangesFrom valid member
  · simp at member

end ChainIndex
