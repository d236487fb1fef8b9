/-!
# Sums of words

Counts of sixty-four bits are added up one after another, and the sum goes around at the top. As long as the exact sum
fits, it does not.
-/

namespace ChainIndex

/-- The exact sum of some counts. -/
def exactSum (counts : List UInt64) : Nat := counts.foldr (fun n sum => n.toNat + sum) 0

@[simp] theorem exactSum_nil : exactSum [] = 0 := rfl

@[simp] theorem exactSum_cons (n : UInt64) (counts : List UInt64) :
    exactSum (n :: counts) = n.toNat + exactSum counts := rfl

theorem exactSum_append (counts counts' : List UInt64) :
    exactSum (counts ++ counts') = exactSum counts + exactSum counts' := by
  induction counts with
  | nil => simp
  | cons n counts ih => simp [ih, Nat.add_assoc]

theorem foldl_add_eq (start : UInt64) (counts : List UInt64) :
    counts.foldl (· + ·) start = start + (exactSum counts).toUInt64 := by
  induction counts generalizing start with
  | nil => simp
  | cons n counts ih => simp [ih, UInt64.add_assoc]

theorem toNat_foldl_add {counts : List UInt64} (fits : exactSum counts < UInt64.size) :
    (counts.foldl (· + ·) 0).toNat = exactSum counts := by
  rw [foldl_add_eq, UInt64.zero_add]
  exact UInt64.toNat_ofNat_of_lt' fits

end ChainIndex
