/-!
# Cutting height ranges

A range of heights is cut into consecutive ranges of a given size, the last one shorter if need be.
All sums stop at the highest height instead of going around, so the range may reach up to it.
-/

namespace ChainIndex

/-- The heights from `first` to `last`, both included. -/
structure HeightRange where
  first : UInt64
  last : UInt64
  deriving DecidableEq, Repr

/-- The highest height there is. -/
def highestHeight : UInt64 := 18446744073709551615

/-- Whether the number of heights is below two to the sixty-fourth. Only that of all heights is not. -/
def HeightRange.IsCountable (r : HeightRange) : Prop := ¬(r.first = 0 ∧ r.last = highestHeight)

instance (r : HeightRange) : Decidable r.IsCountable := inferInstanceAs (Decidable (¬_))

/-- The sum, or the highest height if the sum is beyond it. -/
def saturatingAdd (a b : UInt64) : UInt64 :=
  if a.toNat + b.toNat < UInt64.size then a + b else 18446744073709551615

/-- The last height of a range of at most `size` heights, none above `top`. -/
def chunkEnd (start top size : UInt64) : UInt64 :=
  min top (saturatingAdd start (max size 1 - 1))

/-- The first `count` ranges from `start` on. -/
def rangesFrom (top size : UInt64) : (count : Nat) → (start : UInt64) → List HeightRange
  | 0, _ => []
  | count + 1, start =>
    let last := chunkEnd start top size
    ⟨start, last⟩ :: if last < top then rangesFrom top size count (last + 1) else []

/-- The first `count` ranges of the heights from `first` to `top`. -/
def firstRanges (count : Nat) (first top size : UInt64) : List HeightRange :=
  if first ≤ top then rangesFrom top size count first else []

/-- How many ranges the heights are cut into. -/
def rangeCount (first top size : UInt64) : Nat :=
  if first ≤ top then (top.toNat - first.toNat) / (max size 1).toNat + 1 else 0

/-- The ranges into which the heights are cut. -/
def chunkRanges (first top size : UInt64) : List HeightRange :=
  firstRanges (rangeCount first top size) first top size

end ChainIndex
