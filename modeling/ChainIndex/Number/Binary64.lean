import ChainIndex.Number.Bound

/-!
# Binary floating point numbers as exact quantities

A finite double is `± m · 2 ^ q`. Reading and writing decimals is exact arithmetic on `m` and `q`.
-/

namespace ChainIndex

/-- A double, taken apart. -/
inductive Binary64 where
  | notANumber
  | infinite (negative : Bool)
  /-- The number `± significand · 2 ^ exponent`. -/
  | finite (negative : Bool) (significand : Nat) (exponent : Int)
  deriving DecidableEq, Repr

namespace Binary64

/-- The least significand of a number that is not subnormal. -/
abbrev leastNormal : Nat := 4503599627370496

def ofBits (bits : UInt64) : Binary64 :=
  let n := bits.toNat
  let negative := decide (signedBound ≤ n)
  let biased : Nat := n / leastNormal % 2048
  let fraction := n % leastNormal
  if biased = 2047 then
    if fraction = 0 then .infinite negative else .notANumber
  else if biased = 0 then
    .finite negative fraction (-1074)
  else
    .finite negative (leastNormal + fraction) (Int.ofNat biased - 1075)

end Binary64

/-- A quantity `num / den`. -/
structure Ratio where
  num : Nat
  den : Nat
  deriving DecidableEq, Repr

/-- The quantity `m · 2 ^ q`. -/
def Ratio.ofBinary (m : Nat) (q : Int) : Ratio :=
  ⟨m * Nat.pow 2 q.toNat, Nat.pow 2 (-q).toNat⟩

end ChainIndex
