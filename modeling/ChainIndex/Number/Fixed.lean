import ChainIndex.Number.Binary64

/-!
# Decimals with a fixed number of places

The exact value of a double rounded to a grid of decimal places; a value half way between two
points of the grid goes to the even one.
-/

namespace ChainIndex

/-- A quotient rounded to the nearest number, a half to the even neighbour. -/
def roundHalfEven (num den : Nat) : Nat :=
  let q := num / den
  let twice := 2 * (num % den)
  if twice < den ∨ (twice = den ∧ q % 2 = 0) then q else q + 1

/-- The text of a double with the given number of places after the point. -/
def fixedDecimal (places : Nat) (bits : UInt64) : String :=
  match Binary64.ofBits bits with
  | .notANumber => "NaN"
  | .infinite negative => if negative then "-inf" else "inf"
  | .finite negative m q =>
    let r := Ratio.ofBinary m q
    let scaled := roundHalfEven (r.num * Nat.pow 10 places) r.den
    let digits := Nat.toDigits 10 scaled
    let padded := List.replicate (places + 1 - digits.length) '0' ++ digits
    let whole := padded.take (padded.length - places)
    let fraction := padded.drop (padded.length - places)
    String.ofList
      ((if negative then ['-'] else []) ++ whole ++ if places = 0 then [] else '.' :: fraction)

end ChainIndex
