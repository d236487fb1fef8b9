/-!
# Sets of characters by their borders

A set of characters is given by the code points, in order, at which one goes in or out of it.
-/

namespace ChainIndex.Text

/-- Whether a code point is in the set with these borders. -/
def within (borders : List Nat) (n : Nat) : Bool := (borders.takeWhile (· ≤ n)).length % 2 == 1

end ChainIndex.Text
