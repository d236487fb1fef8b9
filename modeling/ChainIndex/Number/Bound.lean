/-!
# Bounds of numbers with a sign
-/

namespace ChainIndex

/-- Numbers of sixty-four bits with a sign lie from minus this one on and below it. -/
abbrev signedBound : Nat := 9223372036854775808

end ChainIndex
