/-!
# Points in time
-/

namespace ChainIndex

/-- Whole seconds since the beginning of 1970 and nanoseconds after them. A leap second is the second
before it with a billion nanoseconds more. -/
structure Moment where
  secs : Int
  nanos : UInt32
  deriving DecidableEq, Repr, Inhabited

end ChainIndex
