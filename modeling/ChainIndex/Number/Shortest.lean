import ChainIndex.Number.Binary64

/-!
# The shortest decimal that reads back

Around every double lies an interval of reals that are rounded to it; its ends belong to it when the
significand is even. Among the decimals in this interval those with the fewest digits are looked
for, grid by grid: a grid that has a point in the interval has one next to the number itself, so the
two neighbours on each grid are enough. Of two hits the nearer one is taken, and of two equally near
the even one.
-/

namespace ChainIndex

/-- The quantity `digits · 10 ^ exponent`. -/
structure Decimal where
  digits : Nat
  exponent : Int
  deriving DecidableEq, Repr

namespace Shortest

/-- How many decimal digits a number has. -/
def digitCount (n : Nat) : Nat := (Nat.toDigits 10 n).length

/-- The power of ten of the leading digit. -/
def leadingPower (r : Ratio) : Int :=
  (digitCount (r.num * Nat.pow 10 350 / r.den) : Int) - 351

/-- The quantity `d · 10 ^ k` times `den`, and `num`, brought over one denominator. -/
def overOne (d : Nat) (k : Int) (r : Ratio) : Nat × Nat :=
  (d * Nat.pow 10 k.toNat * r.den, r.num * Nat.pow 10 (-k).toNat)

/-- The number and the ends of its interval, all with one denominator. -/
structure Interval where
  value : Ratio
  low : Ratio
  high : Ratio
  closed : Bool

def intervalOf (m : Nat) (q : Int) : Interval :=
  let step := if m = Binary64.leastNormal ∧ q ≠ -1074 then 1 else 2
  { value := .ofBinary (4 * m) (q - 2)
    low := .ofBinary (4 * m - step) (q - 2)
    high := .ofBinary (4 * m + 2) (q - 2)
    closed := m % 2 = 0 }

def Interval.contains (i : Interval) (d : Nat) (k : Int) : Bool :=
  let (x, low) := overOne d k i.low
  let (y, high) := overOne d k i.high
  if i.closed then low ≤ x && y ≤ high else low < x && y < high

/-- The neighbours on the grid of `10 ^ k` that lie in the interval, the better one first. -/
def hits (i : Interval) (k : Int) : List Nat :=
  let (unit, x) := overOne 1 k i.value
  let below := x / unit
  let both := [below, below + 1].filter fun d => 0 < d && i.contains d k
  let order := 2 * (x % unit)
  if order < unit ∨ (order = unit ∧ below % 2 = 0) then both else both.reverse

/-- Tries grids with one more digit each. -/
def search (i : Interval) (lead : Int) : (more : Nat) → (count : Nat) → Decimal
  | 0, count =>
    let k := lead - count + 1
    let (unit, x) := overOne 1 k i.value
    ⟨x / unit, k⟩
  | more + 1, count =>
    let k := lead - count + 1
    match hits i k with
    | d :: _ => ⟨d, k⟩
    | [] => search i lead more (count + 1)

/-- A decimal without zeros at its end. -/
def dropZeros : (fuel : Nat) → Decimal → Decimal
  | 0, d => d
  | fuel + 1, d =>
    if d.digits ≠ 0 ∧ d.digits % 10 = 0 then dropZeros fuel ⟨d.digits / 10, d.exponent + 1⟩ else d

end Shortest

/-- The shortest decimal that is rounded to `m · 2 ^ q`, for a double that is not zero. -/
def shortestDecimal (m : Nat) (q : Int) : Decimal :=
  let i := Shortest.intervalOf m q
  Shortest.dropZeros 20 (Shortest.search i (Shortest.leadingPower i.value) 17 1)

/-! ## Layout -/

/-- Which powers of ten are written out. A number whose point stands before digit `p` of its shortest
digits is written with a point when `lowest ≤ p ≤ 16`, and with an exponent otherwise. -/
structure FloatLayout where
  lowest : Int
  notANumber : String
  infinite : String

namespace FloatLayout

def zeros (n : Nat) : List Char := List.replicate n '0'

/-- Writes digits with their point before digit `p`. -/
def positional (digits : List Char) (p : Int) : List Char :=
  if p ≤ 0 then
    '0' :: '.' :: zeros (-p).toNat ++ digits
  else if (digits.length : Int) ≤ p then
    digits ++ zeros (p.toNat - digits.length) ++ ['.', '0']
  else
    digits.take p.toNat ++ '.' :: digits.drop p.toNat

/-- Writes one digit, the others after a point, and the power of ten of the first. -/
def scientific (digits : List Char) (p : Int) : List Char :=
  let mantissa :=
    match digits with
    | [] => []
    | [d] => [d]
    | d :: rest => d :: '.' :: rest
  mantissa ++ 'e' :: (toString (p - 1)).toList

/-- The text of a double. -/
def write (layout : FloatLayout) (bits : UInt64) : String :=
  match Binary64.ofBits bits with
  | .notANumber => layout.notANumber
  | .infinite negative => (if negative then "-" else "") ++ layout.infinite
  | .finite negative m q =>
    let sign := if negative then ['-'] else []
    if m = 0 then
      String.ofList (sign ++ ['0', '.', '0'])
    else
      let d := shortestDecimal m q
      let digits := Nat.toDigits 10 d.digits
      let p := d.exponent + digits.length
      String.ofList (sign ++ if layout.lowest ≤ p ∧ p ≤ 16 then positional digits p else scientific digits p)

end FloatLayout

end ChainIndex
