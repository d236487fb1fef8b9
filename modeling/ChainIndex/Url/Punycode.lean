/-!
# Labels beyond ASCII

A label of a domain name with characters beyond ASCII is written with ASCII letters and digits: its
ASCII characters, then, for every other character in order of code points, how far to count on until
its place and value are reached. The counts are written to a base that adapts as they grow.
-/

namespace ChainIndex.Url.Punycode

def letter (d : Nat) : Char := if d < 26 then Char.ofNat (97 + d) else Char.ofNat (22 + d)

/-- The digit that a small letter or a figure stands for. -/
def digit? (c : Char) : Option Nat :=
  if c.isLower then some (c.toNat - 97) else if c.isDigit then some (c.toNat - 22) else none

/-- Which digits end a count at a place: those below this. -/
def threshold (bias k : Nat) : Nat := if k ≤ bias then 1 else if bias + 26 ≤ k then 26 else k - bias

theorem one_le_threshold (bias k : Nat) : 1 ≤ threshold bias k := by
  unfold threshold
  split
  · omega
  · split <;> omega

/-- Halves the skew of a count until it is small. -/
def adaptFrom (delta k : Nat) : Nat :=
  if 455 < delta then adaptFrom (delta / 35) (k + 36) else k + 36 * delta / (delta + 38)
termination_by delta
decreasing_by omega

/-- The bias for the next count. -/
def adapt (delta points : Nat) (first : Bool) : Nat :=
  let delta := if first then delta / 700 else delta / 2
  adaptFrom (delta + delta / points) 0

/-! ## Writing -/

/-- Writes a count, its low digits first. -/
def writeCount (bias q k : Nat) : List Char :=
  let t := threshold bias k
  if q < t then [letter q] else letter (t + (q - t) % (36 - t)) :: writeCount bias ((q - t) / (36 - t)) (k + 36)
termination_by q
decreasing_by
  have := one_le_threshold bias k
  calc (q - threshold bias k) / (36 - threshold bias k) ≤ q - threshold bias k := Nat.div_le_self _ _
    _ < q := by omega

/-- What is written for the characters with code point `n`. -/
def writePoint (n basic : Nat) : List Nat → (out : List Char) → (delta bias handled : Nat) → List Char × Nat × Nat × Nat
  | [], out, delta, bias, handled => (out, delta, bias, handled)
  | c :: rest, out, delta, bias, handled =>
    if c < n then writePoint n basic rest out (delta + 1) bias handled
    else if c = n then
      writePoint n basic rest (out ++ writeCount bias delta 36) 0 (adapt delta (handled + 1) (handled = basic))
        (handled + 1)
    else writePoint n basic rest out delta bias handled

/-- Writes the characters beyond ASCII, by code point. `points` holds those that are left. -/
def writePoints (all : List Nat) (basic : Nat) :
    (points : List Nat) → (n delta bias handled : Nat) → (out : List Char) → List Char
  | [], _, _, _, _, out => out
  | m :: points, n, delta, bias, handled, out =>
    let (out, delta, bias, handled) := writePoint m basic all out (delta + (m - n) * (handled + 1)) bias handled
    writePoints all basic points (m + 1) (delta + 1) bias handled out

/-- A label in ASCII, without the mark in front of it. -/
def encode (label : List Char) : List Char :=
  let ascii := label.filter (·.toNat < 128)
  let beyond := ((label.filter (128 ≤ ·.toNat)).map Char.toNat).mergeSort.eraseDups
  let out := if ascii.isEmpty then [] else ascii ++ ['-']
  writePoints (label.map Char.toNat) ascii.length beyond 128 0 72 ascii.length out

/-! ## Reading -/

/-- What is read of a label. -/
structure Reading where
  /-- The characters so far. -/
  out : List Char
  /-- The code point of the last one beyond ASCII. -/
  point : Nat := 128
  bias : Nat := 72
  /-- The count, and what it was before its first digit. -/
  count : Nat := 0
  before : Nat := 0
  /-- The weight and the place of the next digit. -/
  weight : Nat := 1
  place : Nat := 36
  deriving DecidableEq, Repr

/-- Puts in the character that a count leads to; `none` if there is no such character. -/
def Reading.insert (r : Reading) : Option Reading :=
  let slots := r.out.length + 1
  let point := r.point + r.count / slots
  let slot := r.count % slots
  if point.isValidChar then
    let bias := adapt (r.count - r.before) slots (r.before = 0)
    some { out := r.out.insertIdx slot (Char.ofNat point), point, bias, count := slot + 1, before := slot + 1 }
  else none

/-- Reads a digit. Counts and weights have thirty-two bits. -/
def Reading.digit (r : Reading) (c : Char) : Option Reading := do
  let d ← digit? c
  let r := { r with count := r.count + d * r.weight }
  let t := threshold r.bias r.place
  if UInt32.size ≤ r.count then none
  else if d < t then r.insert
  else
    let r := { r with weight := r.weight * (36 - t), place := r.place + 36 }
    if UInt32.size ≤ r.weight then none else some r

/-- The label that is written so in ASCII, without the mark in front of it. The last hyphen ends its
ASCII characters, of which there is one at least. -/
def decode (written : List Char) : Option (List Char) := do
  let (ascii, digits) ←
    match written.reverse.span (· ≠ '-') with
    | (back, []) => some ([], back.reverse)
    | (_, ['-']) => none
    | (back, _ :: front) => some (front.reverse, back.reverse)
  let r ← digits.foldlM Reading.digit { out := ascii }
  if r.place = 36 then some r.out else none

end ChainIndex.Url.Punycode
