/-!
# Base64 with one spelling per byte string

The standard alphabet, padded to whole quads, with no spare bit set. `encode` writes that spelling
and `decode` accepts nothing else, so a text that is accepted is the text `encode` gives back for
the bytes it stands for.

A refusal names the first offending place. All quads but the last are checked symbol by symbol;
only the last one may hold padding, and its faults are looked for in this order: a symbol out of
place, too few symbols, missing padding, spare bits. One fault is seen before all of these: a text
whose length is one more than whole quads and whose last byte is no symbol.
-/

namespace ChainIndex.Base64

/-! ## Symbols -/

/-- The sign that fills up the last quad. -/
def pad : UInt8 := 61

/-- The symbol of a six bit value: letters, digits, plus, slash. -/
def symbol (v : Nat) : UInt8 :=
  if v < 26 then (65 + v).toUInt8
  else if v < 52 then (71 + v).toUInt8
  else if v < 62 then (v - 4).toUInt8
  else if v = 62 then 43
  else 47

/-- The six bit value of a symbol. -/
def value? (b : UInt8) : Option Nat :=
  let n := b.toNat
  if 65 ≤ n ∧ n ≤ 90 then some (n - 65)
  else if 97 ≤ n ∧ n ≤ 122 then some (n - 71)
  else if 48 ≤ n ∧ n ≤ 57 then some (n + 4)
  else if n = 43 then some 62
  else if n = 47 then some 63
  else none

/-! ## Writing -/

/-- Writes the bytes after what is written already, three bytes to a quad. -/
def encodeOnto (done : Array UInt8) : List UInt8 → Array UInt8
  | [] => done
  | [a] =>
    let x := a.toNat
    done ++ #[symbol (x / 4), symbol (x % 4 * 16), pad, pad]
  | [a, b] =>
    let x := a.toNat
    let y := b.toNat
    done ++ #[symbol (x / 4), symbol (x % 4 * 16 + y / 16), symbol (y % 16 * 4), pad]
  | a :: b :: c :: rest =>
    let x := a.toNat
    let y := b.toNat
    let z := c.toNat
    encodeOnto
      (done ++ #[symbol (x / 4), symbol (x % 4 * 16 + y / 16), symbol (y % 16 * 4 + z / 64), symbol (z % 64)])
      rest

/-- The spelling of a byte string, as ASCII bytes. -/
def encode (bytes : List UInt8) : List UInt8 :=
  (encodeOnto #[] bytes).toList

/-- The spelling of a byte string, as text. -/
def encodeText (bytes : List UInt8) : String :=
  String.ofList ((encode bytes).map fun b => Char.ofNat b.toNat)

/-! ## Reading -/

/-- Why a text is not the spelling of a byte string. Offsets count bytes from its start. -/
inductive Error where
  | invalidSymbol (byte : UInt8) (offset : Nat)
  | invalidLength (length : Nat)
  | invalidPadding
  | invalidLastSymbol (byte : UInt8) (offset : Nat)
  deriving DecidableEq, Repr

def Error.message : Error → String
  | .invalidSymbol byte offset => "Invalid symbol " ++ toString byte.toNat ++ ", offset " ++ toString offset ++ "."
  | .invalidLength length => "Invalid input length: " ++ toString length
  | .invalidPadding => "Invalid padding"
  | .invalidLastSymbol byte offset =>
    "Invalid last symbol " ++ toString byte.toNat ++ ", offset " ++ toString offset ++ "."

/-- The value of the symbol at an offset. -/
def valueAt (offset : Nat) (b : UInt8) : Except Error Nat :=
  match value? b with
  | some v => .ok v
  | none => .error (.invalidSymbol b offset)

/-- The values of the symbols that stand one after another from an offset on. -/
def valuesFrom (offset : Nat) : List UInt8 → Except Error (List Nat)
  | [] => .ok []
  | b :: rest => do
    let v ← valueAt offset b
    let vs ← valuesFrom (offset + 1) rest
    .ok (v :: vs)

/-- The bytes that two, three or four symbols stand for, if they leave no spare bit set. -/
def bytesOf : List Nat → Option (List UInt8)
  | [p, q] => if q % 16 = 0 then some [(p * 4 + q / 16).toUInt8] else none
  | [p, q, r] =>
    if r % 4 = 0 then some [(p * 4 + q / 16).toUInt8, (q % 16 * 16 + r / 4).toUInt8] else none
  | [p, q, r, s] =>
    some [(p * 4 + q / 16).toUInt8, (q % 16 * 16 + r / 4).toUInt8, (r % 4 * 64 + s).toUInt8]
  | _ => none

/-- Reads the last quad, whole or not: symbols, then padding. -/
def decodeLast (offset : Nat) (quad : List UInt8) : Except Error (List UInt8) := do
  let symbols := quad.takeWhile (· ≠ pad)
  let padding := quad.dropWhile (· ≠ pad)
  let values ← valuesFrom offset symbols
  let count := symbols.length
  if padding ≠ [] ∧ (count < 2 ∨ padding.any (· ≠ pad)) then
    .error (.invalidSymbol pad (offset + count))
  else if quad ≠ [] ∧ count < 2 then
    .error (.invalidLength (offset + count))
  else if (count + padding.length) % 4 ≠ 0 then
    .error .invalidPadding
  else if quad = [] then
    .ok []
  else
    match bytesOf values with
    | some bytes => .ok bytes
    | none => .error (.invalidLastSymbol (symbols.getLastD 0) (offset + count - 1))

/-- Reads quads from an offset on. A quad is not the last one while a byte follows it. -/
def decodeFrom (offset : Nat) (done : Array UInt8) : List UInt8 → Except Error (List UInt8)
  | a :: b :: c :: d :: e :: rest =>
    match valuesFrom offset [a, b, c, d] with
    | .error fault => .error fault
    | .ok values => decodeFrom (offset + 4) (done ++ ((bytesOf values).getD []).toArray) (e :: rest)
  | quad =>
    match decodeLast offset quad with
    | .error fault => .error fault
    | .ok bytes => .ok (done.toList ++ bytes)

/-- The bytes that a spelling stands for. -/
def decode (text : List UInt8) : Except Error (List UInt8) :=
  let final := text.getLastD 0
  if text.length % 4 = 1 ∧ final ≠ pad ∧ value? final = none then
    .error (.invalidSymbol final (text.length - 1))
  else
    decodeFrom 0 #[] text

/-- The bytes that a text stands for. -/
def decodeText (text : String) : Except Error (List UInt8) :=
  decode text.toUTF8.toList

end ChainIndex.Base64
