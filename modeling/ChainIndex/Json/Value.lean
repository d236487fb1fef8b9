import ChainIndex.Json.Syntax
import ChainIndex.Number.Bound
import ChainIndex.Number.Shortest

/-!
# JSON values

A value that is read has numbers and texts in place of their spellings, and its objects have each key
once, in byte order, with the last value that the text gave it. `Json.parse?` reads a text and
`Json.render` writes a value without white space.

An integer that fits sixty-four bits stays exact; every other number becomes a double, from as many
leading digits as fit sixty-four bits and one scaling by a power of ten.
-/

namespace ChainIndex

inductive Json where
  | null
  | bool (b : Bool)
  | int (n : Int)
  /-- A double, by its bits. -/
  | float (bits : UInt64)
  | str (s : String)
  | arr (elements : List Json)
  | obj (fields : List (String × Json))
  deriving Inhabited

namespace Json

/-! ## Numbers -/

/-- The value `± significand · 10 ^ exponent`, scaled in steps that a double can hold. -/
def scaled (negative : Bool) (significand : Float) : (fuel : Nat) → (exponent : Int) → Option UInt64
  | 0, _ => none
  | fuel + 1, exponent =>
    let sign (f : Float) := if negative then -f else f
    if 308 < exponent.natAbs then
      if significand == 0 then some (sign significand).toBits
      else if 0 ≤ exponent then none
      else scaled negative (significand / 1e308) fuel (exponent + 308)
    else
      let power := Float.ofScientific 1 false exponent.natAbs
      let f := if 0 ≤ exponent then significand * power else significand / power
      if f.isInf then none else some (sign f).toBits

/-- Adds digits to a number while it fits sixty-four bits; gives it and the digits left over. -/
def accumulate (n : Nat) : List Nat → Nat × List Nat
  | [] => (n, [])
  | d :: rest => if n * 10 + d < UInt64.size then accumulate (n * 10 + d) rest else (n, d :: rest)

/-- The value of a number as it is spelled; `none` when it is beyond all doubles. -/
def Numeral.value? (n : Numeral) : Option Json :=
  let (significand, dropped) := accumulate 0 n.whole
  if n.fraction = [] ∧ n.exponent = none ∧ dropped = [] ∧
      (!n.negative ∨ (significand ≠ 0 ∧ significand ≤ signedBound)) then
    some (.int (if n.negative then -significand else significand))
  else
    let (significand, tail) := accumulate significand n.fraction
    let exponent : Int := dropped.length - (n.fraction.length - tail.length : Nat)
    let float := (scaled n.negative significand.toUInt64.toFloat 8 ·)
    Json.float <$>
      match n.exponent with
      | none => float exponent
      | some (below, ds) =>
        let e : Int := Int.ofNat (ds.foldl (fun e d => e * 10 + d) 0)
        if e < 2147483648 then
          float (if below then exponent - e else exponent + e)
        else if significand ≠ 0 ∧ !below then
          none
        else
          some (if n.negative then (-0.0 : Float) else 0.0).toBits

/-! ## Texts -/

def hexValue (b : UInt8) : Nat :=
  let n := b.toNat
  if n ≤ 57 then n - 48 else if n ≤ 70 then n - 55 else n - 87

def hexWord (a b c d : UInt8) : Nat :=
  ((hexValue a * 16 + hexValue b) * 16 + hexValue c) * 16 + hexValue d

/-- The byte that a one-letter escape stands for. -/
def escaped (e : UInt8) : UInt8 :=
  match e with
  | 98 => 8
  | 102 => 12
  | 110 => 10
  | 114 => 13
  | 116 => 9
  | e => e

def utf8 (n : Nat) : List UInt8 := (String.singleton (Char.ofNat n)).toUTF8.toList

/-- The bytes that a raw string stands for. Half of a surrogate pair stands for nothing. -/
def unescapeOnto (done : Array UInt8) : List UInt8 → Option (List UInt8)
  | 92 :: 117 :: a :: b :: c :: d :: 92 :: 117 :: e :: f :: g :: h :: rest =>
    let high := hexWord a b c d
    let low := hexWord e f g h
    if 0xD800 ≤ high ∧ high < 0xDC00 then
      if 0xDC00 ≤ low ∧ low < 0xE000 then
        unescapeOnto (done ++ (utf8 (0x10000 + (high - 0xD800) * 1024 + (low - 0xDC00))).toArray) rest
      else
        none
    else if 0xDC00 ≤ high ∧ high < 0xE000 then
      none
    else
      unescapeOnto (done ++ (utf8 high).toArray) (92 :: 117 :: e :: f :: g :: h :: rest)
  | 92 :: 117 :: a :: b :: c :: d :: rest =>
    let n := hexWord a b c d
    if 0xD800 ≤ n ∧ n < 0xE000 then none else unescapeOnto (done ++ (utf8 n).toArray) rest
  | 92 :: e :: rest => unescapeOnto (done.push (escaped e)) rest
  | b :: rest => unescapeOnto (done.push b) rest
  | [] => some done.toList
termination_by raw => raw.length

/-- The text of a raw string. -/
def textOf? (raw : List UInt8) : Option String := do
  String.fromUTF8? ⟨(← unescapeOnto #[] raw).toArray⟩

/-! ## Values -/

/-- Puts a field into fields that are in byte order of their keys, in place of one with its key. -/
def insertField (key : String) (v : Json) : List (String × Json) → List (String × Json)
  | [] => [(key, v)]
  | (k, w) :: rest =>
    if key = k then (key, v) :: rest
    else if key < k then (key, v) :: (k, w) :: rest
    else (k, w) :: insertField key v rest

/-- An object from its fields, in the order in which they are given. -/
def ofFields (fields : List (String × Json)) : Json :=
  .obj (fields.foldl (fun done (k, v) => insertField k v done) [])

/-- The value of a tree with at most `depth` containers inside one another. -/
def ofSyntax? : (depth : Nat) → Syntax → Option Json
  | _, .null => some .null
  | _, .bool b => some (.bool b)
  | _, .number n => n.value?
  | _, .str raw => .str <$> textOf? raw
  | 0, .arr _ => none
  | 0, .obj _ => none
  | depth + 1, .arr elements => .arr <$> elements.mapM (ofSyntax? depth)
  | depth + 1, .obj fields =>
    ofFields <$> fields.mapM fun (raw, v) => do
      let key ← textOf? raw
      let v ← ofSyntax? depth v
      some (key, v)

/-- Containers may stand in one another this deep. -/
def maxDepth : Nat := 127

/-- The value of a text. -/
def parse? (text : String) : Option Json := do
  ofSyntax? maxDepth (← Syntax.parse? text.toUTF8.toList)

/-! ## Writing -/

def lowHex (n : Nat) : Char :=
  if n < 10 then Char.ofNat (48 + n) else Char.ofNat (87 + n)

/-- A character as it stands in a string: quotes, backslashes and control characters are escaped. -/
def escape (c : Char) : List Char :=
  match c.toNat with
  | 34 => ['\\', '"']
  | 92 => ['\\', '\\']
  | 8 => ['\\', 'b']
  | 12 => ['\\', 'f']
  | 10 => ['\\', 'n']
  | 13 => ['\\', 'r']
  | 9 => ['\\', 't']
  | n => if n < 32 then ['\\', 'u', '0', '0', lowHex (n / 16), lowHex (n % 16)] else [c]

def quote (s : String) : String :=
  String.ofList ('"' :: s.toList.flatMap escape ++ ['"'])

/-- Doubles between `1e-5` and `1e16` are written out. A value that is no number has no spelling and
is written as null. -/
def floatLayout : FloatLayout := ⟨-4, "null", "null"⟩

def writeFloat (bits : UInt64) : String :=
  match Binary64.ofBits bits with
  | .finite .. => floatLayout.write bits
  | _ => "null"

mutual

/-- Writes a value after what is written already. -/
def renderOnto (out : String) : Json → String
  | .null => out ++ "null"
  | .bool b => out ++ if b then "true" else "false"
  | .int n => out ++ toString n
  | .float bits => out ++ writeFloat bits
  | .str s => out ++ quote s
  | .arr [] => out ++ "[]"
  | .arr (v :: rest) => renderElements (renderOnto (out ++ "[") v) rest
  | .obj [] => (out.push '\x7b').push '\x7d'
  | .obj ((k, v) :: rest) => renderFields (renderOnto (out.push '\x7b' ++ quote k ++ ":") v) rest

def renderElements (out : String) : List Json → String
  | [] => out ++ "]"
  | v :: rest => renderElements (renderOnto (out ++ ",") v) rest

def renderFields (out : String) : List (String × Json) → String
  | [] => out.push '\x7d'
  | (k, v) :: rest => renderFields (renderOnto (out ++ "," ++ quote k ++ ":") v) rest

end

/-- Writes a value in as few characters as its contents allow. -/
def render (j : Json) : String := renderOnto "" j


/-! ## Parts -/

/-- The value of a field; an absent field is null. -/
def field (j : Json) (name : String) : Json :=
  match j with
  | .obj fields => (fields.lookup name).getD .null
  | _ => .null

def has (j : Json) (name : String) : Bool :=
  match j with
  | .obj fields => (fields.lookup name).isSome
  | _ => false

def text (j : Json) : String :=
  match j with
  | .str s => s
  | _ => ""

def text? (j : Json) : Option String :=
  match j with
  | .str s => some s
  | _ => none

def number (j : Json) : Int :=
  match j with
  | .int n => n
  | _ => 0

def nat (j : Json) : Nat := j.number.toNat

def flag (j : Json) : Bool :=
  match j with
  | .bool b => b
  | _ => false

def items (j : Json) : List Json :=
  match j with
  | .arr elements => elements
  | _ => []

def entries (j : Json) : List (String × Json) :=
  match j with
  | .obj fields => fields
  | _ => []

def isNull (j : Json) : Bool :=
  match j with
  | .null => true
  | _ => false

end Json

end ChainIndex
