/-!
# Bytes in hexadecimal

Two lower-case digits a byte, the high half first.
-/

namespace ChainIndex.Hex

def digit (n : Nat) : Char :=
  if n < 10 then Char.ofNat (48 + n) else Char.ofNat (87 + n)

def value? (c : Char) : Option Nat :=
  let n := c.toNat
  if 48 ≤ n ∧ n ≤ 57 then some (n - 48)
  else if 97 ≤ n ∧ n ≤ 102 then some (n - 87)
  else none

/-- The two digits of a byte. -/
def digits (b : UInt8) : List Char :=
  [digit (b.toNat / 16), digit (b.toNat % 16)]

def encode (bytes : List UInt8) : String :=
  String.ofList (bytes.flatMap digits)

/-- Reads pairs of digits; `none` when a character is no digit or a digit has no partner. -/
def decodeOnto (done : Array UInt8) : List Char → Option (List UInt8)
  | [] => some done.toList
  | [_] => none
  | high :: low :: rest =>
    match value? high, value? low with
    | some h, some l => decodeOnto (done.push (16 * h + l).toUInt8) rest
    | _, _ => none

def decode? (text : String) : Option (List UInt8) :=
  decodeOnto #[] text.toList

end ChainIndex.Hex
