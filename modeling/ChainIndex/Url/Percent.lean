/-!
# Percent encoding

A byte is written as a percent sign and two capital hexadecimal digits. Which characters have to be
written so hangs on the part of a URL that they stand in; control characters and those beyond ASCII are
always.
-/

namespace ChainIndex.Url

/-- The part of a URL that a character stands in. -/
inductive Part where
  | verbatim | fragment | path | userinfo | query | specialQuery
  deriving DecidableEq, Repr

/-- The printing characters that have to be encoded in a part. -/
def Part.reserved : Part → String
  | .verbatim => ""
  | .fragment => " \"<>`"
  | .path => " \"<>`#?\x7b\x7d"
  | .userinfo => " \"<>`#?\x7b\x7d/:;=@[\\]^|"
  | .query => " \"#<>"
  | .specialQuery => " \"#<>'"

def highHex (n : Nat) : Char := if n < 10 then Char.ofNat (48 + n) else Char.ofNat (55 + n)

def encodeByte (b : UInt8) : List Char := ['%', highHex (b.toNat / 16), highHex (b.toNat % 16)]

/-- A character as it is written in a part. -/
def encodeChar (part : Part) (c : Char) : List Char :=
  if c.toNat < 32 ∨ 127 ≤ c.toNat ∨ part.reserved.contains c then
    (String.singleton c).toUTF8.toList.flatMap encodeByte
  else
    [c]

def encodeIn (part : Part) (cs : List Char) : String := String.ofList (cs.flatMap (encodeChar part))

def hexValue? (c : Char) : Option Nat :=
  let n := c.toNat
  if 48 ≤ n ∧ n ≤ 57 then some (n - 48)
  else if 65 ≤ n ∧ n ≤ 70 then some (n - 55)
  else if 97 ≤ n ∧ n ≤ 102 then some (n - 87)
  else none

/-- The bytes that a text stands for. A percent sign without two digits stands for itself. -/
def percentDecode : List Char → List UInt8
  | '%' :: a :: b :: rest =>
    match hexValue? a, hexValue? b with
    | some h, some l => (16 * h + l).toUInt8 :: percentDecode rest
    | _, _ => 37 :: percentDecode (a :: b :: rest)
  | c :: rest => (String.singleton c).toUTF8.toList ++ percentDecode rest
  | [] => []
termination_by cs => cs.length

end ChainIndex.Url
