/-!
# Bech32

A byte string written as a readable part, the separator `1`, its bits in groups of five as letters
and digits that are hard to confuse, and six more such symbols that make the whole word divisible
by a fixed polynomial. Regrouping loses nothing when the number of bits is a multiple of five,
as it is for the twenty bytes of an account address.
-/

namespace ChainIndex.Bech32

/-! ## Bits -/

/-- The lowest `width` bits of a number, the highest first. -/
def bitsOf (width n : Nat) : List Bool :=
  match width with
  | 0 => []
  | width + 1 => (n / Nat.pow 2 width % 2 == 1) :: bitsOf width n

/-- The number that bits stand for, the highest first. -/
def ofBits (bits : List Bool) : Nat :=
  bits.foldl (fun n b => 2 * n + b.toNat) 0

/-- Cuts bits into groups of five, the last filled up with zeros. -/
def quintets : List Bool → List Nat
  | a :: b :: c :: d :: e :: rest => ofBits [a, b, c, d, e] :: quintets rest
  | [] => []
  | bits => [ofBits (bits ++ List.replicate (5 - bits.length) false)]

/-- The data symbols of a byte string. -/
def groups (data : List UInt8) : List Nat :=
  quintets (data.flatMap fun b => bitsOf 8 b.toNat)

/-- Cuts bits into bytes; bits that fill no byte are left out. -/
def octets : List Bool → List UInt8
  | a :: b :: c :: d :: e :: f :: g :: h :: rest => (ofBits [a, b, c, d, e, f, g, h]).toUInt8 :: octets rest
  | _ => []

/-- The byte string that data symbols carry. -/
def ungroup (symbols : List Nat) : List UInt8 :=
  octets (symbols.flatMap (bitsOf 5))

/-! ## The checksum -/

/-- One division step: shifts a symbol into the thirty bit remainder. -/
def step (chk : Nat) (symbol : Nat) : Nat :=
  let top := chk / 33554432
  let next := (chk % 33554432 * 32) ^^^ symbol
  [0x3b6a57b2, 0x26508e6d, 0x1ea119fa, 0x3d4233dd, 0x2a1462b3].zipIdx.foldl
    (fun c (g, i) => if top / Nat.pow 2 i % 2 = 1 then c ^^^ g else c) next

/-- The remainder of a word of symbols. -/
def remainder (symbols : List Nat) : Nat :=
  symbols.foldl step 1

/-- The readable part as symbols: high halves, a zero, low halves. -/
def expand (hrp : String) : List Nat :=
  hrp.toList.map (·.toNat / 32) ++ 0 :: hrp.toList.map (·.toNat % 32)

/-- The six symbols that close a word. -/
def checksum (hrp : String) (data : List Nat) : List Nat :=
  let r := remainder (expand hrp ++ data ++ List.replicate 6 0) ^^^ 1
  (List.range 6).map fun i => r / Nat.pow 32 (5 - i) % 32

/-- A word of data symbols that ends in its checksum. -/
def Verifies (hrp : String) (word : List Nat) : Prop :=
  remainder (expand hrp ++ word) = 1

instance (hrp : String) (word : List Nat) : Decidable (Verifies hrp word) :=
  inferInstanceAs (Decidable (_ = _))

/-! ## Text -/

def alphabet : List Char :=
  "qpzry9x8gf2tvdw0s3jn54khce6mua7l".toList

def letter (symbol : Nat) : Char :=
  alphabet.getD symbol 'q'

/-- The longest word that the checksum is meant for. -/
def maxLength : Nat := 1023

inductive Error where
  | tooLong
  deriving DecidableEq, Repr

def Error.message : Error → String
  | .tooLong => "encode error"

/-- Writes a byte string under a readable part. -/
def encode (hrp : String) (data : List UInt8) : Except Error String :=
  let symbols := groups data
  if maxLength < hrp.length + 1 + symbols.length + 6 then
    .error .tooLong
  else
    .ok (String.ofList (hrp.toList ++ '1' :: (symbols ++ checksum hrp symbols).map letter))

end ChainIndex.Bech32
