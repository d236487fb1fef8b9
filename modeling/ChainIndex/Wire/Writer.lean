import ChainIndex.Wire.Fault

/-!
# Writing the wire format

Each writer gives the bytes of one field: a key made of the field's number and layout, then the
value. A field that holds its default is left out.
-/

namespace ChainIndex.Wire.Writer

/-- A number in groups of seven bits, the lowest first; all bytes but the last have the high bit. -/
def varint (n : Nat) : List UInt8 :=
  if n < 128 then [n.toUInt8] else (n % 128 + 128).toUInt8 :: varint (n / 128)
termination_by n

def key (tag : Nat) (wire : WireType) : List UInt8 :=
  varint (tag * 8 + wire.code)

def delimited (tag : Nat) (data : List UInt8) : List UInt8 :=
  key tag .delimited ++ varint data.length ++ data

def int64 (tag : Nat) (n : Int64) : List UInt8 :=
  if n = 0 then [] else key tag .varint ++ varint n.toUInt64.toNat

def bytes (tag : Nat) (data : List UInt8) : List UInt8 :=
  if data = [] then [] else delimited tag data

def text (tag : Nat) (s : String) : List UInt8 :=
  bytes tag s.toUTF8.toList

def texts (tag : Nat) (ss : List String) : List UInt8 :=
  ss.flatMap fun s => delimited tag s.toUTF8.toList

def message? {α : Type} (tag : Nat) (write : α → List UInt8) : Option α → List UInt8
  | none => []
  | some a => delimited tag (write a)

def messages {α : Type} (tag : Nat) (write : α → List UInt8) (as : List α) : List UInt8 :=
  as.flatMap fun a => delimited tag (write a)

end ChainIndex.Wire.Writer
