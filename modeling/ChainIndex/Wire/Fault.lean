/-!
# Faults of the wire format

What can be wrong with bytes that should hold a message, and where: a fault carries the fields it
was met in, the innermost first.
-/

namespace ChainIndex.Wire

/-- How the value of a field is laid out. -/
inductive WireType where
  | varint | fixed64 | delimited | startGroup | endGroup | fixed32
  deriving DecidableEq, Repr

def WireType.name : WireType → String
  | .varint => "Varint"
  | .fixed64 => "SixtyFourBit"
  | .delimited => "LengthDelimited"
  | .startGroup => "StartGroup"
  | .endGroup => "EndGroup"
  | .fixed32 => "ThirtyTwoBit"

/-- The number of a layout in the low three bits of a key. -/
def WireType.code : WireType → Nat
  | .varint => 0
  | .fixed64 => 1
  | .delimited => 2
  | .startGroup => 3
  | .endGroup => 4
  | .fixed32 => 5

def WireType.ofCode? : Nat → Option WireType
  | 0 => some .varint
  | 1 => some .fixed64
  | 2 => some .delimited
  | 3 => some .startGroup
  | 4 => some .endGroup
  | 5 => some .fixed32
  | _ => none

@[simp] theorem WireType.ofCode?_code (w : WireType) : WireType.ofCode? w.code = some w := by
  cases w <;> rfl

/-- What is wrong with the bytes. -/
inductive Fault where
  | invalidVarint
  | keyTooLarge (key : Nat)
  | unknownWireType (code : Nat)
  | zeroTag
  | unexpectedWireType (found expected : WireType)
  | underflow
  | lengthExceeded
  | notUtf8
  | strayEndGroup
  | tooDeep
  deriving DecidableEq, Repr

def Fault.message : Fault → String
  | .invalidVarint => "invalid varint"
  | .keyTooLarge key => "invalid key value: " ++ toString key
  | .unknownWireType code => "invalid wire type value: " ++ toString code
  | .zeroTag => "invalid tag value: 0"
  | .unexpectedWireType found expected =>
    "invalid wire type: " ++ found.name ++ " (expected " ++ expected.name ++ ")"
  | .underflow => "buffer underflow"
  | .lengthExceeded => "delimited length exceeded"
  | .notUtf8 => "invalid string value: data is not UTF-8 encoded"
  | .strayEndGroup => "unexpected end group tag"
  | .tooDeep => "recursion limit reached"

/-- A field of a message, by the names of both. -/
structure FieldName where
  message : String
  field : String
  deriving DecidableEq, Repr

/-- A fault and the fields around it, the innermost first. -/
structure Error where
  fault : Fault
  path : List FieldName := []
  deriving DecidableEq, Repr

def Error.message (e : Error) : String :=
  "failed to decode Protobuf message: " ++
    String.join (e.path.map fun f => f.message ++ "." ++ f.field ++ ": ") ++ e.fault.message

/-- The same fault, seen from the field that holds the place where it was met. -/
def Error.within (e : Error) (name : FieldName) : Error :=
  { e with path := e.path ++ [name] }

end ChainIndex.Wire
