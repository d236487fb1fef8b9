import ChainIndex.Wire.Fault
import ChainIndex.Wire.Buffer

/-!
# Reading the wire format

A message is a run of fields, each a key and a value. A reader is given the value read so far and
the next key, and merges the field's value into it; `fieldsUntil` repeats this up to a given number
of unread bytes. So a field that occurs twice is merged twice, and what that means is up to the
field: a scalar is replaced, a list grows, a message inside is merged field by field.

Declared lengths are held against everything that is unread, not against the end of the message
around them. A message that reads past its own end is noticed once the field that did so is read.
-/

namespace ChainIndex.Wire

/-! ## Numbers and keys -/

/-- A number in groups of seven bits, the lowest first, in at most `budget` bytes. Of ten bytes the
last may only hold one bit, so a number fits sixty-four. -/
def varintWithin : (budget : Nat) → Buffer → Option (Nat × Buffer)
  | 0, _ => none
  | budget + 1, b =>
    match b.next? with
    | none => none
    | some (x, rest) =>
      if x.toNat < 128 then
        if budget = 0 ∧ 2 ≤ x.toNat then none else some (x.toNat, rest)
      else
        match varintWithin budget rest with
        | none => none
        | some (n, rest) => some (x.toNat - 128 + 128 * n, rest)

def varint (b : Buffer) : Except Fault (Nat × Buffer) :=
  match varintWithin 10 b with
  | some r => .ok r
  | none => .error .invalidVarint

/-- The key of a field: its number and the layout of its value. -/
structure Key where
  tag : Nat
  wire : WireType
  deriving DecidableEq, Repr

def key (b : Buffer) : Except Fault (Key × Buffer) := do
  let (n, b) ← varint b
  if UInt32.size ≤ n then
    .error (.keyTooLarge n)
  else
    match WireType.ofCode? (n % 8) with
    | none => .error (.unknownWireType (n % 8))
    | some wire => if n / 8 = 0 then .error .zeroTag else .ok (⟨n / 8, wire⟩, b)

/-! ## Values -/

def expect (wire expected : WireType) : Except Fault Unit :=
  if wire = expected then .ok () else .error (.unexpectedWireType wire expected)

/-- As many bytes as a declared length says. -/
def takeBytes (n : Nat) (b : Buffer) : Except Fault (List UInt8 × Buffer) :=
  match b.take? n with
  | some r => .ok r
  | none => .error .underflow

/-- A signed number: sixty-four bits in two's complement. -/
def int64 (wire : WireType) (b : Buffer) : Except Fault (Int64 × Buffer) := do
  expect wire .varint
  let (n, b) ← varint b
  .ok (n.toUInt64.toInt64, b)

def bytes (wire : WireType) (b : Buffer) : Except Fault (List UInt8 × Buffer) := do
  expect wire .delimited
  let (n, b) ← varint b
  takeBytes n b

def text (wire : WireType) (b : Buffer) : Except Fault (String × Buffer) := do
  let (data, b) ← bytes wire b
  match String.fromUTF8? ⟨data.toArray⟩ with
  | some s => .ok (s, b)
  | none => .error .notUtf8

/-! ## Fields that the reader does not know -/

/-- Skips the fields of a group up to the end that bears the group's number. -/
def skipGroup (skip : Key → Buffer → Except Fault Buffer) (tag : Nat) : (fuel : Nat) → Buffer → Except Fault Buffer
  | 0, _ => .error .invalidVarint
  | fuel + 1, b => do
    let (k, b) ← key b
    if k.wire = .endGroup then
      if k.tag = tag then .ok b else .error .strayEndGroup
    else
      let b ← skip k b
      skipGroup skip tag fuel b

/-- Skips a value, with `depth` more levels allowed. A group takes one key more than it has unread
bytes, so the number of bytes bounds the fields in it. -/
def skipValue : (depth : Nat) → Key → Buffer → Except Fault Buffer
  | 0, _, _ => .error .tooDeep
  | depth + 1, k, b =>
    match k.wire with
    | .varint => do
      let (_, b) ← varint b
      .ok b
    | .fixed64 => (·.2) <$> takeBytes 8 b
    | .fixed32 => (·.2) <$> takeBytes 4 b
    | .delimited => do
      let (n, b) ← varint b
      (·.2) <$> takeBytes n b
    | .startGroup => skipGroup (skipValue depth) k.tag (b.size + 1) b
    | .endGroup => .error .strayEndGroup

/-! ## Messages -/

/-- Merges the value of one field, whose key is read, into what is read so far. -/
abbrev FieldReader (α : Type) := (depth : Nat) → Key → α → Buffer → Except Error (α × Buffer)

/-- A fault that is met outside any field of the message being read. -/
def bare {α : Type} : Except Fault α → Except Error α
  | .ok a => .ok a
  | .error fault => .error { fault }

/-- Names the field in which a fault was met. -/
def inField {α : Type} (message field : String) : Except Error α → Except Error α
  | .ok a => .ok a
  | .error e => .error (e.within ⟨message, field⟩)

/-- Reads the value of a named field and puts it into the message. -/
def assign {α γ : Type} (message field : String) (read : Except Fault (γ × Buffer)) (put : γ → α) :
    Except Error (α × Buffer) := do
  let (v, b) ← inField message field (bare read)
  .ok (put v, b)

/-- Leaves the message as it is and passes over a field that it has no place for. -/
def passOver {α : Type} (depth : Nat) (k : Key) (a : α) (b : Buffer) : Except Error (α × Buffer) := do
  let b ← bare (skipValue depth k b)
  .ok (a, b)

/-- Reads fields until `limit` bytes are unread. Every field takes a byte at least, so the number of
unread bytes bounds the rounds. -/
def fieldsUntil {α : Type} (read : FieldReader α) (depth limit : Nat) :
    (fuel : Nat) → α → Buffer → Except Error (α × Buffer)
  | 0, a, b => if b.size = limit then .ok (a, b) else .error { fault := .lengthExceeded }
  | fuel + 1, a, b =>
    if limit < b.size then
      match bare (key b) with
      | .error e => .error e
      | .ok (k, b) =>
        match read depth k a b with
        | .error e => .error e
        | .ok (a, b) => fieldsUntil read depth limit fuel a b
    else if b.size = limit then
      .ok (a, b)
    else
      .error { fault := .lengthExceeded }

/-- A message inside a message, merged into `a`. -/
def message {α : Type} (read : FieldReader α) (depth : Nat) (wire : WireType) (a : α) (b : Buffer) :
    Except Error (α × Buffer) := do
  bare (expect wire .delimited)
  match depth with
  | 0 => .error { fault := .tooDeep }
  | depth + 1 =>
    let (n, b) ← bare (varint b)
    if b.size < n then
      .error { fault := .underflow }
    else
      fieldsUntil read depth (b.size - n) b.size a b

/-- Messages and groups may stand in one another this deep. -/
def maxDepth : Nat := 100

/-- Reads a whole buffer as one message. -/
def decode {α : Type} (read : FieldReader α) (empty : α) (data : List UInt8) : Except Error α := do
  let b := Buffer.ofList data
  let (a, _) ← fieldsUntil read maxDepth 0 b.size empty b
  .ok a

end ChainIndex.Wire
