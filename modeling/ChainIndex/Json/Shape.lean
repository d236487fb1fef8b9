import ChainIndex.Json.Value
import ChainIndex.Number.Bound
import ChainIndex.Text.Integer

/-!
# Shapes

A shape reads what it knows of a tree and leaves the rest unread. What is left unread has to be well
formed, but no more: it may nest as deep as it likes, and its numbers and texts need not have values.

A structure stands as an object, whose known fields may come in any order but each only once, or as an
array of its known fields in order. A field that is not there takes its usual value if it has one.
-/

namespace ChainIndex.Json

/-- A reader of trees; `depth` is how many containers may stand in one another in what is read. -/
abbrev Shape (α : Type) := (depth : Nat) → Syntax → Option α

namespace Shape

variable {α β : Type}

/-- Any value, read whole. -/
def value : Shape Json := ofSyntax?

def text : Shape String
  | _, .str raw => textOf? raw
  | _, _ => none

def unit : Shape Unit := fun _ _ => some ()

/-- Null, or something of a shape. -/
def nullable (shape : Shape α) : Shape (Option α)
  | _, .null => some none
  | depth, j => some <$> shape depth j

/-- Something of a shape, and `usual` in place of null. -/
def nullAs (usual : α) (shape : Shape α) : Shape α := fun depth j =>
  (nullable shape depth j).map (·.getD usual)

def list (shape : Shape α) : Shape (List α)
  | depth + 1, .arr elements => elements.mapM (shape depth)
  | _, _ => none

def map? (f : α → Option β) (shape : Shape α) : Shape β := fun depth j => shape depth j >>= f

/-- An integer of sixty-four bits with a sign, if a number is one. -/
def wholeNumber? (n : Numeral) : Option Int :=
  match n.value? with
  | some (.int i) => if -signedBound ≤ i ∧ i < signedBound then some i else none
  | _ => none

/-- An integer with a sign, as a number or as a text. -/
def int64 : Shape Int64
  | _, .number n => Int64.ofInt <$> wholeNumber? n
  | _, .str raw => do Int64.ofInt <$> (Text.readInt64 (← textOf? raw)).toOption
  | _, _ => none

/-- An integer without a sign, as a number or as a text. -/
def word64 : Shape UInt64
  | _, .number n => do
    let i ← wholeNumber? n
    if 0 ≤ i then some i.toNat.toUInt64 else none
  | _, .str raw => do Nat.toUInt64 <$> (Text.readNat64 (← textOf? raw)).toOption
  | _, _ => none

end Shape

/-! ## Structures -/

/-- The known fields of a structure as they were found. -/
structure Members where
  depth : Nat
  /-- Whether the structure stands as an array. -/
  positional : Bool
  found : List (String × Syntax)

/-- The known fields of an object, each at most once. -/
def knownFields (names : List String) : List (List UInt8 × Syntax) → Option (List (String × Syntax))
  | [] => some []
  | (raw, v) :: rest => do
    let key ← textOf? raw
    let later ← knownFields names rest
    if !names.contains key then some later
    else if (later.lookup key).isSome then none
    else some ((key, v) :: later)

/-- Finds the known fields of a structure. -/
def members (names : List String) : Shape Members
  | depth + 1, .obj fields => do
    let found ← knownFields names fields
    some ⟨depth, false, found⟩
  | depth + 1, .arr elements =>
    if names.length < elements.length then none else some ⟨depth, true, names.zip elements⟩
  | _, _ => none

namespace Members

variable {α : Type}

/-- A field that has to be there. -/
def need (m : Members) (name : String) (shape : Shape α) : Option α := do
  shape m.depth (← m.found.lookup name)

/-- A field with a usual value. -/
def getOr (m : Members) (name : String) (usual : α) (shape : Shape α) : Option α :=
  match m.found.lookup name with
  | some j => shape m.depth j
  | none => some usual

/-- A field that may be null, or absent from an object. -/
def optional (m : Members) (name : String) (shape : Shape α) : Option (Option α) :=
  match m.found.lookup name with
  | some j => Shape.nullable shape m.depth j
  | none => if m.positional then none else some none

end Members

end ChainIndex.Json
