/-!
# The syntax of JSON texts

A text is cut into tokens, and the tokens are put together by a machine that keeps the containers
that are still open on a stack, so nesting costs no depth of recursion. The tree that results has
its strings and numbers as they are spelled: whether a spelling has a value, and how deep a value
may nest, is the business of whoever reads the tree.
-/

namespace ChainIndex.Json

/-- A number as it is spelled, digit by digit. -/
structure Numeral where
  negative : Bool
  whole : List Nat
  fraction : List Nat
  /-- Whether the exponent is negative, and its digits. -/
  exponent : Option (Bool × List Nat)
  deriving DecidableEq, Repr

/-- A value as it is spelled. Strings and keys are the bytes between their quotes. -/
inductive Syntax where
  | null
  | bool (b : Bool)
  | number (n : Numeral)
  | str (raw : List UInt8)
  | arr (elements : List Syntax)
  | obj (fields : List (List UInt8 × Syntax))

/-! ## Tokens -/

inductive Token where
  | null
  | bool (b : Bool)
  | number (n : Numeral)
  | str (raw : List UInt8)
  | openArray | closeArray | openObject | closeObject | comma | colon
  deriving DecidableEq, Repr

def isSpace (b : UInt8) : Bool := b == 32 || b == 9 || b == 10 || b == 13

def digit? (b : UInt8) : Option Nat :=
  if 48 ≤ b.toNat ∧ b.toNat ≤ 57 then some (b.toNat - 48) else none

def isHex (b : UInt8) : Bool :=
  let n := b.toNat
  (48 ≤ n && n ≤ 57) || (65 ≤ n && n ≤ 70) || (97 ≤ n && n ≤ 102)

/-- The digits at the start of a text and what follows them. -/
def digitsOnto (done : List Nat) : List UInt8 → List Nat × List UInt8
  | [] => (done.reverse, [])
  | b :: rest =>
    match digit? b with
    | some d => digitsOnto (d :: done) rest
    | none => (done.reverse, b :: rest)

def digits (text : List UInt8) : List Nat × List UInt8 := digitsOnto [] text

/-- The exponent at the start of a text, if it starts with one. -/
def exponent? : List UInt8 → Option (Option (Bool × List Nat) × List UInt8)
  | b :: rest =>
    if b = 101 ∨ b = 69 then
      let (negative, rest) :=
        match rest with
        | 45 :: rest => (true, rest)
        | 43 :: rest => (false, rest)
        | rest => (false, rest)
      match digits rest with
      | ([], _) => none
      | (ds, rest) => some (some (negative, ds), rest)
    else
      some (none, b :: rest)
  | [] => some (none, [])

/-- A point and at least one digit, if the text starts with a point. -/
def fraction? : List UInt8 → Option (List Nat × List UInt8)
  | 46 :: rest =>
    match digits rest with
    | ([], _) => none
    | r => some r
  | rest => some ([], rest)

/-- The number at the start of a text, after its sign. No number of two digits starts with zero. -/
def numeral? (negative : Bool) (text : List UInt8) : Option (Numeral × List UInt8) :=
  match digits text with
  | ([], _) => none
  | (0 :: _ :: _, _) => none
  | (whole, rest) => do
    let (fraction, rest) ← fraction? rest
    let (exponent, rest) ← exponent? rest
    some (⟨negative, whole, fraction, exponent⟩, rest)

/-- The raw bytes up to the closing quote. A control character may not stand in a string, and only
the known escapes may follow a backslash. -/
def stringOnto (done : List UInt8) : List UInt8 → Option (List UInt8 × List UInt8)
  | 34 :: rest => some (done.reverse, rest)
  | 92 :: 117 :: a :: b :: c :: d :: rest =>
    if isHex a && isHex b && isHex c && isHex d then
      stringOnto (d :: c :: b :: a :: 117 :: 92 :: done) rest
    else
      none
  | 92 :: e :: rest =>
    if [34, 92, 47, 98, 102, 110, 114, 116].contains e then stringOnto (e :: 92 :: done) rest else none
  | b :: rest => if b < 32 ∨ b = 92 then none else stringOnto (b :: done) rest
  | [] => none

/-- The token at the start of a text that does not start with white space. -/
def token? : List UInt8 → Option (Token × List UInt8)
  | 110 :: 117 :: 108 :: 108 :: rest => some (.null, rest)
  | 116 :: 114 :: 117 :: 101 :: rest => some (.bool true, rest)
  | 102 :: 97 :: 108 :: 115 :: 101 :: rest => some (.bool false, rest)
  | 91 :: rest => some (.openArray, rest)
  | 93 :: rest => some (.closeArray, rest)
  | 123 :: rest => some (.openObject, rest)
  | 125 :: rest => some (.closeObject, rest)
  | 44 :: rest => some (.comma, rest)
  | 58 :: rest => some (.colon, rest)
  | 34 :: rest => (stringOnto [] rest).map fun (raw, rest) => (.str raw, rest)
  | 45 :: rest => (numeral? true rest).map fun (n, rest) => (.number n, rest)
  | text => (numeral? false text).map fun (n, rest) => (.number n, rest)

/-- Cuts a text into tokens. Every token takes a byte at least. -/
def tokensOnto (done : List Token) : (fuel : Nat) → List UInt8 → Option (List Token)
  | 0, text => if text.all isSpace then some done.reverse else none
  | fuel + 1, text =>
    match text.dropWhile isSpace with
    | [] => some done.reverse
    | text =>
      match token? text with
      | none => none
      | some (t, rest) => tokensOnto (t :: done) fuel rest

def tokens (text : List UInt8) : Option (List Token) :=
  tokensOnto [] text.length text

/-! ## Trees -/

/-- A container that is still open, its contents so far with the last first. -/
inductive Frame where
  | array (done : List Syntax)
  | field (done : List (List UInt8 × Syntax)) (key : List UInt8)

/-- What must come next. -/
inductive State where
  | value (stack : List Frame)
  | arrayStart (stack : List Frame)
  | objectStart (stack : List Frame)
  | key (done : List (List UInt8 × Syntax)) (stack : List Frame)
  | colon (done : List (List UInt8 × Syntax)) (key : List UInt8) (stack : List Frame)
  | after (v : Syntax) (stack : List Frame)

/-- Starts a value in the containers of the stack. -/
def startValue (stack : List Frame) : Token → Option State
  | .null => some (.after .null stack)
  | .bool b => some (.after (.bool b) stack)
  | .number n => some (.after (.number n) stack)
  | .str raw => some (.after (.str raw) stack)
  | .openArray => some (.arrayStart stack)
  | .openObject => some (.objectStart stack)
  | _ => none

def step : State → Token → Option State
  | .value stack, t => startValue stack t
  | .arrayStart stack, .closeArray => some (.after (.arr []) stack)
  | .arrayStart stack, t => startValue (.array [] :: stack) t
  | .objectStart stack, .closeObject => some (.after (.obj []) stack)
  | .objectStart stack, .str key => some (.colon [] key stack)
  | .key done stack, .str key => some (.colon done key stack)
  | .colon done key stack, .colon => some (.value (.field done key :: stack))
  | .after v (.array done :: stack), .comma => some (.value (.array (v :: done) :: stack))
  | .after v (.array done :: stack), .closeArray => some (.after (.arr (v :: done).reverse) stack)
  | .after v (.field done key :: stack), .comma => some (.key ((key, v) :: done) stack)
  | .after v (.field done key :: stack), .closeObject => some (.after (.obj ((key, v) :: done).reverse) stack)
  | _, _ => none

def run : State → List Token → Option State
  | s, [] => some s
  | s, t :: rest =>
    match step s t with
    | none => none
    | some s => run s rest

/-- The tree of a text that is one value with white space around it. -/
def Syntax.parse? (text : List UInt8) : Option Syntax := do
  match ← run (.value []) (← tokens text) with
  | .after v [] => some v
  | _ => none

end ChainIndex.Json
