import ChainIndex.Text.Integer
import ChainIndex.Url.Basic

/-!
# Values of options

An option says what kind of value it takes. A text that is no value of the kind is refused, most often
with a reason.
-/

namespace ChainIndex.CommandLine

inductive Value where
  | text (s : String)
  | number (n : Nat)
  | flag (b : Bool)
  | url (u : Url)
  deriving DecidableEq, Repr

inductive Kind where
  | text
  /-- A number of sixty-four bits. -/
  | number
  /-- A number of thirty-two bits, no less than another. -/
  | smallNumber (least : Nat)
  /-- A number of sixty-four bits above zero, with bounds that are told. -/
  | boundedNumber
  /-- A number of sixty-four bits above zero, for sizes. -/
  | size
  | flag
  | url
  deriving DecidableEq, Repr

/-- Why a text is refused; for flags no reason is given. -/
abbrev Refusal := Option String

def notIn (n : Int) (bounds : String) : Refusal := some (s!"{n}" ++ " is not in " ++ bounds)

def readSmall (least : Nat) (s : String) : Except Refusal Value :=
  match Text.readInt64 s with
  | .error e => .error (some e.message)
  | .ok n =>
    if n < least ∨ 4294967295 < n then .error (notIn n (s!"{least}" ++ "..=4294967295")) else .ok (.number n.toNat)

def readNumber (s : String) : Except Refusal Value :=
  match Text.readNat64 s with
  | .error e => .error (some e.message)
  | .ok n => .ok (.number n)

def readBounded (s : String) : Except Refusal Value :=
  match Text.readNat64 s with
  | .error e => .error (some e.message)
  | .ok n => if n = 0 then .error (notIn 0 "1..18446744073709551615") else .ok (.number n)

def readSize (s : String) : Except Refusal Value :=
  match Text.readNat64 s with
  | .error _ => .error (some ("'" ++ s ++ "' is not a valid number"))
  | .ok n => if n = 0 then .error (some "value must be greater than 0") else .ok (.number n)

def readFlag (s : String) : Except Refusal Value :=
  if s = "true" then .ok (.flag true) else if s = "false" then .ok (.flag false) else .error none

def readUrl (s : String) : Except Refusal Value :=
  match Url.parse s with
  | .error e => .error (some e.message)
  | .ok u => .ok (.url u)

/-- Reads a value of a kind. -/
def Kind.read : Kind → String → Except Refusal Value
  | .text, s => .ok (.text s)
  | .number, s => readNumber s
  | .smallNumber least, s => readSmall least s
  | .boundedNumber, s => readBounded s
  | .size, s => readSize s
  | .flag, s => readFlag s
  | .url, s => readUrl s

end ChainIndex.CommandLine
