import ChainIndex.Number.Bound

/-!
# Reading integers

An integer is a sign and decimal digits, at least one, and nothing else. A sign may be left out, and a
minus sign is taken only where negative numbers are. What is read stops at the first fault: a character
that is no digit, or a digit that takes the number out of bounds.
-/

namespace ChainIndex.Text

inductive IntegerFault where
  | empty | invalidDigit | tooLarge | tooSmall
  deriving DecidableEq, Repr

def IntegerFault.message : IntegerFault → String
  | .empty => "cannot parse integer from empty string"
  | .invalidDigit => "invalid digit found in string"
  | .tooLarge => "number too large to fit in target type"
  | .tooSmall => "number too small to fit in target type"

/-- Reads digits after a number, which must stay within a limit. -/
def readDigits (limit : Nat) (beyond : IntegerFault) : (n : Nat) → List Char → Except IntegerFault Nat
  | n, [] => .ok n
  | n, c :: rest =>
    if !c.isDigit then .error .invalidDigit
    else
      let n := n * 10 + (c.toNat - 48)
      if limit < n then .error beyond else readDigits limit beyond n rest

/-- Reads a number that is not negative and no larger than a limit. -/
def readNat (limit : Nat) (s : String) : Except IntegerFault Nat :=
  match s.toList with
  | [] => .error .empty
  | ['+'] => .error .invalidDigit
  | '+' :: rest => readDigits limit .tooLarge 0 rest
  | cs => readDigits limit .tooLarge 0 cs

/-- Reads a number of sixty-four bits with a sign. -/
def readInt64 (s : String) : Except IntegerFault Int :=
  match s.toList with
  | [] => .error .empty
  | ['+'] | ['-'] => .error .invalidDigit
  | '-' :: rest => (fun n => -Int.ofNat n) <$> readDigits signedBound .tooSmall 0 rest
  | '+' :: rest => Int.ofNat <$> readDigits (signedBound - 1) .tooLarge 0 rest
  | cs => Int.ofNat <$> readDigits (signedBound - 1) .tooLarge 0 cs

/-- Reads a number of sixty-four bits without a sign. -/
def readNat64 (s : String) : Except IntegerFault Nat := readNat (UInt64.size - 1) s

end ChainIndex.Text
