import ChainIndex.Text.Split

/-!
# Rows of code points

Long tables of characters are kept as rows of text. A row is a list of words with spaces between them,
and a word is a list of code points, in capital hexadecimal digits, with plus signs between them.
-/

namespace ChainIndex.Text

def pointDigit (c : Char) : Nat := if c.isDigit then c.toNat - 48 else c.toNat - 55

/-- The code point that digits write. -/
def point (digits : List Char) : Nat := digits.foldl (fun n c => 16 * n + pointDigit c) 0

/-- The words of a row. -/
def pointRow (row : String) : List (List Nat) :=
  (splitOn ' ' row.toList).map fun word => (splitOn '+' word).map point

end ChainIndex.Text
