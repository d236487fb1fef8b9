import ChainIndex.Text.Blank
import ChainIndex.Text.Extender
import ChainIndex.Text.Unseen

/-!
# Quoted text

Text for a reader who has to see what is in it: between quotes, with everything escaped that would end
it, break the line, or not be seen by itself.
-/

namespace ChainIndex.Text

/-- A code point in hexadecimal digits between braces. -/
def escapeCode (c : Char) : List Char := ['\\', 'u', '\x7b'] ++ Nat.toDigits 16 c.toNat ++ ['\x7d']

/-- A character as it stands between quotes. -/
def escapeQuoted (c : Char) : List Char :=
  match c.toNat with
  | 0 => ['\\', '0']
  | 9 => ['\\', 't']
  | 10 => ['\\', 'n']
  | 13 => ['\\', 'r']
  | 34 => ['\\', '"']
  | 92 => ['\\', '\\']
  | _ => if isExtender c || isUnseen c then escapeCode c else [c]

/-- A text between quotes. -/
def quoted (s : String) : String := String.ofList ('"' :: s.toList.flatMap escapeQuoted ++ ['"'])

/-- A text without the quotes at its ends, however many there are. -/
def unquoted (s : String) : String := String.ofList (trimWhile (· == '"') s.toList)

end ChainIndex.Text
