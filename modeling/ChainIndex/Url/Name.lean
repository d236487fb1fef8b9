import ChainIndex.Text.Composition
import ChainIndex.Text.Direction
import ChainIndex.Text.Joining
import ChainIndex.Url.Mapping
import ChainIndex.Url.Punycode

/-!
# Domain names

A domain name is a list of labels with dots between them. It is read in any script and written in ASCII:
every character is replaced by what stands for it, the text is composed, and a label that still has
characters beyond ASCII is written by counts behind the mark `xn--`. A label that comes with the mark has
to be one that is written so.
-/

namespace ChainIndex.Url

open Text

/-- ASCII characters that no name has. -/
def forbiddenInName (c : Char) : Bool :=
  c.toNat ≤ 32 || c.toNat = 127 || "#%/:<>?@[\\]^|".contains c

def isAscii (label : List Char) : Bool := label.all (·.toNat < 128)

/-! ## Labels -/

/-- The mark of a label that is written by counts. -/
def countMark : List Char := "xn--".toList

/-- The characters of a label; `none` if it has the mark and is not what is written for a label. It has
counts behind its last hyphen then, and neither mapping nor composition changes what it is written for. -/
def readLabel (label : List Char) : Option (List Char) :=
  if countMark.isPrefixOf label then do
    let written := label.drop countMark.length
    if !isAscii written || label.getLast? = some '-' || 2000 < written.length then none
    else
      let label ← Punycode.decode written
      if label.all (fun c => image? c = some [c]) && compose label = label then some label else none
  else some label

/-- Whether a character that keeps letters from joining, or makes them join, is in its place: behind a
sign that takes a vowel away or, if it keeps them, between letters that would join. -/
def joinerFits (before : List Char) (c : Char) (behind : List Char) : Bool :=
  if c.toNat = 0x200C then
    let joined := (before.dropWhile letsThrough).head?.any joinsFollowing
    before.head?.any isVirama || (joined && (behind.dropWhile letsThrough).head?.any joinsPreceding)
  else if c.toNat = 0x200D then before.head?.any isVirama
  else true

/-- Whether all joiners of a label are in place; `before` holds what is in front, the last character first. -/
def joinersFit (before : List Char) : List Char → Bool
  | [] => true
  | c :: rest => joinerFits before c rest && joinersFit (c :: before) rest

/-- Whether a name can have a label: no mark is at its beginning, joiners are in place, ASCII characters are
allowed, and it is not too long to be written. -/
def fits (label : List Char) : Bool :=
  !label.head?.any isMark && joinersFit [] label && !label.any forbiddenInName &&
    (isAscii label || label.length ≤ 1000)

/-! ## Directions -/

/-- Whether a character makes a name one that is written in two directions. -/
def turns (c : Char) : Bool := direction c = .leftward || direction c = .arabicDigit

/-- Whether the direction of a label is clear in a name of two directions: it begins with a letter and ends
with a letter of the same direction or a digit, and no letter of the other direction is in it. A label from
right to left has digits of one kind, and one from left to right no Arabic ones. -/
def isDirected (label : List Char) : Bool :=
  match label.map direction with
  | [] => true
  | first :: others =>
    let last := (others.reverse.dropWhile (· = .onLetter)).head?.getD first
    match first with
    | .rightward =>
      (last = .rightward || last = .europeanDigit) && others.all fun d => d ≠ .leftward && d ≠ .arabicDigit
    | .leftward =>
      last ≠ .neutral && others.all (· ≠ .rightward) &&
        !(others.contains .europeanDigit && others.contains .arabicDigit)
    | _ => false

/-! ## Names -/

/-- The labels of a name in its own script; `none` if it is none. -/
def readName (name : List Char) : Option (List (List Char)) := do
  let images ← name.mapM image?
  let labels ← (splitOn '.' (compose images.flatten)).mapM readLabel
  if labels.all fits && (!labels.any (·.any turns) || labels.all isDirected) then some labels else none

/-- A label in ASCII. -/
def writeLabel (label : List Char) : List Char :=
  if isAscii label then label else countMark ++ Punycode.encode label

/-- A name in ASCII. -/
def nameInAscii (name : List Char) : Option (List Char) :=
  (readName name).map fun labels => (List.intersperse ['.'] (labels.map writeLabel)).flatten

end ChainIndex.Url
