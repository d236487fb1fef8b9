/-!
# Cutting lists of characters
-/

namespace ChainIndex.Text

variable {α : Type} [BEq α]

/-- The parts between separators; one more than there are separators. -/
def splitOn (sep : α) : List α → List (List α)
  | [] => [[]]
  | c :: rest =>
    if c == sep then [] :: splitOn sep rest
    else
      match splitOn sep rest with
      | [] => [[c]]
      | part :: parts => (c :: part) :: parts

/-- What stands in front of the first separator, and what after it if there is one. -/
def cutAt (sep : α) : List α → List α × Option (List α)
  | [] => ([], none)
  | c :: rest =>
    if c == sep then ([], some rest)
    else
      let (front, back) := cutAt sep rest
      (c :: front, back)

/-- A text up to its first line break, which may have a carriage return in front of it. -/
def firstLine (text : String) : String :=
  match cutAt '\n' text.toList with
  | (line, none) => String.ofList line
  | (line, some _) => String.ofList (if line.getLast? = some '\r' then line.dropLast else line)

end ChainIndex.Text
