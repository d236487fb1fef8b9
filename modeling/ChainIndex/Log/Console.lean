import ChainIndex.Log.Event

/-!
# Log lines for people

An event becomes a line of coloured columns: time, level, the mode of the run, the heights at work, the
service, and the message with the other fields in parentheses behind it. Mode and heights are those of
the spans that the event happens in.
-/

namespace ChainIndex.Log.Console

/-- Text in a colour, by the number that terminals know it by. -/
def paint (colour : Nat) (s : String) : String :=
  let escape (n : Nat) := "\x1b[" ++ toString n ++ "m"
  escape colour ++ s ++ escape 0

def timeColour : Nat := 96
def columnColour : Nat := 92
def messageColour : Nat := 97
def fieldColour : Nat := 90

def levelColour : Level → Nat
  | .trace => 90
  | .debug => 34
  | .info => 32
  | .warn => 33
  | .error => 31

/-- A text with blanks behind it up to a width. -/
def pad (width : Nat) (s : String) : String := s ++ String.ofList (List.replicate (width - s.length) ' ')

/-- Text in a colour, and the bar behind it. -/
def column (colour : Nat) (s : String) : String := paint colour s ++ " " ++ paint fieldColour "|" ++ " "

/-- The mode of the run. -/
def mode (spans : Spans) : String := (spans.value? "mode").getD "-"

/-- The heights at work. -/
def heights (spans : Spans) : String :=
  match spans.value? "from", spans.value? "to" with
  | some first, some last => "#" ++ first ++ "..#" ++ last
  | _, _ => "-"

/-- The message: the last of that name. -/
def message (fields : List Field) : String :=
  (((fields.filter (·.name = messageName)).getLast?).map (·.value.bare)).getD ""

/-- The fields that are no message. -/
def others (fields : List Field) : List String :=
  (fields.filter (·.name ≠ messageName)).map fun f => paint fieldColour (f.name ++ "=" ++ f.value.bare)

/-- The line of an event that happens in spans at a time. -/
def line (time : String) (spans : Spans) (e : Event) : String :=
  let others := others e.fields
  column timeColour time ++ column (levelColour e.level) (pad 5 e.level.name) ++
    column columnColour (pad 8 (mode spans)) ++ column columnColour (pad 22 (heights spans)) ++
    column columnColour (pad 10 (service e.target)) ++ paint messageColour (message e.fields) ++
    (if others.isEmpty then "" else " (" ++ String.intercalate ", " others ++ ")") ++ "\n"

end ChainIndex.Log.Console
