import ChainIndex.Json.Value
import ChainIndex.Log.Event

/-!
# Log lines for machines

An event becomes one JSON object on a line of its own. Its fields are those of the event, then the name
of the span it happened in, which hides a field of the event with that name, then what was recorded on
the spans under names that are still free. A line break in a text is escaped there, so that the line ends
only where the object ends.
-/

namespace ChainIndex.Log

/-- A value as JSON. A double that is no number is null there. -/
def Value.toJson : Value → Json
  | .word n => .int n.toNat
  | .int n => .int n.toInt
  | .float bits =>
    match Binary64.ofBits bits with
    | .finite .. => .float bits
    | _ => .null
  | .bool b => .bool b
  | .text s => .str s
  | .shown s => .str (Text.unquoted s)

/-- The message in a field: only what is text can be one. -/
def Field.message? (f : Field) : Option String :=
  if f.name = messageName then
    match f.value with
    | .text s => some s
    | .shown s => some (Text.unquoted s)
    | _ => none
  else
    none

/-- The last message among fields. -/
def message? (fields : List Field) : Option String := (fields.filterMap Field.message?).getLast?

/-- The fields that are no message, each name once, with the value that was recorded last. -/
def eventFields (fields : List Field) : List (String × Json) :=
  (fields.filter (·.message?.isNone)).foldl (fun done f => Json.insertField f.name f.value.toJson done) []

def spanName : String := "span_name"

/-- Adds what was recorded on spans under names that are free. -/
def addRecorded (fields : List (String × Json)) (recorded : List (String × String)) : List (String × Json) :=
  recorded.foldl
    (fun done (k, v) => if (done.lookup k).isSome then done else Json.insertField k (.str v) done) fields

/-- All fields of an event that happens in spans. -/
def allFields (spans : Spans) (e : Event) : List (String × Json) :=
  let own := eventFields e.fields
  let named :=
    match spans.current? with
    | some s => Json.insertField spanName (.str s.name) own
    | none => own
  addRecorded named spans.recorded

/-- An event that happens in spans at a time, as an object. -/
def toJson (time : String) (spans : Spans) (e : Event) : Json :=
  let optional (name : String) (v : Option Json) := v.toList.map fun v => (name, v)
  let fields := allFields spans e
  .ofFields <|
    [("timestamp", .str time), ("level", .str e.level.name), ("target", .str e.target),
        ("service", .str (service e.target))] ++
      optional "filename" (e.file.map .str) ++ optional "line_number" (e.line.map fun n => .int n) ++
      optional messageName ((message? e.fields).map .str) ++
      (if fields.isEmpty then [] else [("fields", .obj fields)])

/-- The line of an event. -/
def line (time : String) (spans : Spans) (e : Event) : String := (toJson time spans e).render ++ "\n"

end ChainIndex.Log
