import ChainIndex.Bytes.Hex
import ChainIndex.Log.Console
import ChainIndex.Log.Line
import ChainIndex.Simulation.ChainForm

/-!
# How scripts write events and spans

A name tells what kind of value is recorded under it, and the values are recorded in one order, whatever
order they are written in.
-/

namespace ChainIndex.Simulation

open Log

/-- A double, as a number or by the digits of its bits. -/
def floatBits (j : Json) : UInt64 :=
  match j with
  | .float bits => bits
  | .int n => (Float.ofInt n).toBits
  | .str digits => ((Hex.decode? digits).getD []).foldl (fun n b => n * 256 + b.toUInt64) 0
  | _ => 0

/-- The names that scripts may use, with the kinds of their values. -/
def namedValues : List (String × (Json → Value)) :=
  [("mode", fun j => .text j.text), ("from", fun j => .word j.nat.toUInt64), ("to", fun j => .word j.nat.toUInt64),
    ("count", fun j => .word j.nat.toUInt64), ("delta", fun j => .int (Int64.ofInt j.number)),
    ("ratio", fun j => .float (floatBits j)), ("ok", fun j => .bool j.flag), ("text", fun j => .text j.text),
    ("dbg", fun j => .shown (Text.quoted j.text))]

def fieldsOfJson (j : Json) : List Field :=
  namedValues.filterMap fun (name, value) =>
    if (j.field name).isNull then none else some ⟨name, value (j.field name)⟩

/-- What a span is called, and what is recorded on it: its name alone, or a name beside fields, or fields
under a name. -/
def spanOfJson (j : Json) : Span :=
  let named (name : String) (fields : Json) : Span :=
    let modes : List Field := if name = "historic" ∨ name = "live" then [⟨"mode", .text name⟩] else []
    .start name (modes ++ fieldsOfJson fields)
  match j, j.entries with
  | .str name, _ => named name .null
  | _, [(name, fields)] => if name = "name" then named fields.text .null else named name fields
  | j, _ => named (j.field "name").text (if j.has "fields" then j.field "fields" else j)

def levelOfName (name : String) : Level :=
  ([Level.trace, .debug, .info, .warn].find? fun l => l.name = name.toUpper).getD .error

def eventOfJson (j : Json) : Log.Event :=
  let message := (j.field "message").text
  { level := levelOfName (j.field "level").text
    target := (j.field "target").text
    fields :=
      (fieldsOfJson (j.field "fields")).filter (fun f => ["mode", "from", "to"].contains f.name = false) ++
        [⟨messageName, if (j.field "plain").flag then .text message else .shown message⟩]
    file := none
    line := none }

/-- The same object without the time, which no script can tell. -/
def withoutTime (j : Json) : Json := .obj (j.entries.filter (·.1 ≠ "timestamp"))

end ChainIndex.Simulation
