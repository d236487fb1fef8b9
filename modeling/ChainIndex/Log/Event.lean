import ChainIndex.Number.Shortest
import ChainIndex.Text.Quoted

/-!
# Events and spans

An event tells that something happened, in a text and in named values. It happens inside spans, which
stand in one another and have named values too. A value is kept as text on a span; recorded again, it
takes the place of what was recorded before. Of several spans with a value of one name the nearest
counts.
-/

namespace ChainIndex.Log

inductive Level where
  | trace | debug | info | warn | error
  deriving DecidableEq, Repr

def Level.name : Level → String
  | .trace => "TRACE"
  | .debug => "DEBUG"
  | .info => "INFO"
  | .warn => "WARN"
  | .error => "ERROR"

/-- What is recorded under a name. -/
inductive Value where
  | word (n : UInt64)
  | int (n : Int64)
  /-- A double, by its bits. -/
  | float (bits : UInt64)
  | bool (b : Bool)
  | text (s : String)
  /-- Something that is only there to be looked at, and how it looks. -/
  | shown (s : String)
  deriving DecidableEq, Repr

/-- Doubles between `1e-4` and `1e16` are written out. -/
def floatLayout : FloatLayout := ⟨-3, "NaN", "inf"⟩

/-- How a value looks; a text looks like its quotation. -/
def Value.look : Value → String
  | .word n => toString n.toNat
  | .int n => toString n.toInt
  | .float bits => floatLayout.write bits
  | .bool b => if b then "true" else "false"
  | .text s => Text.quoted s
  | .shown s => s

/-- How a value looks without quotes around it. -/
def Value.bare (v : Value) : String := Text.unquoted v.look

structure Field where
  name : String
  value : Value
  deriving DecidableEq, Repr

/-- The name of the field that holds the text of an event. -/
def messageName : String := "message"

structure Event where
  level : Level
  /-- The part of the program that the event comes from. -/
  target : String
  /-- In the order in which they were recorded; one may be the message. -/
  fields : List Field
  file : Option String
  line : Option Nat
  deriving DecidableEq, Repr

/-! ## Spans -/

/-- A value as a span keeps it: a text as it stands, everything else as it looks without quotes. -/
def Value.kept : Value → String
  | .text s => s
  | v => v.bare

structure Span where
  name : String
  /-- What was recorded, the latest first. -/
  recorded : List (String × String)
  deriving DecidableEq, Repr

def Span.record (s : Span) (f : Field) : Span := { s with recorded := (f.name, f.value.kept) :: s.recorded }

/-- A span with the fields that it starts with. -/
def Span.start (name : String) (fields : List Field) : Span := fields.foldl .record ⟨name, []⟩

/-- Spans in one another, the outermost first. -/
abbrev Spans := List Span

/-- The span that an event happens in. -/
def Spans.current? (spans : Spans) : Option Span := spans.getLast?

/-- All that was recorded on spans; of two entries with one name the first counts. -/
def Spans.recorded (spans : Spans) : List (String × String) := spans.reverse.flatMap Span.recorded

/-- The value that counts. -/
def Spans.value? (spans : Spans) (name : String) : Option String := spans.recorded.lookup name

@[simp] theorem recorded_nil : Spans.recorded [] = [] := rfl

/-- What was recorded on the innermost span comes first. -/
theorem recorded_concat (spans : Spans) (s : Span) :
    Spans.recorded (spans ++ [s]) = s.recorded ++ Spans.recorded spans := by
  simp [Spans.recorded]

/-- A value recorded on the innermost span counts before all others. -/
theorem value?_record (spans : Spans) (s : Span) (f : Field) :
    Spans.value? (spans ++ [s.record f]) f.name = some f.value.kept := by
  simp [Spans.value?, recorded_concat, Span.record]

/-! ## Services -/

/-- What targets begin with, and the services that they belong to; the first that fits is taken. -/
def services : List (String × String) :=
  [("indexer_resilience", "RESILIENCE"), ("indexer_tx_decoder", "DECODER"), ("indexer::core::client::rpc", "RPC"),
    ("indexer::core::client::database", "DATABASE"), ("indexer::cache", "CACHE"), ("indexer", "-")]

/-- The service that a target belongs to. -/
def service (target : String) : String :=
  ((services.find? fun (start, _) => target.startsWith start).map (·.2)).getD "EXTERNAL"

end ChainIndex.Log
