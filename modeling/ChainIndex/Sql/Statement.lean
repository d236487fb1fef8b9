import ChainIndex.Json.Value
import ChainIndex.Storage.Error
import ChainIndex.Storage.Row
import ChainIndex.Time.Duration

/-!
# Statements

A statement is a text with numbered places and the values for these places, each of a type that the
database knows. A session with a database carries statements out one after another.
-/

namespace ChainIndex.Sql

open Storage

/-- The value for one place. -/
inductive Param where
  /-- A text, or nothing where there could be one. -/
  | text (s : Option String)
  | int2 (n : Int16)
  | int4 (n : AddressId)
  | int8 (n : Int64)
  | bool (b : Bool)
  | bytes (bs : List UInt8)
  /-- A point in time, in microseconds since the beginning of the year 2000. -/
  | time (micros : Int)
  | texts (ss : List String)
  | int4s (ns : List AddressId)
  | json (j : Json)

/-- The type of a value, as the database calls it. -/
def Param.typeName : Param → String
  | .text _ => "text"
  | .int2 _ => "int2"
  | .int4 _ => "int4"
  | .int8 _ => "int8"
  | .bool _ => "bool"
  | .bytes _ => "bytea"
  | .time _ => "timestamptz"
  | .texts _ => "text[]"
  | .int4s _ => "int4[]"
  | .json _ => "jsonb"

structure Statement where
  sql : String
  /-- The values for `$1`, `$2` and so on. -/
  params : List Param

/-! ## Values -/

/-- Seconds from the beginning of 1970 to that of 2000. -/
def epoch : Int := 946684800

/-- A point in time in microseconds; what is left of one is cut off, before the year 2000 too. -/
def micros (t : Moment) : Int := ((t.secs - epoch) * nanosPerSecond + t.nanos.toNat).tdiv 1000

def coinJson (c : Coin) : Json := .obj [("amount", .int c.amount.toInt), ("denom", .str c.denom)]

def coins (cs : List Coin) : Param := .json (.arr (cs.map coinJson))

/-! ## Sessions -/

/-- Why a statement came to nothing. -/
inductive Fault where
  /-- The database refused, in its own words. -/
  | refused (text : String)
  /-- A query that has to have an answer had none. -/
  | noRow
  /-- The address of the database makes no sense. -/
  | badAddress (text : String)
  deriving DecidableEq, Repr

def Fault.message : Fault → String
  | .refused text => "error returned from database: " ++ text
  | .noRow => "no rows returned by a query that expected to return at least one row"
  | .badAddress text => "error with configuration: " ++ text

/-- A value in an answer. -/
inductive Cell where
  | null
  | int (n : Int)
  | text (s : String)
  deriving DecidableEq, Repr

/-- What statements can be given to. -/
structure Session (m : Type → Type) where
  /-- Carries a statement out and tells how many rows it touched. -/
  execute : Statement → m (Except Fault UInt64)
  /-- Asks for rows. -/
  fetch : Statement → m (Except Fault (List (List Cell)))
  /-- Makes the tables that are not there yet. -/
  migrate : m (Except Fault Unit)

/-- A failure of the named operation. -/
def Fault.during (operation : String) (f : Fault) : Storage.Error := .query operation f.message

end ChainIndex.Sql
