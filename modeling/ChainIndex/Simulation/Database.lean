import ChainIndex.Simulation.RowForm
import ChainIndex.Sql.Storage
import ChainIndex.Url.Basic

/-!
# A scripted database

A database that has a result ready for every statement, whatever it says, and that logs what it is
asked to do. When it has no result left, nothing is touched and there are no rows.
-/

namespace ChainIndex.Simulation

open Storage Sql

/-- What a database makes of one statement. -/
inductive Outcome where
  | touched (n : UInt64)
  | rows (rows : List (List Cell))
  | refused (text : String)

/-- What a database was asked to do. -/
inductive Deed where
  | statement (s : Statement)
  | migration

structure Database where
  /-- The results that are left. -/
  outcomes : List Outcome
  /-- What was done since the last look, the latest first. -/
  deeds : List Deed

namespace Database

/-- Takes the next result for something that is logged. -/
def next (deed : Deed) : StateM Database Outcome := fun d =>
  (d.outcomes.headD (.touched 0), ⟨d.outcomes.drop 1, deed :: d.deeds⟩)

/-- A session with the database. -/
def session : Session (StateM Database) where
  execute s := do
    match ← next (.statement s) with
    | .touched n => pure (.ok n)
    | .rows rows => pure (.ok rows.length.toUInt64)
    | .refused text => pure (.error (.refused text))
  fetch s := do
    match ← next (.statement s) with
    | .touched _ => pure (.ok [])
    | .rows rows => pure (.ok rows)
    | .refused text => pure (.error (.refused text))
  migrate := do
    match ← next .migration with
    | .refused text => pure (.error (.refused text))
    | _ => pure (.ok ())

end Database

/-! ## How scripts write all this -/

def cellOfJson : Json → Cell
  | .int n => .int n
  | .str s => .text s
  | _ => .null

def outcomeOfJson (j : Json) : Outcome :=
  if j.has "error" then .refused (j.field "error").text
  else if j.has "rows" then .rows ((j.field "rows").items.map fun row => row.items.map cellOfJson)
  else .touched (j.field "affected").nat.toUInt64

/-- A session with the scripted database, if it lets anyone in. -/
def openSession (j : Json) : Except Fault (Session (StateM Database)) :=
  match j.field "url" with
  | .str url =>
    match Url.parse url with
    | .ok _ => .ok Database.session
    | .error e => .error (.badAddress e.message)
  | _ => if j.has "reject" then .error (.refused (j.field "reject").text) else .ok Database.session

/-- Rows that are listed, or a number of equal ones. -/
def rowsOfJson {α : Type} (ofJson : Json → α) (j : Json) : List α :=
  if j.has "generate" then List.replicate (j.field "generate").nat (ofJson (j.field "row"))
  else j.items.map ofJson

def spaceOfJson (j : Json) : AddressSpace :=
  ⟨(j.field "chain").text, if (j.field "role").text = "validator" then .validator else .account⟩

/-- Addresses that are listed, or a number of made-up ones. -/
def addressesOfJson (j : Json) : List String :=
  if j.has "generate" then (List.range (j.field "generate").nat).map fun i => "a" ++ toString i
  else (j.field "addresses").strings

/-- The call that a step makes. -/
def callOfJson? (j : Json) : Option Call :=
  let part name := j.field name
  match (j.entries.head?.map (·.1)).getD "" with
  | "last_height" => some (.lastHeight (part "last_height").text)
  | "find" => some (.find (spaceOfJson (part "find")) (addressesOfJson (part "find")))
  | "get_all" => some (.newer (spaceOfJson (part "get_all")) ((part "get_all").field "since").number)
  | "insert_addresses" =>
    some (.insertAddresses (spaceOfJson (part "insert_addresses")) (addressesOfJson (part "insert_addresses")))
  | "insert_blocks" => some (.insert (.blocks (rowsOfJson .ofJson (part "insert_blocks"))))
  | "insert_signings" => some (.insert (.signings (rowsOfJson .ofJson (part "insert_signings"))))
  | "insert_transactions" => some (.insert (.transactions (rowsOfJson .ofJson (part "insert_transactions"))))
  | "insert_send" => some (.insert (.sends (rowsOfJson .ofJson (part "insert_send"))))
  | "insert_call" => some (.insert (.calls (rowsOfJson .ofJson (part "insert_call"))))
  | "insert_addpkg" => some (.insert (.packages (rowsOfJson (.ofJson "creator") (part "insert_addpkg"))))
  | "insert_run" => some (.insert (.runs (rowsOfJson (.ofJson "caller") (part "insert_run"))))
  | _ => none

def paramJson (p : Param) : Json :=
  let value : Json :=
    match p with
    | .text none => .null
    | .text (some s) => .str s
    | .int2 n => .int n.toInt
    | .int4 n => .int n
    | .int8 n => .int n.toInt
    | .bool b => .bool b
    | .bytes bs => .str (Hex.encode bs)
    | .time micros => .int micros
    | .texts ss => .ofStrings ss
    | .int4s ns => idsJson ns
    | .json j => .str j.render
  .arr [.str p.typeName, value]

/-- The text of a statement; of a long one its length and its ends. -/
def sqlJson (sql : String) : Json :=
  let length := sql.utf8ByteSize
  if length ≤ 2000 then .str sql
  else
    .object
      [("length", .ofNat length), ("head", .str (sql.take 300).toString), ("tail", .str (sql.takeEnd 100).toString)]

/-- The values of a statement; of many their number and the ends. -/
def paramsJson (params : List Param) : Json :=
  match params, params.getLast? with
  | first :: _, some last =>
    if params.length ≤ 60 then .arr (params.map paramJson)
    else .object [("count", .ofNat params.length), ("first", paramJson first), ("last", paramJson last)]
  | _, _ => .arr []

def deedJson : Deed → Json
  | .statement s => .object [("sql", sqlJson s.sql), ("params", paramsJson s.params)]
  | .migration => .object [("simple", .str "MIGRATION")]

def deedsJson (d : Database) : Json := .arr (d.deeds.reverse.map deedJson)

end ChainIndex.Simulation
