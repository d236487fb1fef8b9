import ChainIndex.Address.Solver
import ChainIndex.Simulation.RowForm
import ChainIndex.Simulation.World

/-!
# Scenarios

How scripts write the world that a scenario begins with, and how they show what became of it.
-/

namespace ChainIndex.Simulation

open Storage

/-! ## Reading -/

def durationOfJson (j : Json) : Duration :=
  match j.items with
  | [secs, nanos] => .ofNanos (secs.nat * nanosPerSecond + nanos.nat)
  | _ => .zero

/-- The parameters of retry; none stand for a single attempt, and a name for the usual ones. -/
def retryOfJson (j : Json) : Retry.Params :=
  match j with
  | .null => .once
  | .str _ => .usual
  | j =>
    { amount := (j.field "amount").nat.toUInt32
      pauseEvery := (j.field "pause_every").nat.toUInt32
      pause := durationOfJson (j.field "pause")
      backoff := durationOfJson (j.field "backoff") }

def solverOfJson (j : Json) : SolverSettings := ⟨retryOfJson (j.field "retry"), (j.field "fallback").flag⟩

def faultOfJson (j : Json) : Node.Fault :=
  let text := (j.field "message").text
  match (j.field "kind").text with
  | "node" => .refused (j.field "code").number text
  | "invalid" => .invalidResponse text
  | "limit" => .rateLimitExhausted
  | _ => .transport text

def storageErrorOfJson (j : Json) : Storage.Error :=
  let text := (j.field "message").text
  match (j.field "kind").text with
  | "Connection" => .connection text
  | "Migration" => .migration text
  | "InvalidData" => .invalidData "blocks.height" text
  | "Other" => .other text
  | _ => .other j.text

/-- What is read of a value that may be absent. -/
def optional {α : Type} (read : Json → α) (j : Json) : Option α :=
  if j.isNull then none else some (read j)

def tableOf {α : Type} (read : Json → α) (j : Json) : Std.TreeMap String α :=
  .ofList (j.entries.map fun (key, v) => (key, read v))

def nodeOfJson (j : Json) : ScriptedNode :=
  let blocks := (j.field "blocks").items.map Block.ofJson
  let executions := (j.field "txs").items.map Execution.ofJson
  { blocks := .ofList (blocks.map fun b => (b.height.toNat, b))
    executions := .ofList (executions.map fun e => (e.hash, e))
    latest :=
      if (j.field "latest").isNull then blocks.foldl (fun h b => max h b.height) 0
      else (j.field "latest").nat.toUInt64
    failing := tableOf (fun failures => failures.items.map (optional faultOfJson)) (j.field "fail")
    dead := tableOf faultOfJson (j.field "dead")
    latency := tableOf Json.nat (j.field "latency_ms")
    standIns := .ofList ((j.field "alias").entries.map fun (h, v) => (h.toNat?.getD 0, v.nat)) }

def storageOfJson (j : Json) : ScriptedStorage :=
  let stored : List (RowKey × Option BlockRow) := (j.field "stored_heights").items.filterMap fun entry =>
    match entry.items with
    | [chain, height] => some (⟨chain.text, height.number⟩, none)
    | _ => none
  { spaces := tableOf
      (fun ids => ⟨.ofList (ids.entries.map fun (address, id) => (address, id.number)), []⟩) (j.field "addresses")
    blocks := .ofList stored
    signings := ∅, transactions := ∅, sends := ∅, calls := ∅, packages := ∅, runs := ∅
    failing := tableOf (fun failures => failures.items.map (optional storageErrorOfJson)) (j.field "fail")
    refused := (j.field "bad_addresses").strings
    log := [] }

/-- The limiter of a scenario: ten thousand requests a second, unless it says otherwise. -/
def limiterOfJson? (j : Json) : Option RateLimit.Limiter :=
  if j.isNull then RateLimit.Limiter.make? 10000 (.ofSecs 1)
  else RateLimit.Limiter.make? (j.field "capacity").nat (durationOfJson (j.field "window"))

/-- What another writer does to storage, if a step says so. -/
def storageEvent? (j : Json) : Option OutsideEvent :=
  if j.has "store" then
    some (.addAddresses (j.field "store").text (j.field "addresses").strings)
  else if j.has "break" then
    some (.failLater (j.field "break").text (optional storageErrorOfJson (j.field "failure")))
  else
    none

/-- What happens while a run follows the head. -/
def liveEvent? (j : Json) : Option OutsideEvent :=
  if j.has "latest" then some (.newHead (j.field "latest").nat.toUInt64)
  else if j.has "cancel" then some .stop
  else storageEvent? j

/-- The events of a run that begins at `start`. None happens before one that stands in front of it. -/
def eventsFrom (start time : Nat) : List Json → List (Nat × OutsideEvent)
  | [] => []
  | j :: rest =>
    let time := max time (start + (j.field "at").nat)
    match liveEvent? j with
    | some e => (time, e) :: eventsFrom start time rest
    | none => eventsFrom start time rest

/-- The world that a scenario begins with, with a number of empty address books. -/
def worldOfJson? (j : Json) (books : Nat) : Option World := do
  let limiter ← limiterOfJson? (j.field "limit")
  pure
    { now := 0
      limiter
      node := nodeOfJson (j.field "rpc")
      storage := storageOfJson (j.field "db")
      books := Array.replicate books .empty
      stopped := false
      events := []
      requests := [] }

/-! ## Showing -/

def logKeyJson : LogKey → Json
  | .name s => .str s
  | .number n => .int n
  | .pair s n => .arr [.str s, .int n]

def logEntryJson (e : LogEntry) : Json :=
  .arr
    [.str e.method,
      match e.about with
        | some about => .str about
        | none => .null,
      .arr (e.keys.map logKeyJson), .str (if e.succeeded then "ok" else "err")]

/-- The calls to storage so far. -/
def logJson (s : ScriptedStorage) (sortKeys : Bool) : Json := .arr ((s.report sortKeys).map logEntryJson)

/-- How often each request was made. -/
def requestsJson (requests : List Node.Request) : Json :=
  let counts : Std.TreeMap String Nat :=
    requests.foldl (fun m r => m.alter (requestKey r) fun n => some (n.getD 0 + 1)) ∅
  .obj (counts.toList.map fun (key, n) => (key, .ofNat n))

def addressesJson (s : ScriptedStorage) : Json :=
  .obj (s.spaces.toList.map fun (space, ids) => (space, .obj (ids.ids.toList.map fun (a, id) => (a, .int id))))

def tableJson {α : Type} (row : α → Json) (table : Std.TreeMap RowKey α) : Json :=
  .arr (table.toList.map fun (_, r) => row r)

def storageJson (s : ScriptedStorage) : Json :=
  let block (key : RowKey) : Option BlockRow → Json
    | some r => r.toJson
    | none => .object [("height", .int key.number), ("chain", .str key.name), ("seed", .bool true)]
  .object
    [("addresses", addressesJson s), ("blocks", .arr (s.blocks.toList.map fun (key, r) => block key r)),
      ("signings", tableJson SigningRow.toJson s.signings),
      ("transactions", tableJson TransactionRow.toJson s.transactions),
      ("send", tableJson SendRow.toJson s.sends), ("call", tableJson CallRow.toJson s.calls),
      ("addpkg", tableJson (PackageRow.toJson "creator") s.packages),
      ("run", tableJson (PackageRow.toJson "caller") s.runs)]

end ChainIndex.Simulation
