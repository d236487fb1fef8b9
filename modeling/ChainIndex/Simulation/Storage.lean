import Std.Data.TreeMap
import ChainIndex.Program.Query

/-!
# Storage that follows a script

Tables in memory. The script says which calls fail and which addresses are refused; every call is
logged. New addresses get their ids only when the ids are next looked at, those of a space in byte
order, so the ids do not hang on the order in which addresses are inserted.
-/

namespace ChainIndex.Simulation

open Storage

/-- The name of an address space in scripts and logs. -/
def spaceKey (space : AddressSpace) : String := space.role.name ++ "/" ++ space.chain

/-- The addresses of a space: those with an id, and those that still wait for one. -/
structure SpaceIds where
  ids : AddressIds
  pending : List String
  deriving Inhabited

namespace SpaceIds

def empty : SpaceIds := ⟨∅, []⟩

def highest (s : SpaceIds) : AddressId := s.ids.foldl (fun n _ id => max n id) 0

/-- Gives an address the next id unless it has one. -/
def assign (s : SpaceIds) (address : String) : SpaceIds :=
  if s.ids.contains address then s else { s with ids := s.ids.insert address (s.highest + 1) }

/-- Gives ids to the addresses that wait for one. -/
def settle (s : SpaceIds) : SpaceIds :=
  let waiting := s.pending.mergeSort fun a b => a ≤ b
  let fresh := (waiting.foldl
    (fun (ids, next) address => if ids.contains address then (ids, next) else (ids.insert address next, next + 1))
    (s.ids, s.highest + 1)).1
  ⟨fresh, []⟩

end SpaceIds

/-- The key of a row: a name, and a number under it. -/
structure RowKey where
  name : String
  number : Int
  deriving Ord, DecidableEq, Repr

/-- A key, by what a log shows of it. -/
inductive LogKey where
  | name (s : String)
  | number (n : Int)
  | pair (s : String) (n : Int)
  deriving DecidableEq, Repr

/-- One call as it is logged. -/
structure LogEntry where
  method : String
  /-- The address space or the chain that the call was about, if it was about one. -/
  about : Option String
  keys : List LogKey
  succeeded : Bool
  deriving DecidableEq, Repr

structure ScriptedStorage where
  spaces : Std.TreeMap String SpaceIds
  /-- Blocks by chain and height. A script may say of a height that it is stored, and no more. -/
  blocks : Std.TreeMap RowKey (Option BlockRow)
  signings : Std.TreeMap RowKey SigningRow
  transactions : Std.TreeMap RowKey TransactionRow
  sends : Std.TreeMap RowKey SendRow
  calls : Std.TreeMap RowKey CallRow
  packages : Std.TreeMap RowKey PackageRow
  runs : Std.TreeMap RowKey PackageRow
  /-- For the next calls of a method, one after another, how they fail if they do. -/
  failing : Std.TreeMap String (List (Option Storage.Error))
  /-- Addresses that cannot be inserted. -/
  refused : List String
  /-- The calls so far, the last one first. -/
  log : List LogEntry

namespace ScriptedStorage

def settle (s : ScriptedStorage) : ScriptedStorage :=
  { s with spaces := s.spaces.map fun _ space => space.settle }

/-- Adds a failure to those of a method. -/
def failLater (s : ScriptedStorage) (method : String) (failure : Option Storage.Error) : ScriptedStorage :=
  { s with failing := s.failing.insert method ((s.failing.getD method []) ++ [failure]) }

/-- Another writer stores addresses. -/
def addAddresses (s : ScriptedStorage) (space : String) (addresses : List String) : ScriptedStorage :=
  let s := s.settle
  { s with spaces := s.spaces.insert space (addresses.foldl SpaceIds.assign (s.spaces.getD space .empty)) }

/-- What the script says of the next call of a method. -/
def nextFailure (s : ScriptedStorage) (method : String) : Option Storage.Error × ScriptedStorage :=
  match s.failing[method]? with
  | some (next :: later) => (next, { s with failing := s.failing.insert method later })
  | _ => (none, s)

/-- Adds rows whose keys are new, and counts them. -/
def addRows {α β : Type} (key : α → RowKey) (row : α → β) (rows : List α) (table : Std.TreeMap RowKey β) :
    UInt64 × Std.TreeMap RowKey β :=
  rows.foldl
    (fun (count, table) r =>
      if table.contains (key r) then (count, table) else (count + 1, table.insert (key r) (row r)))
    (0, table)

def headKey (h : MessageHead) : RowKey := ⟨h.hash, h.counter.toInt⟩

def headLog (h : MessageHead) : LogKey := .pair h.hash h.counter.toInt

/-- The name of the method that inserts a batch. -/
def batchMethod : Batch → String
  | .blocks _ => "insert_blocks"
  | .signings _ => "insert_signings"
  | .transactions _ => "insert_transactions"
  | .sends _ => "insert_send"
  | .calls _ => "insert_call"
  | .packages _ => "insert_addpkg"
  | .runs _ => "insert_run"

/-- The keys of a batch as they are logged. -/
def batchKeys : Batch → List LogKey
  | .blocks rows => rows.map (.number ·.height.toInt)
  | .signings rows => rows.map (.number ·.height.toInt)
  | .transactions rows => rows.map (.name ·.hash)
  | .sends rows => rows.map (headLog ·.head)
  | .calls rows => rows.map (headLog ·.head)
  | .packages rows => rows.map (headLog ·.head)
  | .runs rows => rows.map (headLog ·.head)

def addBatch (s : ScriptedStorage) : Batch → UInt64 × ScriptedStorage
  | .blocks rows =>
    let (n, blocks) := addRows (fun r => ⟨r.chain, r.height.toInt⟩) some rows s.blocks
    (n, { s with blocks })
  | .signings rows =>
    let (n, signings) := addRows (fun r => ⟨r.chain, r.height.toInt⟩) id rows s.signings
    (n, { s with signings })
  | .transactions rows =>
    let (n, transactions) := addRows (fun r => ⟨r.hash, 0⟩) id rows s.transactions
    (n, { s with transactions })
  | .sends rows =>
    let (n, sends) := addRows (fun r => headKey r.head) id rows s.sends
    (n, { s with sends })
  | .calls rows =>
    let (n, calls) := addRows (fun r => headKey r.head) id rows s.calls
    (n, { s with calls })
  | .packages rows =>
    let (n, packages) := addRows (fun r => headKey r.head) id rows s.packages
    (n, { s with packages })
  | .runs rows =>
    let (n, runs) := addRows (fun r => headKey r.head) id rows s.runs
    (n, { s with runs })

/-- The highest stored height of a chain. -/
def highestBlock (s : ScriptedStorage) (chain : String) : Option UInt64 :=
  s.blocks.foldl
    (fun best key _ => if key.name = chain then some (max (best.getD 0) key.number.toNat.toUInt64) else best) none

def write (s : ScriptedStorage) (e : LogEntry) : ScriptedStorage := { s with log := e :: s.log }

def spaceLog (addresses : List String) : List LogKey := (addresses.mergeSort fun a b => a ≤ b).map .name

/-- Answers a call that does not fail. -/
def perform (s : ScriptedStorage) : (c : Call) → c.Payload × ScriptedStorage
  | .lastHeight chain => (s.highestBlock chain, s)
  | .find space addresses =>
    let s := s.settle
    let ids := (s.spaces.getD (spaceKey space) .empty).ids
    let found : AddressIds := addresses.foldl
      (fun found a =>
        match ids[a]? with
        | some id => found.insert a id
        | none => found) ∅
    (found, s)
  | .newer space since =>
    let s := s.settle
    let newer := (s.spaces.getD (spaceKey space) .empty).ids.filter fun _ id => since < id
    ((newer, newer.foldl (fun n _ id => max n id) since), s)
  | .insertAddresses space addresses =>
    let ids := s.spaces.getD (spaceKey space) .empty
    let fresh := addresses.filter fun a => !ids.ids.contains a
    ((), { s with spaces := s.spaces.insert (spaceKey space) { ids with pending := ids.pending ++ fresh } })
  | .insert batch => s.addBatch batch

/-- How a call is logged: its method, what it is about, and its keys. -/
def describe : Call → String × Option String × List LogKey
  | .lastHeight chain => ("last_height", some chain, [])
  | .find space addresses => ("find", some (spaceKey space), spaceLog addresses)
  | .newer space since => ("get_all", some (spaceKey space), [.number since])
  | .insertAddresses space addresses => ("insert_addresses", some (spaceKey space), spaceLog addresses)
  | .insert batch => (batchMethod batch, none, batchKeys batch)

/-- How a call fails, if it does. -/
def failureOf (s : ScriptedStorage) (c : Call) : Option Storage.Error × ScriptedStorage :=
  match c with
  | .insertAddresses _ addresses =>
    let (failure, s) := if addresses.length ≤ 1 then (none, s) else s.nextFailure "insert_addresses"
    match failure with
    | some e => (some e, s)
    | none => (if addresses.any s.refused.contains then some (.other "bad address") else none, s)
  | c => s.nextFailure (describe c).1

/-- Answers a call. -/
def answer (s : ScriptedStorage) (c : Call) : c.Answer × ScriptedStorage :=
  let (method, about, keys) := describe c
  let (failure, s) := s.failureOf c
  match failure with
  | some e => (.error e, s.write ⟨method, about, keys, false⟩)
  | none =>
    let (payload, s) := s.perform c
    (.ok payload, s.write ⟨method, about, keys, true⟩)

/-- Inserts batches one after another, up to the first that fails, and counts the new rows. -/
def insertAll (s : ScriptedStorage) (count : UInt64) : List Batch → Except Storage.Error UInt64 × ScriptedStorage
  | [] => (.ok count, s)
  | batch :: rest =>
    match s.answer (.insert batch) with
    | (.ok written, s) =>
      let written : UInt64 := written
      insertAll s (count + written) rest
    | (.error e, s) => (.error e, s)

end ScriptedStorage

/-! ## Logs -/

/-- Whether a call inserts one address. -/
def LogEntry.single (e : LogEntry) : Bool := e.method == "insert_addresses" && e.keys.length == 1

def LogKey.before : LogKey → LogKey → Bool
  | .name a, .name b => a ≤ b
  | .number a, .number b => a ≤ b
  | .pair a m, .pair b n =>
    (Json.arr [.str a, .int m]).render ≤ (Json.arr [.str b, .int n]).render
  | _, _ => true

/-- Sorts runs of one-address inserts into one space by their addresses. `run` is the run so far, the
last entry first. -/
def sortSingles (run : List LogEntry) : List LogEntry → List LogEntry
  | [] => sorted run
  | e :: rest =>
    if e.single ∧ (run.head?.map (·.about)).getD e.about = e.about then
      sortSingles (e :: run) rest
    else if e.single then
      sorted run ++ sortSingles [e] rest
    else
      sorted run ++ e :: sortSingles [] rest
where
  sorted (run : List LogEntry) : List LogEntry :=
    run.reverse.mergeSort fun a b => ((a.keys.zip b.keys).head?.map fun (x, y) => x.before y).getD true

/-- The calls in order, and no more than their order that a program decides. -/
def ScriptedStorage.report (s : ScriptedStorage) (sortKeys : Bool) : List LogEntry :=
  sortSingles [] <| s.log.reverse.map fun e =>
    if sortKeys then { e with keys := e.keys.mergeSort LogKey.before } else e

end ChainIndex.Simulation
