import ChainIndex.Error
import ChainIndex.Program.Query
import ChainIndex.Sql.Tables

/-!
# Storage in a database

Every call to storage becomes statements, and what comes back becomes its answer. A question about no
addresses at all is answered without asking.

A database is set up by connecting and making the tables. Doing it twice does no harm, as tables that are there stay as
they are.
-/

namespace ChainIndex.Sql

open Storage

variable {m : Type → Type} [Monad m]

/-! ## Questions -/

def lastHeightQuery (chain : String) : Statement :=
  ⟨"SELECT MAX(height) FROM blocks WHERE chain_name = $1", [.text (some chain)]⟩

def findQuery (space : AddressSpace) (addresses : List String) : Statement :=
  ⟨"SELECT address, id FROM " ++ space.role.table ++ " WHERE chain_name = $1 AND address = ANY($2)",
    [.text (some space.chain), .texts addresses]⟩

def newerQuery (space : AddressSpace) (since : AddressId) : Statement :=
  ⟨"SELECT address, id FROM " ++ space.role.table ++ " WHERE chain_name = $1 AND id > $2 ORDER BY id",
    [.text (some space.chain), .int4 since]⟩

/-! ## Answers -/

/-- An address and its id. -/
def pair? : List Cell → Option (String × AddressId)
  | [.text address, .int id] => some (address, id)
  | _ => none

def pairs (rows : List (List Cell)) : List (String × AddressId) := rows.filterMap pair?

def idsOf (pairs : List (String × AddressId)) : AddressIds :=
  pairs.foldl (fun ids (address, id) => ids.insert address id) ∅

/-- The highest id, or another one if there is none. -/
def highest (since : AddressId) : List (String × AddressId) → AddressId
  | [] => since
  | (_, id) :: rest => rest.foldl (fun n (_, id) => max n id) id

/-- A stored height; there are none below zero. -/
def heightOf : Cell → Except Storage.Error (Option UInt64)
  | .int n =>
    if 0 ≤ n then .ok (some n.toNat.toUInt64)
    else .error (.invalidData "blocks.height" "out of range integral type conversion attempted")
  | _ => .ok none

/-- The height that the first row tells. -/
def lastHeightOf (rows : Except Fault (List (List Cell))) : Except Storage.Error (Option UInt64) :=
  match rows with
  | .ok ((cell :: _) :: _) => heightOf cell
  | .ok _ => .error (Fault.noRow.during "get_last_block_height")
  | .error f => .error (f.during "get_last_block_height")

namespace Session

variable (s : Session m)

/-! ## Calls -/

/-- Inserts rows into the table that they are for. -/
def insertBatch : Batch → m (Except Storage.Error UInt64)
  | .blocks rows => s.insertAll blocks rows
  | .signings rows => s.insertAll signings rows
  | .transactions rows => s.insertAll transactions rows
  | .sends rows => s.insertAll sends rows
  | .calls rows => s.insertAll calls rows
  | .packages rows => s.insertAll packages rows
  | .runs rows => s.insertAll runs rows

/-- Answers a call to storage. -/
def answer : (c : Call) → m c.Answer
  | .lastHeight chain => do
    let rows ← s.fetch (lastHeightQuery chain)
    pure (lastHeightOf rows : Except Storage.Error (Option UInt64))
  | .find space wanted =>
    if wanted.isEmpty then
      pure (.ok ∅ : Except Storage.Error AddressIds)
    else do
      let rows ← s.fetch (findQuery space wanted)
      let found := (rows.mapError (·.during "find_existing_addresses")).map pairs
      pure (found.map idsOf : Except Storage.Error AddressIds)
  | .newer space since => do
    let rows ← s.fetch (newerQuery space since)
    let found := (rows.mapError (·.during "get_all_addresses")).map pairs
    pure (found.map fun pairs => (idsOf pairs, highest since pairs) : Except Storage.Error (AddressIds × AddressId))
  | .insertAddresses space wanted => do
    let touched ← s.insertAll (addresses space) wanted
    pure (touched.map fun _ => () : Except Storage.Error Unit)
  | .insert batch => s.insertBatch batch

end Session

/-! ## Setting up -/

def migrationError (f : Fault) : Storage.Error := .migration f.message

/-- Makes the tables of a database. -/
def Session.makeTables (s : Session m) : m (Except Storage.Error Unit) := do
  let result ← s.migrate
  pure (result.mapError migrationError)

def connectionError (f : Fault) : Storage.Error := .connection f.message

/-- Sets a database up, if a session with it comes about. -/
def setUp (session : Except Fault (Session m)) : m (Except IndexError Unit) := do
  match session with
  | .error f => pure (.error (.setup ("could not connect to the database: " ++ (connectionError f).message)))
  | .ok s =>
    let result ← s.makeTables
    pure (result.mapError fun e => .setup ("migration failed: " ++ e.message))

end ChainIndex.Sql
