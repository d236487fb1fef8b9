import ChainIndex.Pieces
import ChainIndex.Sql.Statement

/-!
# Bulk inserts

Rows of one table are inserted in as few statements as the database takes: a statement has a place for
every value of every row in it, and no more than 65535 places. Rows that are there already are left
alone. The first statement that fails ends the insert; those before it stay done.
-/

namespace ChainIndex.Sql

variable {α : Type}

/-- How rows are written into a table. That the statement, the number of columns and the values of a row are about the
same columns is up to whoever describes the table. -/
structure Table (α : Type) where
  /-- What writing into it is called. -/
  operation : String
  /-- How statements begin, up to the values. -/
  opening : String
  /-- How many columns a row is said to have. -/
  width : Nat
  /-- The values of a row. -/
  bind : α → List Param

/-- How many places a statement has at most. -/
def maxPlaces : Nat := 65535

namespace Table

variable (t : Table α)

/-- How many rows a statement takes. -/
def rowsPerStatement : Nat := max 1 (maxPlaces / t.width)

/-- The values for the places of some rows, row by row. -/
def values (rows : List α) : List Param := rows.flatMap t.bind

/-- The numbers of the places of some rows, of which the first is given. A row has a place for each of its values. -/
def places (first : Nat) : List α → List (List Nat)
  | [] => []
  | row :: rest => List.range' first (t.bind row).length :: places (first + (t.bind row).length) rest

/-- The places of a row. -/
def placesText (row : List Nat) : String :=
  "(" ++ String.intercalate ", " (row.map fun k => "$" ++ toString k) ++ ")"

/-- The text of a statement for some rows. -/
def insertText (rows : List α) : String :=
  t.opening ++ "VALUES " ++ String.intercalate ", " ((t.places 1 rows).map placesText) ++ " ON CONFLICT DO NOTHING"

/-- The statement that inserts some rows. -/
def insert (rows : List α) : Statement := ⟨t.insertText rows, t.values rows⟩

theorem length_places (first : Nat) (rows : List α) : (t.places first rows).length = rows.length := by
  induction rows generalizing first with
  | nil => rfl
  | cons row rest ih => rw [places, List.length_cons, List.length_cons, ih]

/-- Places are numbered through, one for each value. -/
theorem flatten_places (first : Nat) (rows : List α) :
    (t.places first rows).flatten = List.range' first (t.values rows).length := by
  induction rows generalizing first with
  | nil => rfl
  | cons row rest ih =>
    rw [places, List.flatten_cons, ih, List.range'_append_1, values, values, List.flatMap_cons, List.length_append]

theorem rowsPerStatement_pos : 0 < t.rowsPerStatement := by
  unfold rowsPerStatement
  omega

end Table

/-- The statements that insert all rows. -/
def Table.inserts (t : Table α) (rows : List α) : List Statement := (pieces t.rowsPerStatement rows).map t.insert

variable {m : Type → Type} [Monad m]

/-- Carries statements out until one fails, and adds up the rows that they touched. -/
def Session.executeAll (s : Session m) (touched : UInt64) : List Statement → m (Except Fault UInt64)
  | [] => pure (.ok touched)
  | statement :: rest => do
    match ← s.execute statement with
    | .ok n => s.executeAll (touched + n) rest
    | .error f => pure (.error f)

/-- Inserts rows and tells how many of them are new. -/
def Session.insertAll (s : Session m) (t : Table α) (rows : List α) : m (Except Storage.Error UInt64) := do
  let result ← s.executeAll 0 (t.inserts rows)
  pure (result.mapError (·.during t.operation))

end ChainIndex.Sql
