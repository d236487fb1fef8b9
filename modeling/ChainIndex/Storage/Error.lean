/-!
# Failures of storage
-/

namespace ChainIndex.Storage

inductive Error where
  | connection (text : String)
  /-- A statement of the named operation was refused. -/
  | query (operation text : String)
  | migration (text : String)
  /-- A column holds what it must not hold. -/
  | invalidData (column text : String)
  | other (text : String)
  deriving DecidableEq, Repr

def Error.message : Error → String
  | .connection text => "Failed to connect to database: " ++ text
  | .query operation text => "Query failed during " ++ operation ++ ": " ++ text
  | .migration text => "Migration failed: " ++ text
  | .invalidData column text => "Unexpected value in " ++ column ++ ": " ++ text
  | .other text => "Database error: " ++ text

end ChainIndex.Storage
