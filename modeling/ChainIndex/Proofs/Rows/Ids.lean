import ChainIndex.Proofs.Rows.Table

/-!
# Rows up to their ids

Which ids addresses get is a matter of chance, so rows of two runs are compared by what their ids stand
for. `mapIds` puts other ids into a row, `key` is what a table tells its rows apart by, and the `view`
of a row has the addresses in place of the ids. The key has no ids in it, and rows with other ids for
the same addresses have the same view.
-/

namespace ChainIndex.Storage

/-! ## Other ids -/

section MapIds

variable (f : AddressId → AddressId)

def BlockRow.mapIds (r : BlockRow) : BlockRow := { r with proposer := f r.proposer }

def SigningRow.mapIds (r : SigningRow) : SigningRow :=
  { r with proposer := f r.proposer, signed := r.signed.map f }

def TransactionRow.mapIds (r : TransactionRow) : TransactionRow := { r with signers := r.signers.map f }

def MessageHead.mapIds (h : MessageHead) : MessageHead := { h with signers := h.signers.map f }

def SendRow.mapIds (r : SendRow) : SendRow :=
  { r with head := r.head.mapIds f, sender := f r.sender, recipient := f r.recipient }

def CallRow.mapIds (r : CallRow) : CallRow := { r with head := r.head.mapIds f, caller := f r.caller }

def PackageRow.mapIds (r : PackageRow) : PackageRow := { r with head := r.head.mapIds f, signer := f r.signer }

def MessageRows.mapIds (m : MessageRows) : MessageRows :=
  { send := m.send.map (·.mapIds f)
    call := m.call.map (·.mapIds f)
    addPackage := m.addPackage.map (·.mapIds f)
    run := m.run.map (·.mapIds f) }

theorem MessageRows.mapIds_concat (parts : List MessageRows) :
    (concat parts).mapIds f = concat (parts.map (·.mapIds f)) := by
  simp [concat, mapIds, List.map_flatMap, List.flatMap_map]

end MapIds

namespace Row

/-- What the ids of a row stand for. -/
def role : Row → AddressRole
  | .block _ | .signing _ => .validator
  | _ => .account

def ids : Row → List AddressId
  | .block r => [r.proposer]
  | .signing r => r.proposer :: r.signed
  | .transaction r => r.signers
  | .send r => r.sender :: r.recipient :: r.head.signers
  | .call r => r.caller :: r.head.signers
  | .package r => r.signer :: r.head.signers
  | .run r => r.signer :: r.head.signers

def mapIds (f : AddressRole → AddressId → AddressId) : Row → Row
  | .block r => .block (r.mapIds (f .validator))
  | .signing r => .signing (r.mapIds (f .validator))
  | .transaction r => .transaction (r.mapIds (f .account))
  | .send r => .send (r.mapIds (f .account))
  | .call r => .call (r.mapIds (f .account))
  | .package r => .package (r.mapIds (f .account))
  | .run r => .run (r.mapIds (f .account))

variable (f g : AddressRole → AddressId → AddressId) (row : Row)

@[simp] theorem role_mapIds : (row.mapIds f).role = row.role := by
  cases row <;> rfl

@[simp] theorem ids_mapIds : (row.mapIds f).ids = row.ids.map (f row.role) := by
  cases row <;> simp [mapIds, ids, role, BlockRow.mapIds, SigningRow.mapIds, TransactionRow.mapIds, SendRow.mapIds,
    CallRow.mapIds, PackageRow.mapIds, MessageHead.mapIds]

@[simp] theorem mapIds_mapIds : (row.mapIds f).mapIds g = row.mapIds fun role id => g role (f role id) := by
  cases row <;> simp [mapIds, BlockRow.mapIds, SigningRow.mapIds, TransactionRow.mapIds, SendRow.mapIds,
    CallRow.mapIds, PackageRow.mapIds, MessageHead.mapIds]

@[simp] theorem mapIds_id : (row.mapIds fun _ id => id) = row := by
  cases row <;> simp [mapIds, BlockRow.mapIds, SigningRow.mapIds, TransactionRow.mapIds, SendRow.mapIds,
    CallRow.mapIds, PackageRow.mapIds, MessageHead.mapIds]

end Row

theorem MessageRows.rows_mapIds (f : AddressRole → AddressId → AddressId) (m : MessageRows) :
    (m.mapIds (f .account)).rows = m.rows.map (·.mapIds f) := by
  simp only [rows, mapIds, List.map_append, List.map_map]
  rfl

/-! ## Keys -/

/-- What a table tells its rows apart by. -/
inductive RowKey where
  | block (height : Int64) (chain : String) (time : Moment)
  | signing (height : Int64) (chain : String) (time : Moment)
  | transaction (hash chain : String) (time : Moment)
  | message (type : MessageType) (hash chain : String) (counter : Int16) (time : Moment)
  deriving DecidableEq, Repr

def MessageHead.key (type : MessageType) (h : MessageHead) : RowKey := .message type h.hash h.chain h.counter h.time

namespace Row

def key : Row → RowKey
  | .block r => .block r.height r.chain r.time
  | .signing r => .signing r.height r.chain r.time
  | .transaction r => .transaction r.hash r.chain r.time
  | .send r => r.head.key .send
  | .call r => r.head.key .call
  | .package r => r.head.key .addPackage
  | .run r => r.head.key .run

@[simp] theorem key_mapIds (f : AddressRole → AddressId → AddressId) (row : Row) : (row.mapIds f).key = row.key := by
  cases row <;> rfl

/-! ## Views -/

/-- A row without its ids, and what they stand for. -/
def view (owner : AddressRole → AddressId → Option String) (row : Row) : Row × List (Option String) :=
  (row.mapIds fun _ _ => 0, row.ids.map (owner row.role))

theorem key_view (owner : AddressRole → AddressId → Option String) (row : Row) : (row.view owner).1.key = row.key :=
  row.key_mapIds fun _ _ => 0

/-- Other ids for the same addresses look the same. -/
theorem view_mapIds {owner owner' : AddressRole → AddressId → Option String} {f : AddressRole → AddressId → AddressId}
    (same : ∀ role id, owner' role (f role id) = owner role id) (row : Row) :
    (row.mapIds f).view owner' = row.view owner := by
  simp [view, same]

end Row

end ChainIndex.Storage
