import ChainIndex.Proofs.Number.Sum
import ChainIndex.Sql.Storage
import Mathlib.Algebra.Order.Floor.Div

/-!
# Rows go to a database in slices

Rows of one table are cut into slices that fit one statement each, and the statements are carried out one after
another until one fails. Here a database is any session with a state of its own; beside it a record is kept of the
statements and of what came of each (`Session.recorded`).

**What a statement carries** (`Layout.Carries`). Its text names the columns of the table and has a row of places for
every row of its slice, as long as there are columns; the places are numbered through, and there is one value for each,
row by row and column by column. There are never more of them than a statement may have.

That takes a table whose statement, number of columns and values of a row are about the same columns
(`Table.Follows`). Nothing in a table makes them agree; for the tables that there are they do (`follows_loadOf`,
`follows_addresses`).

**Every writer sends its rows once** (`rows_sent_in_slices`): the slices put together are the rows, there are as many
as it takes if all but the last are full, and up to a failure each is carried out once and in order. The writers of
rows tell how many rows were touched in all. The writer of addresses tells nobody (`addresses_uncounted`).
-/

namespace ChainIndex

/-- There are as many pieces as it takes if all but the last are full. -/
theorem length_pieces {α : Type} {size : Nat} (positive : 0 < size) (as : List α) :
    (pieces size as).length = as.length ⌈/⌉ size := by
  fun_induction pieces size as with
  | case1 => exact (zero_ceilDiv size).symm
  | case2 a rest ih =>
    rw [List.length_cons, ih, List.length_drop, List.length_cons, Nat.ceilDiv_eq_add_pred_div,
      Nat.ceilDiv_eq_add_pred_div]
    rcases Nat.lt_or_ge rest.length size with last | more
    · rw [Nat.div_eq_of_lt (by omega), show rest.length + 1 + size - 1 = rest.length + size by omega,
        Nat.add_div_right _ positive, Nat.div_eq_of_lt last]
    · rw [show rest.length + 1 + size - 1 = rest.length - (size - 1) + size - 1 + size by omega,
        Nat.add_div_right _ positive]

theorem ne_nil_of_mem_pieces {α : Type} {size : Nat} {as piece : List α} (member : piece ∈ pieces size as) :
    piece ≠ [] := by
  fun_induction pieces size as with
  | case1 => simp at member
  | case2 a rest ih =>
    rcases List.mem_cons.1 member with rfl | later
    · exact List.cons_ne_nil _ _
    · exact ih later

namespace Sql

open Storage

variable {α : Type}

/-! ## What a statement carries -/

/-- A column, and what a row has in it. -/
structure Column (α : Type) where
  name : String
  value : α → Param

/-- A table as rows of a kind fill it. -/
structure Layout (α : Type) where
  name : String
  columns : List (Column α)

/-- How statements about a layout begin. -/
def Layout.opening (l : Layout α) : String :=
  "INSERT INTO " ++ l.name ++ " (" ++ String.intercalate ", " (l.columns.map (·.name)) ++ ") "

/-- The text of an insert into a table, with names of columns and rows of numbered places. -/
def insertInto (table : String) (names : List String) (places : List (List Nat)) : String :=
  "INSERT INTO " ++ table ++ " (" ++ String.intercalate ", " names ++ ") VALUES " ++
    String.intercalate ", "
      (places.map fun row => "(" ++ String.intercalate ", " (row.map fun k => "$" ++ toString k) ++ ")") ++
    " ON CONFLICT DO NOTHING"

/-- A statement inserts some rows into a table. -/
structure Layout.Carries (l : Layout α) (slice : List α) (st : Statement) : Prop where
  some_ : slice ≠ []
  text : ∃ places : List (List Nat),
    st.sql = insertInto l.name (l.columns.map (·.name)) places ∧ places.length = slice.length ∧
      (∀ row ∈ places, row.length = (l.columns.map (·.name)).length) ∧
      places.flatten = List.range' 1 st.params.length
  params : st.params = slice.flatMap fun row => l.columns.map (·.value row)
  count : st.params.length = (l.columns.map (·.name)).length * slice.length
  limit : st.params.length ≤ 65535

namespace Table

/-- The statement, the number of columns and the values of a row are about the same columns, of which there are some,
but not more than a statement has places. -/
structure Follows (t : Table α) (l : Layout α) : Prop where
  opening : t.opening = l.opening
  width : t.width = l.columns.length
  bind (row : α) : t.bind row = l.columns.map (·.value row)
  some_ : 1 ≤ l.columns.length
  few : l.columns.length ≤ maxPlaces

variable {t : Table α} {l : Layout α}

theorem Follows.rowsPerStatement (follows : t.Follows l) : t.rowsPerStatement = maxPlaces / l.columns.length := by
  rw [Table.rowsPerStatement, follows.width]
  exact Nat.max_eq_right (Nat.div_pos follows.few follows.some_)

theorem Follows.values (follows : t.Follows l) (rows : List α) :
    t.values rows = rows.flatMap fun row => l.columns.map (·.value row) :=
  List.flatMap_congr fun row _ => follows.bind row

theorem Follows.length_values (follows : t.Follows l) (rows : List α) :
    (t.values rows).length = l.columns.length * rows.length := by
  rw [follows.values, List.length_flatMap]
  simp [Nat.mul_comm]

/-- A row has as many places as there are columns. -/
theorem Follows.length_place (follows : t.Follows l) {rows : List α} {first : Nat} {place : List Nat}
    (member : place ∈ t.places first rows) : place.length = l.columns.length := by
  induction rows generalizing first with
  | nil => cases member
  | cons row rest ih =>
    rcases List.mem_cons.1 member with rfl | later
    · rw [List.length_range', follows.bind, List.length_map]
    · exact ih later

theorem Follows.insertText (follows : t.Follows l) (rows : List α) :
    t.insertText rows = insertInto l.name (l.columns.map (·.name)) (t.places 1 rows) := by
  -- `unfold` would make equation lemmas for these texts, which takes many seconds; so it is with `Layout.opening`.
  delta Table.insertText insertInto
  have opened : l.opening ++ "VALUES " =
      "INSERT INTO " ++ l.name ++ " (" ++ String.intercalate ", " (l.columns.map (·.name)) ++ ") VALUES " := by
    delta Layout.opening
    rw [String.append_assoc]
    rfl
  rw [follows.opening, opened]
  rfl

theorem Follows.carries (follows : t.Follows l) {slice : List α} (some_ : slice ≠ [])
    (short : slice.length ≤ t.rowsPerStatement) : l.Carries slice (t.insert slice) where
  some_ := some_
  text := by
    refine ⟨t.places 1 slice, follows.insertText slice, t.length_places 1 slice, ?_, t.flatten_places 1 slice⟩
    intro place member
    rw [List.length_map]
    exact follows.length_place member
  params := follows.values slice
  count := by rw [List.length_map]; exact follows.length_values slice
  limit := by
    rw [follows.rowsPerStatement] at short
    calc (t.values slice).length
      _ = l.columns.length * slice.length := follows.length_values slice
      _ ≤ l.columns.length * (maxPlaces / l.columns.length) := Nat.mul_le_mul_left _ short
      _ ≤ maxPlaces := Nat.mul_div_le maxPlaces _

end Table

/-! ## The tables -/

namespace Column

def text (name : String) (value : α → String) : Column α := ⟨name, fun row => .ofText (value row)⟩

def id (name : String) (value : α → AddressId) : Column α := ⟨name, fun row => .int4 (value row)⟩

def time (value : α → Moment) : Column α := ⟨"timestamp", fun row => .ofTime (value row)⟩

end Column

namespace Layout

def addresses (space : AddressSpace) : Layout String where
  name := space.role.table
  columns := [.text "address" fun address => address, .text "chain_name" fun _ => space.chain]

def blocks : Layout BlockRow where
  name := "blocks"
  columns :=
    [⟨"hash", fun row => .bytes row.hash⟩, ⟨"height", fun row => .int8 row.height⟩, .time (·.time),
      .text "chain_name" (·.chain), .id "proposer_address" (·.proposer), ⟨"txs", fun row => .texts row.transactions⟩]

def signings : Layout SigningRow where
  name := "validator_block_signing"
  columns :=
    [⟨"block_height", fun row => .int8 row.height⟩, .time (·.time), .text "chain_name" (·.chain),
      .id "proposer" (·.proposer), ⟨"signed_vals", fun row => .int4s row.signed⟩]

def transactions : Layout TransactionRow where
  name := "transaction_general"
  columns :=
    [.text "tx_hash" (·.hash), .text "chain_name" (·.chain), ⟨"block_height", fun row => .int8 row.height⟩,
      .time (·.time), ⟨"msg_type", fun row => .text row.messageType?⟩, ⟨"signers", fun row => .int4s row.signers⟩,
      .text "memo" (·.memo), ⟨"fee_amount", fun row => .int8 row.fee.amount⟩, .text "fee_denom" (·.fee.denom),
      ⟨"gas_wanted", fun row => .int8 row.gasWanted⟩, ⟨"gas_used", fun row => .int8 row.gasUsed⟩,
      ⟨"success", fun row => .bool row.success⟩, ⟨"events", fun row => .json row.events⟩]

/-- The columns that the tables of all messages begin with. -/
def headColumns (head : α → MessageHead) : List (Column α) :=
  [.text "tx_hash" fun row => (head row).hash, .text "chain_name" fun row => (head row).chain,
    ⟨"message_counter", fun row => .int2 (head row).counter⟩, .time fun row => (head row).time,
    ⟨"signers", fun row => .int4s (head row).signers⟩]

def sends : Layout SendRow where
  name := "bank_msg_send"
  columns :=
    headColumns (·.head) ++
      [.id "from_address" (·.sender), .id "to_address" (·.recipient), ⟨"amount", fun row => coins row.amount⟩]

def calls : Layout CallRow where
  name := "vm_msg_call"
  columns :=
    headColumns (·.head) ++
      [.id "caller" (·.caller), .text "pkg_path" (·.path), .text "func_name" (·.function),
        ⟨"args", fun row => .texts row.args⟩, ⟨"send", fun row => coins row.send⟩,
        ⟨"max_deposit", fun row => coins row.maxDeposit⟩]

/-- A table of messages with a package, whose signer stands in a column of the table's own. -/
def packagesOf (name signer : String) : Layout PackageRow where
  name := name
  columns :=
    headColumns (·.head) ++
      [.id signer (·.signer), .text "pkg_path" (·.package.path), .text "pkg_name" (·.package.name),
        ⟨"pkg_file_names", fun row => .texts row.package.files⟩, ⟨"send", fun row => coins row.send⟩,
        ⟨"max_deposit", fun row => coins row.maxDeposit⟩]

end Layout

/-- Rows on their way into a table. -/
structure Load where
  {Row : Type}
  table : Table Row
  layout : Layout Row
  rows : List Row

/-- Where the rows of a batch go. -/
def loadOf : Batch → Load
  | .blocks rows => ⟨blocks, .blocks, rows⟩
  | .signings rows => ⟨signings, .signings, rows⟩
  | .transactions rows => ⟨transactions, .transactions, rows⟩
  | .sends rows => ⟨sends, .sends, rows⟩
  | .calls rows => ⟨calls, .calls, rows⟩
  | .packages rows => ⟨packages, .packagesOf "vm_msg_add_package" "creator", rows⟩
  | .runs rows => ⟨runs, .packagesOf "vm_msg_run" "caller", rows⟩

/-- **What is said of a table agrees**: its statement names the columns that are counted and bound, in their order. -/
theorem follows_loadOf (batch : Batch) : (loadOf batch).table.Follows (loadOf batch).layout := by
  -- With the rows out of sight, the two texts of a case are closed and can be compared by computing them.
  cases batch with
  | blocks =>
    change blocks.Follows .blocks
    exact ⟨by decide +kernel, rfl, fun _ => rfl, by decide, by decide⟩
  | signings =>
    change signings.Follows .signings
    exact ⟨by decide +kernel, rfl, fun _ => rfl, by decide, by decide⟩
  | transactions =>
    change transactions.Follows .transactions
    exact ⟨by decide +kernel, rfl, fun _ => rfl, by decide, by decide⟩
  | sends =>
    change sends.Follows .sends
    exact ⟨by decide +kernel, rfl, fun _ => rfl, by decide, by decide⟩
  | calls =>
    change calls.Follows .calls
    exact ⟨by decide +kernel, rfl, fun _ => rfl, by decide, by decide⟩
  | packages =>
    change packages.Follows (.packagesOf "vm_msg_add_package" "creator")
    exact ⟨by decide +kernel, rfl, fun _ => rfl, by decide, by decide⟩
  | runs =>
    change runs.Follows (.packagesOf "vm_msg_run" "caller")
    exact ⟨by decide +kernel, rfl, fun _ => rfl, by decide, by decide⟩

theorem follows_addresses (space : AddressSpace) : (addresses space).Follows (.addresses space) := by
  refine ⟨?_, rfl, fun _ => rfl, Nat.le_of_ble_eq_true rfl, Nat.le_of_ble_eq_true rfl⟩
  have names : " (" ++ String.intercalate ", " ["address", "chain_name"] ++ ") " = " (address, chain_name) " := by
    decide +kernel
  have opening : (Layout.addresses space).opening = "INSERT INTO " ++ space.role.table ++
      (" (" ++ String.intercalate ", " ["address", "chain_name"] ++ ") ") := by
    delta Layout.opening
    simp only [String.append_assoc]
    rfl
  rw [opening, names]
  rfl

/-! ## What is carried out -/

/-- The statements that a database was given, the first first, and what came of each. -/
abbrev Record := List (Statement × Except Fault UInt64)

/-- A session that keeps a record. -/
def Session.recorded {σ : Type} (s : Session (StateM σ)) : Session (StateM (σ × Record)) where
  execute st := fun (db, record) =>
    let (outcome, db) := s.execute st db
    (outcome, db, record ++ [(st, outcome)])
  fetch st := fun (db, record) =>
    let (rows, db) := s.fetch st db
    (rows, db, record)
  migrate := fun (db, record) =>
    let (made, db) := s.migrate db
    (made, db, record)

/-- All of some statements were carried out, or those in front of one that failed. -/
inductive Ran (statements : List Statement) : Record → Except Fault (List UInt64) → Prop
  | through (counts : List UInt64) (each : counts.length = statements.length) :
    Ran statements (statements.zip (counts.map .ok)) (.ok counts)
  | failed (before after : List Statement) (st : Statement) (counts : List UInt64) (f : Fault)
    (parts : statements = before ++ st :: after) (each : counts.length = before.length) :
    Ran statements (before.zip (counts.map .ok) ++ [(st, .error f)]) (.error f)

theorem Ran.cons {statements : List Statement} {record : Record} {result : Except Fault (List UInt64)}
    (ran : Ran statements record result) (st : Statement) (n : UInt64) :
    Ran (st :: statements) ((st, .ok n) :: record) (result.map (n :: ·)) := by
  cases ran with
  | through counts each => exact .through (n :: counts) (congrArg (· + 1) each)
  | failed before after st' counts f parts each =>
    exact .failed (st :: before) after st' (n :: counts) f (congrArg (st :: ·) parts) (congrArg (· + 1) each)

variable {σ : Type}

/-- **Statements are carried out in order**, up to one that fails. -/
theorem exists_ran (s : Session (StateM σ)) (statements : List Statement) (touched : UInt64) (db : σ)
    (before : Record) :
    ∃ result record db', Ran statements record result ∧
      s.recorded.executeAll touched statements (db, before) =
        (result.map fun counts => counts.foldl (· + ·) touched, db', before ++ record) := by
  induction statements generalizing touched db before with
  | nil => exact ⟨.ok [], [], db, .through [] rfl, by rw [List.append_nil]; rfl⟩
  | cons st rest ih =>
    rcases answered : s.execute st db with ⟨outcome, db₁⟩
    cases outcome with
    | error f =>
      refine ⟨.error f, [(st, .error f)], db₁, .failed [] rest st [] f rfl rfl, ?_⟩
      simp only [Session.executeAll, bind, StateT.bind, Session.recorded, answered]
      rfl
    | ok n =>
      obtain ⟨result, record, db', ran, runs⟩ := ih (touched + n) db₁ (before ++ [(st, .ok n)])
      refine ⟨result.map (n :: ·), (st, .ok n) :: record, db', ran.cons st n, ?_⟩
      have summed : (result.map (n :: ·)).map (fun counts => counts.foldl (· + ·) touched) =
          result.map fun counts => counts.foldl (· + ·) (touched + n) := by
        cases result <;> rfl
      rw [List.append_cons, summed, ← runs]
      simp only [Session.executeAll, bind, StateT.bind, Session.recorded, answered]

/-! ## Writers -/

/-- The rows fall into slices, as few as there can be, and each has a statement. The statements are carried out in
order, all of them or up to one that fails; a failure is named after what writing into the table is called. -/
def Load.Sent (load : Load) (record : Record) (counts : Except Storage.Error (List UInt64)) : Prop :=
  ∃ (slices : List (List load.Row)) (statements : List Statement) (ran : Except Fault (List UInt64)),
    slices.flatten = load.rows ∧
    slices.length = load.rows.length ⌈/⌉ (65535 / (load.layout.columns.map (·.name)).length) ∧
    List.Forall₂ load.layout.Carries slices statements ∧
    Ran statements record ran ∧
    counts = ran.mapError fun f => .query load.table.operation f.message

theorem Load.exists_sent (load : Load) (follows : load.table.Follows load.layout) (s : Session (StateM σ)) (db : σ) :
    ∃ record counts db', load.Sent record counts ∧
      s.recorded.insertAll load.table load.rows (db, []) =
        (counts.map fun ns => (exactSum ns).toUInt64, db', record) := by
  obtain ⟨table, layout, rows⟩ := load
  obtain ⟨ran, record, db', carriedOut, runs⟩ := exists_ran s (table.inserts rows) 0 db []
  have carried : List.Forall₂ layout.Carries (pieces table.rowsPerStatement rows) (table.inserts rows) := by
    rw [Table.inserts, List.forall₂_map_right_iff, List.forall₂_same]
    intro slice member
    exact follows.carries (ne_nil_of_mem_pieces member) (length_le_of_mem_pieces table.rowsPerStatement_pos member)
  refine ⟨record, _, db', ⟨_, _, ran, flatten_pieces _ rows, ?_, carried, carriedOut, rfl⟩, ?_⟩
  · rw [length_pieces table.rowsPerStatement_pos, follows.rowsPerStatement, List.length_map]
    rfl
  · rw [Session.insertAll]
    simp only [bind, StateT.bind, runs, List.nil_append]
    cases ran with
    | error f => rfl
    | ok ns =>
      simp only [Except.map, Except.mapError, foldl_add_eq, UInt64.zero_add]
      rfl

theorem insertBatch_eq {m : Type → Type} [Monad m] (s : Session m) (batch : Batch) :
    s.insertBatch batch = s.insertAll (loadOf batch).table (loadOf batch).rows := by
  cases batch <;> rfl

/-- **Every writer sends its rows once**, whatever the database answers: in slices that are as few as there can be, one
statement each, in order and up to a failure. What the seven writers of rows tell is how many rows were touched in all.
The writer of addresses tells only that nothing failed. -/
theorem rows_sent_in_slices (s : Session (StateM σ)) (db : σ) :
    (∀ batch, ∃ record counts db', (loadOf batch).Sent record counts ∧
      s.recorded.answer (.insert batch) (db, []) = (counts.map fun ns => (exactSum ns).toUInt64, db', record)) ∧
    ∀ space wanted, ∃ record counts db', Load.Sent ⟨addresses space, .addresses space, wanted⟩ record counts ∧
      s.recorded.answer (.insertAddresses space wanted) (db, []) = (counts.map fun _ => (), db', record) := by
  constructor
  · intro batch
    obtain ⟨record, counts, db', sent, runs⟩ := (loadOf batch).exists_sent (follows_loadOf batch) s db
    refine ⟨record, counts, db', sent, ?_⟩
    rw [← runs, Session.answer, insertBatch_eq]
  · intro space wanted
    obtain ⟨record, counts, db', sent, runs⟩ :=
      Load.exists_sent ⟨addresses space, .addresses space, wanted⟩ (follows_addresses space) s db
    refine ⟨record, counts, db', sent, ?_⟩
    rw [Session.answer]
    simp only [bind, StateT.bind, runs]
    cases counts <;> rfl

example : (transactions.width, transactions.rowsPerStatement) = (13, 5041) := rfl

/-- A database that touches the same number of rows with every statement. -/
def touching (n : UInt64) : Session (StateM Unit) where
  execute _ := pure (.ok n)
  fetch _ := pure (.ok [])
  migrate := pure (.ok ())

/-- An address is inserted, or it was there already: the writer tells the same. -/
theorem addresses_uncounted :
    let write (n : UInt64) := (touching n).recorded.answer (.insertAddresses ⟨"test", .account⟩ ["a"]) ((), [])
    (∀ n, (write n).1 = .ok () ∧ (write n).2.2.map Prod.snd = [.ok n]) ∧
      ¬∃ told : Except Storage.Error Unit → UInt64, ∀ n, told (write n).1 = (exactSum [n]).toUInt64 := by
  intro write
  have slices : pieces (addresses ⟨"test", .account⟩).rowsPerStatement ["a"] = [["a"]] := by
    rw [pieces, List.take_nil, List.drop_nil, pieces_nil]
  have told (n : UInt64) : (write n).1 = .ok () ∧ (write n).2.2.map Prod.snd = [.ok n] := by
    simp only [write, Session.answer, Session.insertAll, Table.inserts, slices]
    exact ⟨rfl, rfl⟩
  refine ⟨told, ?_⟩
  rintro ⟨read, sums⟩
  have none_ := sums 0
  have one := sums 1
  rw [(told _).1] at none_ one
  exact absurd (none_.symm.trans one) (by decide)

end Sql

end ChainIndex
