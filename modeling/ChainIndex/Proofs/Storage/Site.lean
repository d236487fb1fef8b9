import ChainIndex.Proofs.Address.Books
import ChainIndex.Proofs.Address.Numbers
import ChainIndex.Proofs.Node.Fixed
import ChainIndex.Proofs.Rows.Ids
import ChainIndex.Proofs.Running.Stage

/-!
# A site

A database, the address books of the indexer, and a node that does not change. The database hands out
ids and ignores a row whose key it has already; if it is `faulty`, any call to it may fail at any time.
A call that is not answered yet may have done a part of its work, and a call that fails leaves what it
did until then.

Whatever is asked, there is an answer (`site_answering`), so runs at a site can always be gone on with.
-/

namespace ChainIndex

open Storage Running

/-! ## Storing rows -/

namespace Storage

/-- Stores a row unless there is one with its key. -/
def insertRow (rows : List Row) (row : Row) : List Row :=
  if row.key ∈ rows.map Row.key then rows else rows ++ [row]

def insertRows (rows new : List Row) : List Row := new.foldl insertRow rows

variable {rows new : List Row} {row : Row}

theorem prefix_insertRow : rows <+: insertRow rows row := by
  unfold insertRow
  split
  · exact List.prefix_rfl
  · exact List.prefix_append _ _

theorem prefix_insertRows : rows <+: insertRows rows new := by
  induction new generalizing rows with
  | nil => exact List.prefix_rfl
  | cons row new ih => exact prefix_insertRow.trans ih

theorem mem_or_mem_of_insertRow {r : Row} (h : r ∈ insertRow rows row) : r ∈ rows ∨ r = row := by
  unfold insertRow at h
  split at h
  · exact .inl h
  · simpa using h

/-- Nothing is stored but what is to be stored. -/
theorem mem_or_mem_of_insertRows (h : row ∈ insertRows rows new) : row ∈ rows ∨ row ∈ new := by
  induction new generalizing rows with
  | nil => exact .inl h
  | cons first new ih =>
    rcases ih h with old | later
    · rcases mem_or_mem_of_insertRow old with old | rfl
      · exact .inl old
      · exact .inr List.mem_cons_self
    · exact .inr (List.mem_cons_of_mem first later)

theorem nodup_insertRow (h : (rows.map Row.key).Nodup) : ((insertRow rows row).map Row.key).Nodup := by
  unfold insertRow
  split
  · exact h
  · next absent =>
    rw [List.map_append, List.nodup_append]
    refine ⟨h, by simp, fun key present other single => ?_⟩
    obtain rfl : other = row.key := by simpa using single
    rintro rfl
    exact absent present

/-- No two rows have the same key. -/
theorem nodup_insertRows (h : (rows.map Row.key).Nodup) : ((insertRows rows new).map Row.key).Nodup := by
  induction new generalizing rows with
  | nil => exact h
  | cons row new ih => exact ih (nodup_insertRow h)

theorem key_mem_insertRow : row.key ∈ (insertRow rows row).map Row.key := by
  unfold insertRow
  split
  · next present => exact present
  · simp

/-- Whatever is to be stored, a row with its key is there in the end. -/
theorem key_mem_insertRows (h : row ∈ new) : row.key ∈ (insertRows rows new).map Row.key := by
  induction new generalizing rows with
  | nil => simp at h
  | cons first new ih =>
    rcases List.mem_cons.1 h with rfl | later
    · have kept : (insertRow rows row).map Row.key <+: (insertRows (insertRow rows row) new).map Row.key :=
        prefix_insertRows.map Row.key
      exact kept.subset key_mem_insertRow
    · exact ih later

end Storage

/-! ## The site -/

structure Site where
  ids : AddressSpace → AddressIds
  rows : List Row
  books : Books

namespace Site

def empty : Site := ⟨fun _ => ∅, [], fun _ => .empty⟩

def setIds (w : Site) (space : AddressSpace) (ids : AddressIds) : Site :=
  { w with ids := fun other => if other = space then ids else w.ids other }

def insert (w : Site) (rows : List Row) : Site := { w with rows := insertRows w.rows rows }

/-- A call that does not fail. -/
def Performs (w : Site) : (c : Call) → c.Payload → Site → Prop
  | .find space asked, found, w' => w' = w ∧ found = (w.ids space).filter fun a _ => asked.contains a
  | .insertAddresses space asked, _, w' => ∃ ids, Numbers (w.ids space) asked ids ∧ w' = w.setIds space ids
  | .insert b, _, w' => w' = w.insert b.rows
  | .lastHeight _, _, w' => w' = w
  | .newer .., _, w' => w' = w

/-- A lookup finds the ids of those addresses that it was asked for. -/
theorem getElem?_asked {ids : AddressIds} {asked : List String} {a : String} {id : AddressId} :
    (ids.filter fun a _ => asked.contains a)[a]? = some id ↔ a ∈ asked ∧ ids[a]? = some id := by
  rw [Std.TreeMap.getElem?_filter', Option.filter_eq_some_iff, List.contains_iff_mem, and_comm]

/-- What a call may have done that is not answered yet. -/
def Begins (w : Site) : Call → Site → Prop
  | .insertAddresses space asked, w' => ∃ part ⊆ asked, ∃ ids, Numbers (w.ids space) part ids ∧ w' = w.setIds space ids
  | .insert b, w' => ∃ part ⊆ b.rows, w' = w.insert part
  | _, _ => False

end Site

/-- The world at a site. Nobody else writes to the database. -/
def site (node : FixedNode) (faulty : Prop) : Environment Site where
  answers w q r w' :=
    match q, r with
    | .request (.block height), r => w' = w ∧ FixedNode.Answers (node.block height) r
    | .request (.execution hash), r => w' = w ∧ FixedNode.Answers (node.execution hash) r
    | .call c, .ok a => w.Performs c a w'
    | .call _, .error _ => faulty ∧ w' = w
    | .book ref step, r => r = ((w.books ref).step step).1 ∧ w' = { w with books := w.books.after (.book ref step) }
    | _, _ => w' = w
  works w q w' :=
    match q with
    | .call c => w.Begins c w'
    | _ => False
  others _ _ := False

theorem Site.exists_performs (w : Site) (c : Call) : ∃ a w', w.Performs c a w' := by
  cases c with
  | lastHeight chain => exact ⟨none, w, rfl⟩
  | find space asked => exact ⟨_, w, rfl, rfl⟩
  | newer space since => exact ⟨(∅, 0), w, rfl⟩
  | insertAddresses space asked =>
    obtain ⟨ids, numbers⟩ := Numbers.exists_numbers (w.ids space) asked
    exact ⟨(), _, ids, numbers, rfl⟩
  | insert b => exact ⟨(0 : UInt64), _, rfl⟩

/-- There is always an answer. -/
theorem site_answering (node : FixedNode) (faulty : Prop) : (site node faulty).Answering := by
  intro w q
  cases q with
  | request r =>
    have failure : Node.Error := ⟨r.target, .rateLimitExhausted⟩
    cases r with
    | block height =>
      obtain ⟨r, answers⟩ := FixedNode.exists_answers failure (node.block height)
      exact ⟨r, w, rfl, answers⟩
    | execution hash =>
      obtain ⟨r, answers⟩ := FixedNode.exists_answers failure (node.execution hash)
      exact ⟨r, w, rfl, answers⟩
    | latest => exact ⟨.error failure, w, rfl⟩
    | health => exact ⟨.error failure, w, rfl⟩
  | call c =>
    obtain ⟨a, w', performs⟩ := w.exists_performs c
    exact ⟨.ok a, w', performs⟩
  | insertAll batches => exact ⟨.ok 0, w, rfl⟩
  | book ref step => exact ⟨_, _, rfl, rfl⟩
  | token => exact ⟨(), w, rfl⟩
  | tryToken => exact ⟨true, w, rfl⟩
  | sleep d => exact ⟨(), w, rfl⟩
  | pause d => exact ⟨(), w, rfl⟩
  | stopped => exact ⟨false, w, rfl⟩

end ChainIndex
