import ChainIndex.Rows.Build

/-!
# Rows of all tables

The rows of the seven tables as one type, so that what holds of every row is said once. The rows that
an operation stores in several batches are those of its items, whichever batch they came into.
-/

namespace ChainIndex.Storage

inductive Row where
  | block (r : BlockRow)
  | signing (r : SigningRow)
  | transaction (r : TransactionRow)
  | send (r : SendRow)
  | call (r : CallRow)
  | package (r : PackageRow)
  | run (r : PackageRow)

def Batch.rows : Batch → List Row
  | .blocks rows => rows.map .block
  | .signings rows => rows.map .signing
  | .transactions rows => rows.map .transaction
  | .sends rows => rows.map .send
  | .calls rows => rows.map .call
  | .packages rows => rows.map .package
  | .runs rows => rows.map .run

@[simp] theorem Batch.length_rows (b : Batch) : b.rows.length = b.length := by
  cases b <;> simp [rows, length]

theorem Batch.rows_of_length {b : Batch} (h : b.length = 0) : b.rows = [] :=
  List.eq_nil_of_length_eq_zero (b.length_rows.trans h)

namespace MessageRows

def rows (m : MessageRows) : List Row :=
  m.send.map .send ++ m.call.map .call ++ m.addPackage.map .package ++ m.run.map .run

@[simp] theorem length_rows (m : MessageRows) : m.rows.length = m.length := by
  simp [rows, length, Nat.add_assoc]

theorem rows_of_length {m : MessageRows} (h : m.length = 0) : m.rows = [] :=
  List.eq_nil_of_length_eq_zero (m.length_rows.trans h)

theorem length_of_mem_batches {m : MessageRows} {b : Batch} (h : b ∈ m.batches) : b.length ≠ 0 := by
  have : 0 < b.length := by simpa using (List.mem_filter.1 h).2
  omega

/-- The batches have the rows of the messages, and no others. -/
theorem exists_mem_batches {m : MessageRows} {row : Row} : (∃ b ∈ m.batches, row ∈ b.rows) ↔ row ∈ m.rows := by
  have filled : ∀ b : Batch, row ∈ b.rows → 0 < b.length := fun b present =>
    b.length_rows ▸ List.length_pos_of_mem present
  simp only [batches, List.mem_filter, decide_eq_true_eq]
  constructor
  · rintro ⟨b, ⟨member, -⟩, present⟩
    rcases List.mem_cons.1 member with rfl | member
    · exact List.mem_append_left _ (List.mem_append_left _ (List.mem_append_left _ present))
    rcases List.mem_cons.1 member with rfl | member
    · exact List.mem_append_left _ (List.mem_append_left _ (List.mem_append_right _ present))
    rcases List.mem_cons.1 member with rfl | member
    · exact List.mem_append_left _ (List.mem_append_right _ present)
    obtain rfl := List.mem_singleton.1 member
    exact List.mem_append_right _ present
  · intro present
    rcases List.mem_append.1 present with present | present
    · rcases List.mem_append.1 present with present | present
      · rcases List.mem_append.1 present with present | present
        · exact ⟨.sends m.send, ⟨by simp, filled _ present⟩, present⟩
        · exact ⟨.calls m.call, ⟨by simp, filled _ present⟩, present⟩
      · exact ⟨.packages m.addPackage, ⟨by simp, filled _ present⟩, present⟩
    · exact ⟨.runs m.run, ⟨by simp, filled _ present⟩, present⟩

/-- Put together, the rows are those of the parts. -/
theorem mem_rows_concat {parts : List MessageRows} {row : Row} :
    row ∈ (concat parts).rows ↔ ∃ part ∈ parts, row ∈ part.rows := by
  simp only [rows, concat, List.mem_append, List.mem_map, List.mem_flatMap]
  constructor
  · rintro (((⟨r, ⟨part, member, present⟩, rfl⟩ | ⟨r, ⟨part, member, present⟩, rfl⟩) |
      ⟨r, ⟨part, member, present⟩, rfl⟩) | ⟨r, ⟨part, member, present⟩, rfl⟩)
    · exact ⟨part, member, .inl (.inl (.inl ⟨r, present, rfl⟩))⟩
    · exact ⟨part, member, .inl (.inl (.inr ⟨r, present, rfl⟩))⟩
    · exact ⟨part, member, .inl (.inr ⟨r, present, rfl⟩)⟩
    · exact ⟨part, member, .inr ⟨r, present, rfl⟩⟩
  · rintro ⟨part, member, ((⟨r, present, rfl⟩ | ⟨r, present, rfl⟩) | ⟨r, present, rfl⟩) | ⟨r, present, rfl⟩⟩
    · exact .inl (.inl (.inl ⟨r, ⟨part, member, present⟩, rfl⟩))
    · exact .inl (.inl (.inr ⟨r, ⟨part, member, present⟩, rfl⟩))
    · exact .inl (.inr ⟨r, ⟨part, member, present⟩, rfl⟩)
    · exact .inr ⟨r, ⟨part, member, present⟩, rfl⟩

end MessageRows

end ChainIndex.Storage

namespace ChainIndex

/-- What is kept are the results of the items that yield one. -/
@[simp] theorem mem_keepGood {α β : Type} {f : α → Except IndexError β} {items : List α} {b : β} :
    b ∈ keepGood f items ↔ ∃ a ∈ items, f a = .ok b := by
  have toOption : ∀ r : Except IndexError β, r.toOption = some b ↔ r = .ok b := by
    rintro (e | c)
    · exact ⟨nofun, nofun⟩
    · exact ⟨fun h => congrArg Except.ok (Option.some.inj h), fun h => congrArg some (Except.ok.inj h)⟩
  simp [keepGood, toOption]

end ChainIndex
