import ChainIndex.Envelope.Reader
import ChainIndex.Proofs.Wire.Grammar

/-!
# What reading a message does

Reading a message changes what is held, field by field. What a row of fields does to it is a function, and the same
function whatever is held, whatever stands behind the row and wherever the message around it ends (`Takes`). So rows
that stand one behind the other are functions one after the other, and a row that is put between them does what it
does on its own.

A law says of a row of fields which functions it may stand for. **A reader obeys a law** (`Lawful`) if one field that
it takes does, and if laws of rows that stand one behind the other go together. Then whole rows obey it
(`Lawful.run`): by induction on the rounds of the reader. For each kind of field there is one rule that leads from the
law of the message inside to the law of the message around it.

Merging is spoken of without any bound on the number of bytes: a declared length is one that was read.
-/

namespace ChainIndex.Wire

variable {α β γ : Type} {read : FieldReader α} {inner : FieldReader β} {depth limit fuel : Nat} {k : Key}
variable {data front back rest : List UInt8} {b b' : Buffer} {items : List Item} {a a' : α} {f g : α → α}
variable {Law : List Item → (α → α) → Prop} {InnerLaw : List Item → (β → β) → Prop}

/-- Reading `data` changes what is held by `f`. -/
def Takes (read : FieldReader α) (depth : Nat) (data : List UInt8) (f : α → α) : Prop :=
  ∀ (x : α) (rest : List UInt8) (limit fuel : Nat), limit ≤ rest.length → (data ++ rest).length ≤ fuel →
    ∃ left, rest.length ≤ left ∧
      fieldsUntil read depth limit fuel x (.ofList (data ++ rest)) =
        fieldsUntil read depth limit left (f x) (.ofList rest)

namespace Takes

theorem nil : Takes read depth [] id :=
  fun _ _ _ fuel _ enough => ⟨fuel, enough, rfl⟩

theorem append (first : Takes read depth front f) (second : Takes read depth back g) :
    Takes read depth (front ++ back) (g ∘ f) := by
  intro x rest limit fuel inside enough
  rw [List.append_assoc] at enough ⊢
  obtain ⟨fuel', enough', front_read⟩ :=
    first x (back ++ rest) limit fuel (by rw [List.length_append]; omega) enough
  obtain ⟨fuel'', enough'', back_read⟩ := second (f x) rest limit fuel' inside enough'
  exact ⟨fuel'', enough'', front_read.trans back_read⟩

theorem field {name : List UInt8} (named : IsKey name k)
    (takes : ∀ x rest, read depth k x (.ofList (data ++ rest)) = .ok (f x, .ofList rest)) :
    Takes read depth (name ++ data) f := by
  intro x rest limit fuel inside enough
  have keyed := named.pos
  simp only [List.length_append] at enough
  obtain ⟨fuel, rfl⟩ : ∃ n, fuel = n + 1 := ⟨fuel - 1, by omega⟩
  refine ⟨fuel, by omega, ?_⟩
  have more : limit < (Buffer.ofList (name ++ data ++ rest)).size := by
    simp only [Buffer.size_ofList, List.length_append]
    omega
  rw [fieldsUntil, if_pos more, List.append_assoc, key_exact.complete named]
  simp only [bare, takes]

end Takes

theorem fieldsUntil_end (read : FieldReader α) (depth fuel : Nat) (a : α) (rest : List UInt8) :
    fieldsUntil read depth rest.length fuel a (.ofList rest) = .ok (a, .ofList rest) := by
  cases fuel <;> simp [fieldsUntil]

/-- A whole buffer that is one row of fields. -/
theorem Takes.decode (takes : Takes read maxDepth data f) (empty : α) : Wire.decode read empty data = .ok (f empty) := by
  obtain ⟨left, -, same⟩ := takes empty [] 0 data.length (Nat.le_refl 0) (by simp)
  rw [List.append_nil] at same
  have stop : fieldsUntil read maxDepth 0 left (f empty) (.ofList []) = .ok (f empty, .ofList []) :=
    fieldsUntil_end read maxDepth left (f empty) []
  simp only [Wire.decode, Buffer.size_ofList, same, stop]
  rfl

/-! ## Laws -/

/-- A step that reads the value of one field, whenever it succeeds, does what the law says of such a field. -/
def Obeys (step : α → Buffer → Except Error (α × Buffer)) (depth : Nat) (k : Key) (Law : List Item → (α → α) → Prop) :
    Prop :=
  ∀ a b a' b', step a b = .ok (a', b') → ∃ data v f, b.bytes = data ++ b'.bytes ∧ Holds depth k data v ∧
    Law [⟨k.tag, v⟩] f ∧ f a = a' ∧ ∀ x rest, step x (.ofList (data ++ rest)) = .ok (f x, .ofList rest)

/-- A reader that obeys a law. -/
structure Lawful (read : FieldReader α) (depth : Nat) (Law : List Item → (α → α) → Prop) : Prop where
  nil : Law [] id
  append : ∀ {fs gs : List Item} {f g : α → α}, Law fs f → Law gs g → Law (fs ++ gs) (g ∘ f)
  field : ∀ k, Obeys (read depth k) depth k Law

/-- The first round of a reader that has not reached its end. -/
theorem fieldsUntil_succ (success : fieldsUntil read depth limit (fuel + 1) a b = .ok (a', b')) (more : limit < b.size) :
    ∃ k b₁ a₁ b₂, key b = .ok (k, b₁) ∧ read depth k a b₁ = .ok (a₁, b₂) ∧
      fieldsUntil read depth limit fuel a₁ b₂ = .ok (a', b') := by
  rw [fieldsUntil, if_pos more] at success
  rcases named : key b with e | ⟨k, b₁⟩
  · rw [named] at success
    cases success
  · simp only [named, bare] at success
    rcases value : read depth k a b₁ with e | ⟨a₁, b₂⟩
    · rw [value] at success
      cases success
    · simp only [value] at success
      exact ⟨k, b₁, a₁, b₂, rfl, value, success⟩

theorem fieldsUntil_stop (success : fieldsUntil read depth limit fuel a b = .ok (a', b'))
    (stops : fuel = 0 ∨ ¬limit < b.size) : b.size = limit ∧ a' = a ∧ b' = b := by
  cases fuel with
  | zero =>
    rw [fieldsUntil] at success
    split at success
    · next ending =>
      obtain ⟨rfl, rfl⟩ := Prod.mk.inj (Except.ok.inj success)
      exact ⟨ending, rfl, rfl⟩
    · cases success
  | succ fuel =>
    rw [fieldsUntil, if_neg (by simpa using stops)] at success
    split at success
    · next ending =>
      obtain ⟨rfl, rfl⟩ := Prod.mk.inj (Except.ok.inj success)
      exact ⟨ending, rfl, rfl⟩
    · cases success

namespace Lawful

/-- **A reader that succeeds has read a row of fields, and has done what the law says of them.** -/
theorem run (lawful : Lawful read depth Law) (success : fieldsUntil read depth limit fuel a b = .ok (a', b')) :
    ∃ data items f, b.bytes = data ++ b'.bytes ∧ b'.size = limit ∧ Items (Holds depth) data items ∧ Law items f ∧
      f a = a' ∧ Takes read depth data f := by
  induction fuel generalizing a b with
  | zero =>
    obtain ⟨ending, rfl, rfl⟩ := fieldsUntil_stop success (.inl rfl)
    exact ⟨[], [], id, rfl, ending, .nil, lawful.nil, rfl, .nil⟩
  | succ fuel ih =>
    by_cases more : limit < b.size
    · obtain ⟨k, b₁, a₁, b₂, keyed, value, later⟩ := fieldsUntil_succ success more
      obtain ⟨name, here, named⟩ := key_exact.sound keyed
      obtain ⟨data, v, f, there, holds, law, rfl, takes⟩ := lawful.field k a b₁ a₁ b₂ value
      obtain ⟨data', items, g, behind, ending, rest, laws, rfl, takes'⟩ := ih later
      refine ⟨name ++ (data ++ data'), _, g ∘ f, ?_, ending, .cons named holds rest, lawful.append law laws, rfl, ?_⟩
      · rw [here, there, behind]
        simp only [List.append_assoc]
      · rw [← List.append_assoc]
        exact (Takes.field named takes).append takes'
    · obtain ⟨ending, rfl, rfl⟩ := fieldsUntil_stop success (.inr more)
      exact ⟨[], [], id, rfl, ending, .nil, lawful.nil, rfl, .nil⟩

/-- A row of fields in front: the reader does what the law says of them and goes on behind. -/
theorem split (lawful : Lawful read depth Law) (row : Items (Holds depth) front items) (inside : limit ≤ back.length)
    (success : fieldsUntil read depth limit fuel a (.ofList (front ++ back)) = .ok (a', b')) :
    ∃ f left, Law items f ∧ Takes read depth front f ∧
      fieldsUntil read depth limit left (f a) (.ofList back) = .ok (a', b') := by
  induction row generalizing a fuel with
  | nil => exact ⟨id, fuel, lawful.nil, .nil, success⟩
  | @cons name data front k v items named holds row ih =>
    have keyed := named.pos
    have more : limit < (Buffer.ofList (name ++ (data ++ front) ++ back)).size := by
      simp only [Buffer.size_ofList, List.length_append]
      omega
    cases fuel with
    | zero =>
      have := (fieldsUntil_stop success (.inl rfl)).1
      omega
    | succ fuel =>
      obtain ⟨k', b₁, a₁, b₂, keyed, value, later⟩ := fieldsUntil_succ success more
      rw [List.append_assoc, key_exact.complete named] at keyed
      obtain ⟨rfl, rfl⟩ := Prod.mk.inj (Except.ok.inj keyed)
      obtain ⟨data', v', f, there, holds', law, rfl, takes⟩ := lawful.field k a _ a₁ b₂ value
      rw [Buffer.bytes_ofList, List.append_assoc] at there
      obtain ⟨rfl, rfl, behind⟩ := holds.unique holds' there
      obtain rfl : b₂ = .ofList (front ++ back) := Buffer.ext behind.symm
      obtain ⟨g, left, laws, takes', last⟩ := ih later
      refine ⟨g ∘ f, left, lawful.append law laws, ?_, last⟩
      rw [← List.append_assoc]
      exact (Takes.field named takes).append takes'

theorem fieldsUntil_of_decode {empty : α} (success : Wire.decode read empty data = .ok a) :
    ∃ b, fieldsUntil read maxDepth 0 data.length empty (.ofList data) = .ok (a, b) := by
  rw [Wire.decode] at success
  rcases whole : fieldsUntil read maxDepth 0 data.length empty (.ofList data) with e | ⟨a₁, b⟩
  · simp only [Buffer.size_ofList, whole] at success
    cases success
  · simp only [Buffer.size_ofList, whole] at success
    obtain rfl : a₁ = a := Except.ok.inj success
    exact ⟨b, rfl⟩

/-- A run to the end leaves nothing. -/
theorem run_all (lawful : Lawful read depth Law) (success : fieldsUntil read depth 0 fuel a (.ofList data) = .ok (a', b')) :
    ∃ items f, Items (Holds depth) data items ∧ Law items f ∧ f a = a' ∧ Takes read depth data f := by
  obtain ⟨data', items, f, here, ending, row, law, value, takes⟩ := lawful.run success
  have nothing : b'.bytes = [] := List.eq_nil_of_length_eq_zero (by rw [b'.size_eq, ending])
  rw [nothing, List.append_nil, Buffer.bytes_ofList] at here
  exact ⟨items, f, here ▸ row, law, value, here ▸ takes⟩

/-- **A whole message is a row of fields.** -/
theorem decode (lawful : Lawful read maxDepth Law) {empty : α} (success : Wire.decode read empty data = .ok a) :
    ∃ items f, Items (Holds maxDepth) data items ∧ Law items f ∧ f empty = a ∧ Takes read maxDepth data f := by
  obtain ⟨b, whole⟩ := fieldsUntil_of_decode success
  exact lawful.run_all whole

/-- A message whose first fields are known does what these do and then what the others do. -/
theorem decode_append (lawful : Lawful read maxDepth Law) {empty : α} (row : Items (Holds maxDepth) front items)
    (success : Wire.decode read empty (front ++ back) = .ok a) :
    ∃ f g, Takes read maxDepth front f ∧ Takes read maxDepth back g ∧ g (f empty) = a := by
  obtain ⟨b, whole⟩ := fieldsUntil_of_decode success
  obtain ⟨f, left, -, takes, later⟩ := lawful.split row (Nat.zero_le _) whole
  obtain ⟨-, g, -, -, value, takes'⟩ := lawful.run_all later
  exact ⟨f, g, takes, takes', value⟩

/-- A message inside a message: what stands in it is a row of fields that obeys the law of its reader. -/
theorem message (lawful : Lawful inner depth InnerLaw) {wire : WireType} {v v' : β}
    (success : Wire.message inner (depth + 1) wire v b = .ok (v', b')) :
    wire = .delimited ∧ ∃ head data items f, b.bytes = head ++ data ++ b'.bytes ∧ IsNumber head data.length ∧
      Items (Holds depth) data items ∧ InnerLaw items f ∧ f v = v' ∧ ∀ x rest,
        Wire.message inner (depth + 1) .delimited x (.ofList (head ++ data ++ rest)) = .ok (f x, .ofList rest) := by
  rw [Wire.message] at success
  by_cases fits : wire = .delimited
  · subst fits
    refine ⟨rfl, ?_⟩
    rcases length : varint b with e | ⟨n, b₁⟩
    · simp only [expect, if_true, bare, length, bind, Except.bind] at success
      cases success
    · simp only [expect, if_true, bare, length, bind, Except.bind] at success
      split at success
      · cases success
      · next enough =>
        obtain ⟨head, here, number⟩ := varint_exact.sound length
        obtain ⟨data, items, f, there, ending, row, law, value, takes⟩ := lawful.run success
        have whole := congrArg List.length there
        rw [List.length_append, b₁.size_eq, b'.size_eq, ending] at whole
        obtain rfl : n = data.length := by omega
        refine ⟨head, data, items, f, by rw [here, there, List.append_assoc], number, row, law, value, ?_⟩
        intro x rest
        obtain ⟨left, -, same⟩ := takes x rest rest.length (data ++ rest).length (Nat.le_refl _) (Nat.le_refl _)
        have inside : ¬(data ++ rest).length < data.length := by
          rw [List.length_append]
          omega
        have stop : (data ++ rest).length - data.length = rest.length := by
          rw [List.length_append]
          omega
        rw [List.append_assoc]
        simp only [Wire.message, expect, if_true, bare, varint_exact.complete number, bind, Except.bind,
          Buffer.size_ofList, if_neg inside, stop]
        rw [same, fieldsUntil_end]
  · simp only [expect, if_neg fits, bare, bind, Except.bind] at success
    cases success

end Lawful

/-! ## The law of one field -/

namespace Obeys

variable {step : α → Buffer → Except Error (α × Buffer)} {parent name : String}

/-- A value that is read as one thing and put into the message. -/
theorem assign {reader : Buffer → Except Fault (γ × Buffer)} {P : List UInt8 → γ → Prop} (put : γ → α → α)
    (reads : ∀ a b, step a b = Wire.assign parent name (reader b) fun c => put c a) (exact : Exact reader P)
    (law : ∀ data c, P data c → ∃ v, Holds depth k data v ∧ Law [⟨k.tag, v⟩] (put c)) : Obeys step depth k Law := by
  intro a b a' b' success
  rw [reads] at success
  rcases value : reader b with e | ⟨c, b₁⟩
  · simp only [Wire.assign, value] at success
    cases success
  · simp only [Wire.assign, value] at success
    obtain ⟨rfl, rfl⟩ := Prod.mk.inj (Except.ok.inj success)
    obtain ⟨data, here, holds⟩ := exact.sound value
    obtain ⟨v, stands, law⟩ := law data c holds
    refine ⟨data, v, put c, here, stands, law, rfl, fun x rest => ?_⟩
    simp only [reads, Wire.assign, exact.complete holds rest]
    rfl

theorem text (put : String → α → α)
    (reads : ∀ a b, step a b = Wire.assign parent name (Wire.text k.wire b) fun s => put s a)
    (law : ∀ v s, Law [⟨k.tag, v⟩] (put s)) : Obeys step (depth + 1) k Law := by
  refine assign put reads (text_exact k.wire) ?_
  rintro _ s ⟨wire, head, payload, rfl, number, -⟩
  exact ⟨.bytes payload, .inl (wire ▸ .delimited number), law _ s⟩

theorem bytes (put : List UInt8 → α → α)
    (reads : ∀ a b, step a b = Wire.assign parent name (Wire.bytes k.wire b) fun v => put v a)
    (law : ∀ v payload, Law [⟨k.tag, v⟩] (put payload)) : Obeys step (depth + 1) k Law := by
  refine assign put reads (bytes_exact k.wire) ?_
  rintro _ payload ⟨wire, head, rfl, number⟩
  exact ⟨.bytes payload, .inl (wire ▸ .delimited number), law _ payload⟩

theorem int64 (put : Int64 → α → α)
    (reads : ∀ a b, step a b = Wire.assign parent name (Wire.int64 k.wire b) fun n => put n a)
    (law : ∀ v n, Law [⟨k.tag, v⟩] (put n)) : Obeys step (depth + 1) k Law := by
  refine assign put reads (int64_exact k.wire) ?_
  rintro data _ ⟨wire, n, number, rfl⟩
  exact ⟨.number n, .inl (wire ▸ .varint number), law _ _⟩

/-- A field that the message has no place for. -/
theorem passOver (reads : ∀ a b, step a b = Wire.passOver depth k a b) (law : ∀ v, Law [⟨k.tag, v⟩] id) :
    Obeys step depth k Law := by
  intro a b a' b' success
  rw [reads] at success
  rcases skip : skipValue depth k b with e | b₁
  · simp only [Wire.passOver, skip] at success
    cases success
  · simp only [Wire.passOver, skip] at success
    obtain ⟨rfl, rfl⟩ := Prod.mk.inj (Except.ok.inj success)
    obtain ⟨data, here, v, stands⟩ := (skipped_exact depth k).sound (skipped_eq_ok.2 skip)
    refine ⟨data, v, id, here, stands, law v, rfl, fun x rest => ?_⟩
    simp only [reads, Wire.passOver, skipValue_complete stands]
    rfl

/-- A message that is made anew and put into the message around it. -/
theorem element (lawful : Lawful inner depth InnerLaw) {empty : β} (put : β → α → α)
    (reads : ∀ a b, step a b = Raw.element parent name inner empty (depth + 1) k b fun v => put v a)
    (law : ∀ data items f, Items (Holds depth) data items → InnerLaw items f →
      Law [⟨k.tag, .bytes data⟩] (put (f empty))) : Obeys step (depth + 1) k Law := by
  intro a b a' b' success
  rw [reads] at success
  rcases value : Wire.message inner (depth + 1) k.wire empty b with e | ⟨v, b₁⟩
  · simp only [Raw.element, value] at success
    cases success
  · simp only [Raw.element, value] at success
    obtain ⟨rfl, rfl⟩ := Prod.mk.inj (Except.ok.inj success)
    obtain ⟨wire, head, data, items, f, here, number, row, obeys, rfl, takes⟩ := lawful.message value
    refine ⟨head ++ data, .bytes data, put (f empty), here, .inl (wire ▸ .delimited number), law _ _ _ row obeys, rfl,
      fun x rest => ?_⟩
    simp only [reads, Raw.element, wire, takes]
    rfl

/-- A message that is read on top of the one that is held. -/
theorem merged (lawful : Lawful inner depth InnerLaw) {empty : β} (held : α → Option β) (put : Option β → α → α)
    (reads : ∀ a b, step a b = Raw.merged parent name inner (held a) empty (depth + 1) k b fun v => put v a)
    (law : ∀ data items f, Items (Holds depth) data items → InnerLaw items f →
      Law [⟨k.tag, .bytes data⟩] fun a => put (some (f ((held a).getD empty))) a) :
    Obeys step (depth + 1) k Law := by
  intro a b a' b' success
  rw [reads] at success
  rcases value : Wire.message inner (depth + 1) k.wire ((held a).getD empty) b with e | ⟨v, b₁⟩
  · simp only [Raw.merged, value] at success
    cases success
  · simp only [Raw.merged, value] at success
    obtain ⟨rfl, rfl⟩ := Prod.mk.inj (Except.ok.inj success)
    obtain ⟨wire, head, data, items, f, here, number, row, obeys, rfl, takes⟩ := lawful.message value
    refine ⟨head ++ data, .bytes data, _, here, .inl (wire ▸ .delimited number), law _ _ _ row obeys, rfl,
      fun x rest => ?_⟩
    simp only [reads, Raw.merged, wire, takes]
    rfl

end Obeys

end ChainIndex.Wire
