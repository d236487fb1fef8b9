import ChainIndex.Proofs.Address.Books
import ChainIndex.Proofs.Contract.Task
import ChainIndex.Proofs.Processing.Operations
import ChainIndex.Proofs.Rows.Records

/-!
# What stored rows refer to

A processor runs any number of its operations side by side, over a store that gives each address of a
space one positive id for good. Storage may fail in any way, others may write, and nothing is said of
the order of anything.

**Theorem (`handed_rows_refer`).** Every row that an operation hands to storage records an item of that
operation, and wherever the item names an address the row has its id: the one that storage has for
that address, in the space of validators or of accounts as the row asks for it, and never zero.

The invariant is that every entry of every book is one of storage. A solver enters only what a lookup
told it, and a lookup tells only what storage has, whatever failed before it. Ids stay, so an entry
that was true when it was told is true when it is entered and when a row is built from it.
-/

namespace ChainIndex

open Storage Running

/-- Storage gives an address of a space at most one id, a positive one, and keeps it. It tells no ids
but these. The books are changed only by what is entered into them; others may enter ids that storage
has. -/
structure KeepsIds {σ : Type} (E : Environment σ) (idOf : σ → AddressSpace → String → Option AddressId)
    (books : σ → Books) : Prop where
  positive : ∀ {w space a id}, idOf w space a = some id → 0 < id
  answers : ∀ {w q r w' space a id}, E.answers w q r w' → idOf w space a = some id → idOf w' space a = some id
  works : ∀ {w q w' space a id}, E.works w q w' → idOf w space a = some id → idOf w' space a = some id
  others : ∀ {w w' space a id}, E.others w w' → idOf w space a = some id → idOf w' space a = some id
  tells : ∀ {w space asked w' a id} {ids : AddressIds}, E.answers w (.call (.find space asked)) (.ok ids) w' →
    ids[a]? = some id → idOf w' space a = some id
  looks : ∀ {w ref step r w'}, E.answers w (.book ref step) r w' → r = ((books w ref).step step).1
  enters : ∀ {w q r w'}, E.answers w q r w' → books w' = (books w).after q
  idle : ∀ {w q w'}, E.works w q w' → books w' = books w
  foreign : ∀ {w w' ref a id}, E.others w w' → (books w' ref).ids[a]? = some id →
    (books w ref).ids[a]? = some id ∨ idOf w' ref.space a = some id

/-- The entries of the books are ids that storage has. -/
def TrueBooks (idOf : AddressSpace → String → Option AddressId) (books : Books) : Prop :=
  ∀ ref a id, (books ref).ids[a]? = some id → idOf ref.space a = some id

/-- Whether a row records an item of the operation. -/
def Operation.Yields (op : Operation) (chain : String) (means : AddressRole → String → AddressId → Prop) (row : Row) :
    Prop :=
  match op, row with
  | .blocks bs, .block r => ∃ b ∈ bs, r.Records (means .validator) chain b
  | .signings bs, .signing r => ∃ b ∈ bs, r.Records (means .validator) chain b
  | .transactions ds, .transaction r => ∃ d ∈ ds, r.Records (means .account) chain d
  | .messages ds, row => ∃ d ∈ ds, ∃ n ∈ d.envelope.messages, row.RecordsMessage (means .account) chain d n
  | _, _ => False

/-- The batches that a task hands to storage, or is about to. -/
def Running.Task.handed {β : Type} : Task β → List Batch
  | .asking (.call (.insert b)) _ => [b]
  | .storing parts _ => parts.map (·.batch)
  | _ => []

/-! ## Rows of operations -/

namespace Operation

variable {op : Operation} {chain : String} {row : Row}

theorem Yields.map {means means' : AddressRole → String → AddressId → Prop} {f : AddressRole → AddressId → AddressId}
    (h : op.Yields chain means row) (same : ∀ a id, means op.role a id → means' op.role a (f op.role id)) :
    op.Yields chain means' (row.mapIds f) := by
  cases op with
  | validatorAddresses bs => exact h.elim
  | blocks bs =>
    cases row with
    | block r => exact h.imp fun b ⟨member, records⟩ => ⟨member, records.map same⟩
    | _ => exact h.elim
  | signings bs =>
    cases row with
    | signing r => exact h.imp fun b ⟨member, records⟩ => ⟨member, records.map same⟩
    | _ => exact h.elim
  | transactions ds =>
    cases row with
    | transaction r => exact h.imp fun d ⟨member, records⟩ => ⟨member, records.map same⟩
    | _ => exact h.elim
  | messages ds =>
    obtain ⟨d, member, n, present, records⟩ := h
    exact ⟨d, member, n, present, records.map same⟩

theorem Yields.mono {means means' : AddressRole → String → AddressId → Prop} (h : op.Yields chain means row)
    (more : ∀ a id, means op.role a id → means' op.role a id) : op.Yields chain means' row := by
  simpa using h.map (f := fun _ id => id) more

/-- The rows of an operation record its items, with the ids of the book at hand. -/
theorem yields_of_mem_rows {ids : AddressIds} (h : row ∈ op.rows chain ids) :
    op.Yields chain (fun _ => Gives ids) row := by
  cases op with
  | validatorAddresses bs => simp [rows] at h
  | blocks bs =>
    obtain ⟨r, kept, rfl⟩ := List.mem_map.1 h
    obtain ⟨b, member, built⟩ := mem_keepGood.1 kept
    exact ⟨b, member, blockRow_eq_ok.1 built⟩
  | signings bs =>
    obtain ⟨r, kept, rfl⟩ := List.mem_map.1 h
    obtain ⟨b, member, built⟩ := mem_keepGood.1 kept
    exact ⟨b, member, signingRow_eq_ok.1 built⟩
  | transactions ds =>
    obtain ⟨r, kept, rfl⟩ := List.mem_map.1 h
    obtain ⟨d, member, built⟩ := mem_keepGood.1 kept
    exact ⟨d, member, DecodedExecution.row_eq_ok.1 built⟩
  | messages ds =>
    obtain ⟨all, kept, present⟩ := MessageRows.mem_rows_concat.1 h
    obtain ⟨d, member, built⟩ := mem_keepGood.1 kept
    obtain ⟨n, n_mem, records⟩ := DecodedExecution.recordsMessage_of_mem built present
    exact ⟨d, member, n, n_mem, records⟩

end Operation

/-! ## The contract of an operation -/

section Contract

variable {σ : Type} (idOf : σ → AddressSpace → String → Option AddressId) (books : σ → Books) (p : Processor)

/-- Ids stay, and books are true. -/
def idGrowth : Growth σ where
  Sound w := TrueBooks (idOf w) (books w)
  Later w w' := ∀ space a id, idOf w space a = some id → idOf w' space a = some id
  refl _ _ _ _ found := found
  trans later later' space a id found := later' space a id (later space a id found)

/-- What an id means to a processor: the address that has it in storage, in the space of the role. -/
def Processor.Means (w : σ) (role : AddressRole) (a : String) (id : AddressId) : Prop :=
  0 < id ∧ idOf w ⟨p.chain, role⟩ a = some id

theorem Processor.Means.later {w w' : σ} {role : AddressRole} {a : String} {id : AddressId}
    (later : (idGrowth idOf books).Later w w') (h : p.Means idOf w role a id) : p.Means idOf w' role a id :=
  ⟨h.1, later _ _ _ h.2⟩

/-- An operation hands only rows to storage that record its items, and enters only ids that storage has. -/
def Operation.contract (op : Operation) : Contract (idGrowth idOf books) where
  May w q :=
    match q with
    | .call (.insert b) => ∀ row ∈ b.rows, op.Yields p.chain (p.Means idOf w) row
    | .book ref (.learn a id) => idOf w ref.space a = some id
    | _ => True
  Told w q r :=
    match q, r with
    | .call (.find space _), r => ∀ ids : AddressIds, r = .ok ids → ∀ a id, ids[a]? = some id → idOf w space a = some id
    | .book ref .entries, (ids : AddressIds) => ∀ a id, ids[a]? = some id → idOf w ref.space a = some id
    | _, _ => True
  may_later {w w' q} later may := by
    split
    · next b => exact fun row member => (may row member).mono fun a id => Processor.Means.later idOf books p later
    · exact later _ _ _ may
    · trivial
  stored_later _ _ := trivial

theorem Operation.contract_serves (op : Operation) :
    (op.contract idOf books p).Serves p (fun _ _ => True) (fun w role a id => idOf w (p.bookOf role).space a = some id)
      (fun _ _ _ => True) (fun _ _ _ => True) (fun w row => op.Yields p.chain (p.Means idOf w) row) (fun _ _ => True)
      True := by
  refine Contract.serves_of_faulty (fun later holds => later _ _ _ holds) ?_ (fun holds => holds)
    (fun told found => told _ rfl _ _ found) (fun _ told found => told _ _ found) fun _ fit => fit
  intro w q unstored unlearnt
  cases q with
  | call c =>
    cases c with
    | insert b => exact absurd rfl (unstored b)
    | _ => trivial
  | book ref step =>
    cases step with
    | learn a id => exact absurd rfl (unlearnt ref a id)
    | _ => trivial
  | _ => trivial

end Contract

section

variable {σ : Type} {E : Environment σ} {idOf : σ → AddressSpace → String → Option AddressId} {books : σ → Books}
  {p : Processor}

theorem KeepsIds.honors (keeps : KeepsIds E idOf books) (op : Operation) : E.Honors (op.contract idOf books p) where
  keeps w w' sound others := by
    refine ⟨fun ref a id found => ?_, fun _ _ _ => keeps.others others⟩
    rcases keeps.foreign others found with old | new
    · exact keeps.others others (sound ref a id old)
    · exact new
  answers {w q r w'} sound may answers := by
    have later : (idGrowth idOf books).Later w w' := fun _ _ _ => keeps.answers answers
    refine ⟨fun ref a id found => ?_, later, ?_⟩
    · rw [keeps.enters answers] at found
      rcases Books.entry_of_after found with old | rfl
      · exact later _ _ _ (sound ref a id old)
      · exact later _ _ _ may
    · cases q with
      | call c =>
        cases c with
        | find space asked =>
          rintro ids rfl a id found
          exact keeps.tells answers found
        | _ => trivial
      | book ref step =>
        cases step with
        | entries =>
          intro a id found
          rw [keeps.looks answers] at found
          exact later _ _ _ (sound ref a id found)
        | _ => trivial
      | _ => trivial
  works {w q w'} sound _ works :=
    have later : (idGrowth idOf books).Later w w' := fun _ _ _ => keeps.works works
    ⟨fun ref a id found => later _ _ _ (sound ref a id (keeps.idle works ▸ found)), later⟩

theorem Operation.fits_contract (keeps : KeepsIds E idOf books) (wired : p.Wired) (op : Operation) :
    op.Fits (idGrowth idOf books) p.chain (fun w role a id => idOf w (p.bookOf role).space a = some id)
      fun w row => op.Yields p.chain (p.Means idOf w) row := by
  intro w ids _ holds row member
  refine (yields_of_mem_rows member).mono fun a id gives => ?_
  have stored : idOf w ⟨p.chain, op.role⟩ a = some id := wired op.role ▸ holds a id gives.1
  exact ⟨keeps.positive stored, stored⟩

theorem Operation.ensures_strand (keeps : KeepsIds E idOf books) (wired : p.Wired) (op : Operation) (w : σ) :
    (op.strand p).Ensures (op.contract idOf books p) (fun _ _ => True) w := by
  have serves := op.contract_serves idOf books p
  have fits := op.fits_contract keeps wired
  cases op with
  | validatorAddresses bs =>
    exact (serves.ensures_validatorAddresses fun _ _ _ => trivial).map fun _ _ _ _ _ => trivial
  | blocks bs => exact (serves.ensures_blocks fits fun sane => absurd trivial sane).map fun _ _ _ _ _ => trivial
  | signings bs => exact (serves.ensures_signings fits fun sane => absurd trivial sane).map fun _ _ _ _ _ => trivial
  | transactions ds => exact (serves.ensures_transactions (fun _ _ _ => trivial) fits).map fun _ _ _ _ _ => trivial
  | messages ds => exact (serves.ensures_messages (fun _ _ _ => trivial) fits).map fun _ _ _ _ _ => trivial

/-- A task that meets a contract hands only batches to storage that it may. -/
theorem Running.Task.Meets.may_of_handed {β : Type} {G : Growth σ} {C : Contract G} {post : σ → β → Prop} {w : σ}
    {t : Task β} (sound : G.Sound w) (meets : t.Meets C post w) {b : Batch} (handed : b ∈ t.handed) :
    C.May w (.call (.insert b)) := by
  unfold Task.handed at handed
  split at handed
  · obtain rfl := List.mem_singleton.1 handed
    exact (meets.2 w (G.refl w) sound).1
  · obtain ⟨part, member, rfl⟩ := List.mem_map.1 handed
    exact (meets.1 part member).1
  · simp at handed

/-- **Rows refer to what they name.** Whatever operations run side by side, begun from books that are
true, and however storage fails: a row that an operation hands to storage records one of its items,
with the ids that storage has for the addresses of the item, in the space of their role. -/
theorem handed_rows_refer {w₀ w : σ} {crew : Crew Operation (Except IndexError Unit)} (keeps : KeepsIds E idOf books)
    (wired : p.Wired) (loaded : TrueBooks (idOf w₀) (books w₀))
    (reached : Crew.Reaches E (Operation.strand p) w₀ w crew) {op : Operation}
    {t : Running.Task (Except IndexError Unit)} (member : (op, t) ∈ crew) {b : Batch}
    (handed : b ∈ t.handed) {row : Row} (present : row ∈ b.rows) :
    op.Yields p.chain (p.Means idOf w) row := by
  have ensures : ∀ (op : Operation) w, (idGrowth idOf books).Sound w →
      (op.strand p).Ensures (op.contract idOf books p) (fun _ _ => True) w :=
    fun op w _ => op.ensures_strand keeps wired w
  have honors := keeps.honors (p := p)
  obtain ⟨sound, meets⟩ := reached.meets (honors op).keeps honors ensures loaded
  exact (meets op t member).may_of_handed sound handed row present

end

/-! ## A store with one validator -/

namespace OneValidator

/-- The book of a processor that loaded the only id there is. -/
def ids : AddressIds := (∅ : AddressIds).insert "val" 7

def processor : Processor := ⟨"c", ⟨⟨"c", .account⟩, 0⟩, ⟨⟨"c", .validator⟩, 0⟩, ⟨.once, true⟩⟩

def books : Books := fun ref => if ref = processor.validators then ⟨ids, 7⟩ else .empty

def idOf (space : AddressSpace) (a : String) : Option AddressId :=
  if space = ⟨"c", .validator⟩ then ids[a]? else none

/-- Nothing can be looked up but the books, and nothing changes. -/
def store : Environment Unit where
  answers _ q r _ :=
    match q, r with
    | .book ref .entries, r => r = (books ref).ids
    | .call (.insert _), _ => True
    | _, _ => False
  works _ _ _ := False
  others _ _ := False

theorem positive {space : AddressSpace} {a : String} {id : AddressId} (h : idOf space a = some id) : 0 < id := by
  unfold idOf at h
  split at h
  · rw [ids, Std.TreeMap.getElem?_insert] at h
    split at h
    · obtain rfl : 7 = id := by simpa using h
      decide
    · simp at h
  · simp at h

theorem keepsIds : KeepsIds store (fun _ => idOf) fun _ => books where
  positive := positive
  answers _ found := found
  works works := works.elim
  others others := others.elim
  tells answers := answers.elim
  looks {_ _ step _ _} answers := by
    cases step with
    | entries => exact answers
    | _ => exact answers.elim
  enters {_ q _ _} answers := by
    cases q with
    | book ref step =>
      cases step with
      | entries =>
        funext other
        by_cases same : other = ref
        · subst same
          simp [Books.after, AddressBook.step]
        · simp [Books.after, same]
      | _ => exact answers.elim
    | call c => rfl
    | _ => exact answers.elim
  idle works := works.elim
  foreign others := others.elim

theorem wired : processor.Wired := by
  rintro (_ | _) <;> rfl

theorem trueBooks : TrueBooks idOf books := by
  intro ref a id found
  by_cases same : ref = processor.validators
  · subst same
    exact found
  · simp [books, same, AddressBook.empty] at found

/-- A block that the only validator proposed and signed. -/
def block : Block := ⟨1, "", ⟨0, 0⟩, "c", "val", [], ["val"]⟩

def row : SigningRow := ⟨1, ⟨0, 0⟩, "c", 7, [7]⟩

theorem signingRow_block : keepGood (signingRow "c" ids) [block] = [row] := by
  have gives : Gives ids "val" 7 := ⟨by simp [ids], by decide⟩
  have built : signingRow "c" ids block = .ok row :=
    signingRow_eq_ok.2 ⟨by decide, rfl, rfl, gives, .cons gives .nil⟩
  rw [keepGood, List.filterMap_cons, built]
  rfl

/-- The processor comes to hand the row of the block to storage. -/
theorem reaches : ∃ next, Crew.Reaches store (Operation.strand processor) () ()
    [(.signings [block], .asking (.call (.insert (.signings [row]))) next)] := by
  let count : Except IndexError UInt64 → Except IndexError Unit := Except.map fun _ => ()
  have begun : Crew.Reaches store (Operation.strand processor) () ()
      [(.signings [block], .ready ((Operation.signings [block]).strand processor))] :=
    .step .start (.begin _)
  have looking : Crew.Reaches store (Operation.strand processor) () ()
      [(.signings [block], .asking (.book processor.validators .entries) fun validators =>
        count <$> Processor.store (.signings (keepGood (signingRow "c" validators) [block])))] :=
    .step begun (.task (i := 0) rfl (.ask rfl))
  have looked : Crew.Reaches store (Operation.strand processor) () ()
      [(.signings [block], .ready (count <$> Processor.store (.signings (keepGood (signingRow "c" ids) [block]))))] :=
    .step looking (.task (i := 0) rfl (.answer rfl))
  rw [signingRow_block] at looked
  exact ⟨_, .step looked (.task (i := 0) rfl (.ask rfl))⟩

/-- The row that is handed to storage refers to the validator. -/
theorem row_refers : ∃ next, Crew.Reaches store (Operation.strand processor) () ()
    [(.signings [block], .asking (.call (.insert (.signings [row]))) next)] ∧
    (Operation.signings [block]).Yields "c" (processor.Means (fun _ => idOf) ()) (.signing row) := by
  obtain ⟨next, reached⟩ := reaches
  exact ⟨next, reached,
    handed_rows_refer keepsIds wired trueBooks reached (List.mem_singleton.2 rfl) (List.mem_singleton.2 rfl)
      (List.mem_singleton.2 rfl)⟩

end OneValidator

end ChainIndex
