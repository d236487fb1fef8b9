import ChainIndex.Address.Solver
import ChainIndex.Proofs.Contract.Retry
import Mathlib.Data.List.Induction
import Mathlib.Data.List.Nodup
import Mathlib.Data.List.Perm.Subperm

/-!
# What solving teaches a book

Solving addresses enters ids into a book as lookups told them, and looks up again after it inserted
what was missing. `Contract.Teaches` says what has to be known of storage and of the book for this to
work while others act: what storage `Holds` it holds for good, and what the book `Knows` it knows for
good. With this a solver may enter whatever it enters, however storage fails. The book knows every
address in the end if storage does not fail, and also if the summary says that nothing is unresolved:
it counts what the second lookup told, and that cannot be more than what was missing (`ensures_solves`).
-/

namespace ChainIndex

/-! ## First occurrences -/

section

variable {α : Type} [BEq α] [LawfulBEq α] {as : List α} {a : α}

theorem firstOccurrences_append_singleton :
    firstOccurrences (as ++ [a]) =
      if a ∈ firstOccurrences as then firstOccurrences as else firstOccurrences as ++ [a] := by
  rw [firstOccurrences, List.foldl_append]
  simp only [List.foldl_cons, List.foldl_nil, firstOccurrences, Array.mem_toList_iff, Array.contains_iff_mem]
  split <;> simp

@[simp] theorem mem_firstOccurrences : a ∈ firstOccurrences as ↔ a ∈ as := by
  induction as using List.reverseRecOn with
  | nil => simp [firstOccurrences]
  | append_singleton as b ih =>
    rw [firstOccurrences_append_singleton, List.mem_append, ← ih]
    split
    · next present => exact ⟨.inl, (Or.elim · id fun same => List.mem_singleton.1 same ▸ present)⟩
    · exact List.mem_append

theorem nodup_firstOccurrences (as : List α) : (firstOccurrences as).Nodup := by
  induction as using List.reverseRecOn with
  | nil => exact .nil
  | append_singleton as a ih =>
    rw [firstOccurrences_append_singleton]
    split
    · exact ih
    · next fresh => exact List.Nodup.append ih (List.nodup_singleton a) (by simpa using fresh)

end

variable {σ α β : Type} {G : Growth σ} {C : Contract G} {w : σ}

/-! ## Loops -/

/-- A loop keeps what every round keeps. -/
theorem Strand.ensures_forM {items : List α} {f : α → Strand Unit} {post : α → σ → Prop}
    (each : ∀ a ∈ items, (f a).Ensures C (fun w₁ _ => post a w₁) w) :
    (items.forM f).Ensures C (fun w₁ _ => ∀ a ∈ items, post a w₁) w := by
  induction items generalizing w with
  | nil => exact Strand.ensures_pure fun _ _ _ => by simp
  | cons a items ih =>
    change (f a >>= fun _ => items.forM f).Ensures C _ w
    refine (each a (by simp)).bind ?_
    intro _ w₁ later _ holds
    refine (ih fun b member => (each b (by simp [member])).later later).mono ?_
    intro _ w₂ later' sound rest b member
    rcases List.mem_cons.1 member with rfl | member
    · exact holds w₂ later' sound
    · exact rest w₂ (G.refl w₂) sound b member

/-- A question put for every item, whatever the answers. -/
theorem Strand.ensures_for {items : List α} {q : α → Query} (may : ∀ a ∈ items, G.Always w (C.Allows · (q a))) :
    (forIn items PUnit.unit fun a _ => do
      let _ ← Strand.query (q a)
      pure (.yield PUnit.unit)).Ensures C (fun _ _ => True) w := by
  induction items generalizing w with
  | nil => exact Strand.ensures_pure fun _ _ _ => trivial
  | cons a items ih =>
    rw [List.forIn_cons]
    refine Strand.ensures_query (may a (by simp)) ?_
    intro _ w₁ later _ _
    exact ih fun b member => (may b (by simp [member])).later later

/-! ## Solving -/

/-- An address is in a book, or among those that the book does not know. -/
theorem mem_or_mem_unknown {ids : AddressIds} {addresses : List String} {a : String} (member : a ∈ addresses) :
    a ∈ ids ∨ a ∈ addresses.filter fun a => !ids.contains a := by
  by_cases known : a ∈ ids
  · exact .inl known
  · refine .inr (List.mem_filter.2 ⟨member, ?_⟩)
    rwa [Bool.not_eq_true', ← Bool.not_eq_true, Std.TreeMap.contains_iff_mem]

/-- If ids are only found for what was asked for, and for as many, then for all that was asked for. -/
theorem mem_of_length_le_size {ids : AddressIds} {asked : List String} (only : ∀ a ∈ ids, a ∈ asked)
    (enough : asked.length ≤ ids.size) {a : String} (member : a ∈ asked) : a ∈ ids := by
  have fits : ids.keys.Subperm asked :=
    List.subperm_of_subset Std.TreeMap.nodup_keys fun b present => only b (Std.TreeMap.mem_keys.1 present)
  have same : ids.keys.Perm asked := fits.perm_of_length_le (by rwa [Std.TreeMap.length_keys])
  exact Std.TreeMap.mem_keys.1 (same.symm.subset member)

/-- What is known of storage and of a book while ids are learnt. Storage `Holds` ids for good, and
whatever the book `Knows` it knows for good. Only addresses that are `named` are looked up. If storage
is not `faulty` it stores what it is given and finds what it has. -/
structure Contract.Teaches (C : Contract G) (book : BookRef) (named : String → Prop)
    (Holds : σ → String → AddressId → Prop) (Knows Stores : σ → String → Prop) (faulty : Prop) : Prop where
  holds_later : ∀ {w w' a id}, G.Later w w' → Holds w a id → Holds w' a id
  stores_later : ∀ {w w' a}, G.Later w w' → Stores w a → Stores w' a
  knows_later : ∀ {w w' a}, G.Later w w' → Knows w a → Knows w' a
  may_sleep : ∀ w d, C.May w (.sleep d)
  may_look : ∀ w, C.May w (.book book .entries)
  may_find : ∀ w asked, (∀ a ∈ asked, named a) → C.May w (.call (.find book.space asked))
  may_insert : ∀ w asked, (∀ a ∈ asked, named a) → C.May w (.call (.insertAddresses book.space asked))
  may_learn : ∀ {w a id}, Holds w a id → C.May w (.book book (.learn a id))
  looked : ∀ {w a} {ids : AddressIds}, C.Told w (.book book .entries) ids → a ∈ ids → Knows w a
  found : ∀ {w asked a id} {ids : AddressIds}, C.Told w (.call (.find book.space asked)) (.ok ids) →
    ids[a]? = some id → Holds w a id
  learnt : ∀ {w a id}, C.Told w (.book book (.learn a id)) () → Knows w a
  inserts : ¬faulty → ∀ {w asked r}, C.Told w (.call (.insertAddresses book.space asked)) r →
    r = .ok () ∧ ∀ a ∈ asked, Stores w a
  finds : ¬faulty → ∀ {w asked r}, C.Told w (.call (.find book.space asked)) r →
    ∃ ids : AddressIds, r = .ok ids ∧ ∀ a ∈ asked, Stores w a → a ∈ ids

/-- A look-up finds only what it was asked for. -/
def Contract.FindsOnly (C : Contract G) (book : BookRef) : Prop :=
  ∀ {w asked} {ids : AddressIds}, C.Told w (.call (.find book.space asked)) (.ok ids) → ∀ a ∈ ids, a ∈ asked

/-- What the result of solving tells. If storage is not faulty, or if the summary leaves nothing
unresolved, the book knows every address but the empty one. -/
structure Contract.Solves (C : Contract G) (book : BookRef) (Knows : σ → String → Prop) (faulty : Prop)
    (addresses : List String) (w : σ) (r : Except Storage.Error SolveSummary) : Prop where
  ends : ¬faulty → ∃ s, r = .ok s
  knows : ∀ {s}, r = .ok s → ¬faulty ∨ C.FindsOnly book ∧ s.unresolved = 0 → ∀ a ∈ addresses, a ≠ "" → Knows w a

namespace Contract.Teaches

variable {book : BookRef} {named : String → Prop} {Holds : σ → String → AddressId → Prop}
  {Knows Stores : σ → String → Prop} {faulty : Prop}

theorem ensures_learnAll (teaches : C.Teaches book named Holds Knows Stores faulty) {ids : AddressIds}
    (holds : ∀ a id, ids[a]? = some id → Holds w a id) :
    (book.learnAll ids).Ensures C (fun w₁ _ => ∀ a ∈ ids, Knows w₁ a) w := by
  have each : ∀ entry ∈ ids.toList, (Strand.book book (.learn entry.1 entry.2)).Ensures C
      (fun w₁ _ => Knows w₁ entry.1) w := by
    intro entry member w₁ later _
    have holds' := holds entry.1 entry.2 (Std.TreeMap.mem_toList_iff_getElem?_eq_some.1 member)
    refine ⟨teaches.may_learn (teaches.holds_later later holds'), fun _ w₂ _ _ told => ?_⟩
    exact fun w₃ later₃ _ => teaches.knows_later later₃ (teaches.learnt told)
  refine (Strand.ensures_forM each).mono ?_
  intro _ w₁ _ sound knows a member
  have present : (a, ids[a]) ∈ ids.toList := Std.TreeMap.mem_toList_iff_getElem?_eq_some.2 (by simp)
  exact knows w₁ (G.refl w₁) sound _ present

theorem ensures_insertMissing (teaches : C.Teaches book named Holds Knows Stores faulty) {settings : SolverSettings}
    {missing : List String} (names : ∀ a ∈ missing, named a) :
    (book.insertMissing settings missing).Ensures C
      (fun w₁ r => ¬faulty → r = .ok () ∧ ∀ a ∈ missing, Stores w₁ a) w := by
  have attempt : ∀ _ : UInt32, G.Always w fun w₁ =>
      (Strand.call (.insertAddresses book.space missing)).Ensures C
        (fun w₁ r => ¬faulty → r = .ok () ∧ ∀ a ∈ missing, Stores w₁ a) w₁ := by
    intro _ w₁ _ _ w₂ _ _
    refine ⟨teaches.may_insert w₂ missing names, fun r w₃ _ _ told w₄ later₄ _ sane => ?_⟩
    obtain ⟨rfl, stored⟩ := teaches.inserts sane told
    exact ⟨rfl, fun a member => teaches.stores_later later₄ (stored a member)⟩
  have sleep : ∀ d, G.Always w (C.May · (.sleep d)) := fun d w₁ _ _ => teaches.may_sleep w₁ d
  refine (Retry.ensures_runIf sleep attempt).bind ?_
  intro outcome w₁ _ _ holds
  cases outcome with
  | success value => exact Strand.ensures_pure holds
  | failure e n =>
    by_cases single : settings.oneByOne
    · simp only [single, if_true]
      have may : ∀ a ∈ missing, G.Always w₁ (C.Allows · (.call (.insertAddresses book.space [a]))) :=
        fun a member w₂ _ _ => teaches.may_insert w₂ [a] (by simpa using names a member)
      refine (Strand.ensures_for may).bind fun _ w₂ later₂ _ _ => Strand.ensures_pure fun w₃ later₃ sound sane => ?_
      simpa [Retry.Outcome.toExcept] using holds w₃ (G.trans later₂ later₃) sound sane
    · simp only [single, Bool.false_eq_true, if_false]
      exact Strand.ensures_pure holds

theorem ensures_solveMissing (teaches : C.Teaches book named Holds Knows Stores faulty) {settings : SolverSettings}
    {summary : SolveSummary} {missing : List String} (names : ∀ a ∈ missing, named a) :
    (book.solveMissing settings summary missing).Ensures C (C.Solves book Knows faulty missing) w := by
  refine (teaches.ensures_insertMissing names).bind ?_
  intro r w₁ _ _ inserted
  cases r with
  | error e =>
    refine Strand.ensures_pure fun w₂ later sound => ⟨fun sane => ?_, nofun⟩
    simpa using (inserted w₂ later sound sane).1
  | ok value =>
    refine Strand.ensures_query (fun w₂ _ _ => teaches.may_find w₂ missing names) ?_
    intro r w₂ later₂ sound₂ told
    cases r with
    | error e =>
      refine Strand.ensures_pure fun _ _ _ => ⟨fun sane => ?_, nofun⟩
      obtain ⟨ids, same, -⟩ := teaches.finds sane told
      cases same
    | ok ids =>
      refine (teaches.ensures_learnAll fun a id => teaches.found told).bind ?_
      intro _ w₃ _ _ knows
      refine Strand.ensures_pure fun w₄ later₄ sound₄ => ⟨fun _ => ⟨_, rfl⟩, ?_⟩
      rintro _ ⟨⟩ complete a member -
      refine knows w₄ later₄ sound₄ a ?_
      rcases complete with sane | ⟨only, none_left⟩
      · obtain ⟨ids', same, complete⟩ := teaches.finds sane told
        cases same
        exact complete a member ((inserted w₂ later₂ sound₂ sane).2 a member)
      · exact mem_of_length_le_size (only told) (Nat.sub_eq_zero_iff_le.1 none_left) member

/-- **What a call leaves.** The solver enters what storage holds, and the book knows every address in the
end but the empty one, if storage was without faults or if the call says so itself. -/
theorem ensures_solves (teaches : C.Teaches book named Holds Knows Stores faulty) {settings : SolverSettings}
    {addresses : List String} (names : ∀ a ∈ addresses, a ≠ "" → named a) :
    (book.solve settings addresses).Ensures C (C.Solves book Knows faulty addresses) w := by
  refine Strand.ensures_query (fun w₁ _ _ => teaches.may_look w₁) ?_
  intro (entries : AddressIds) w₁ _ _ looked
  let requested := (firstOccurrences addresses).filter (· ≠ "")
  let unknown := requested.filter fun a => !entries.contains a
  have asked : ∀ a, a ∈ requested ↔ a ∈ addresses ∧ a ≠ "" := by simp [requested]
  have names' : ∀ a ∈ unknown, named a := fun a member =>
    have ⟨present, filled⟩ := (asked a).1 (List.mem_filter.1 member).1
    names a present filled
  have cover : ∀ a ∈ addresses, a ≠ "" → a ∈ entries ∨ a ∈ unknown := fun a present filled =>
    mem_or_mem_unknown ((asked a).2 ⟨present, filled⟩)
  change Strand.Ensures C _ (if unknown.isEmpty then _ else _) w₁
  by_cases nothing : unknown.isEmpty
  · simp only [nothing, if_true]
    refine Strand.ensures_pure fun w₂ later₂ _ => ⟨fun _ => ⟨_, rfl⟩, fun _ _ a present filled => ?_⟩
    rcases cover a present filled with known | left
    · exact teaches.knows_later later₂ (teaches.looked looked known)
    · rw [List.isEmpty_iff.1 nothing] at left
      simp at left
  · simp only [nothing, Bool.false_eq_true, if_false]
    refine Strand.ensures_query (fun w₂ _ _ => teaches.may_find w₂ unknown names') ?_
    intro r w₂ later₂ _ told
    cases r with
    | error e =>
      refine Strand.ensures_pure fun _ _ _ => ⟨fun sane => ?_, nofun⟩
      obtain ⟨ids, same, -⟩ := teaches.finds sane told
      cases same
    | ok found =>
      let ids : AddressIds := found
      refine (teaches.ensures_learnAll fun a id => teaches.found told).bind ?_
      intro _ w₃ later₃ _ knows
      let missing := unknown.filter fun a => !ids.contains a
      have known : ∀ {w₄}, G.Later w₃ w₄ → G.Sound w₄ → ∀ a ∈ addresses, a ≠ "" → Knows w₄ a ∨ a ∈ missing := by
        intro w₄ later₄ sound₄ a present filled
        rcases cover a present filled with known | left
        · exact .inl (teaches.knows_later (G.trans (G.trans later₂ later₃) later₄) (teaches.looked looked known))
        · exact (mem_or_mem_unknown left).imp_left (knows w₄ later₄ sound₄ a)
      change Strand.Ensures C _ (if missing.isEmpty then _ else _) w₃
      by_cases nothing : missing.isEmpty
      · simp only [nothing, if_true]
        refine Strand.ensures_pure fun w₄ later₄ sound₄ => ⟨fun _ => ⟨_, rfl⟩, fun _ _ a present filled => ?_⟩
        rcases known later₄ sound₄ a present filled with known | left
        · exact known
        · rw [List.isEmpty_iff.1 nothing] at left
          simp at left
      · simp only [nothing, Bool.false_eq_true, if_false]
        have names'' : ∀ a ∈ missing, named a := fun a member => names' a (List.mem_filter.1 member).1
        refine (teaches.ensures_solveMissing names'').mono ?_
        intro r w₄ later₄ sound₄ solved
        have solved := solved w₄ (G.refl w₄) sound₄
        refine ⟨solved.ends, fun good complete a present filled => ?_⟩
        rcases known later₄ sound₄ a present filled with known | left
        · exact known
        · exact solved.knows good complete a left filled

/-- **Solving.** Without faults the book knows every address in the end but the empty one. -/
theorem ensures_solve (teaches : C.Teaches book named Holds Knows Stores faulty) {settings : SolverSettings}
    {addresses : List String} (names : ∀ a ∈ addresses, a ≠ "" → named a) :
    (book.solve settings addresses).Ensures C
      (fun w₁ r => ¬faulty → (∃ s, r = .ok s) ∧ ∀ a ∈ addresses, a ≠ "" → Knows w₁ a) w := by
  refine (teaches.ensures_solves names).mono ?_
  intro r w₁ _ sound solved sane
  have solved := solved w₁ (G.refl w₁) sound
  obtain ⟨s, good⟩ := solved.ends sane
  exact ⟨⟨s, good⟩, solved.knows good (.inl sane)⟩

end Contract.Teaches

end ChainIndex
