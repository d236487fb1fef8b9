import ChainIndex.Proofs.Address.Summary

/-!
# What a failed call leaves behind

A call to a solver can fail at any of its questions, and storage may have done part of a call that failed. **Whatever
fails** (`solve_withstands`), storage is asked what `Solving` calls for and nothing else, in every world. If the call
ends with an error, its book has the ids that its first look-up found beside those that it had, and no others, so where
storage is ahead of the book only the book has to catch up: ids stay as they are, and a later call that storage does
not fail finds or stores every address and enters the id that storage has for it.
-/

namespace ChainIndex

open Storage Running

section

variable {w w' : Site} {book : BookRef} {settings : SolverSettings} {addresses : List String} {es : List Running.Event}
  {r : Except Storage.Error SolveSummary}

/-- Books agree with storage after a call, and no id has changed. -/
theorem grows_of_completes (h : Completes sharedSite (.alone (book.solve settings addresses)) w es w' r)
    (agrees : w.Agrees) : w'.Agrees ∧ w.GrowsTo w' := by
  have ensures : (book.solve settings addresses).Ensures bookContract (fun _ _ => True) w :=
    ((bookContract_teaches book).ensures_solves fun _ _ _ => trivial).mono fun _ _ _ _ _ => trivial
  obtain ⟨agrees', grows, -⟩ := h.ensures sharedSite_honors agrees (Plan.ensures_alone ensures)
  exact ⟨agrees', grows⟩

/-- A shared site that does not fail always has an answer. -/
theorem sharedSite_unfailing_answering : sharedSite.unfailing.Answering := by
  intro w q
  cases q with
  | request r => exact ⟨.error ⟨r.target, .rateLimitExhausted⟩, w, rfl, trivial⟩
  | call c =>
    obtain ⟨a, w', performs⟩ := w.exists_performs c
    cases c with
    | newer space since =>
      let news := (w.ids space).filter fun _ id => since < id
      exact ⟨.ok (news, news.foldl (fun n _ id => max n id) since), w, ⟨rfl, rfl, rfl⟩, trivial⟩
    | _ => exact ⟨.ok a, w', performs, trivial⟩
  | insertAll batches => exact ⟨.ok 0, w, rfl, trivial⟩
  | book ref step => exact ⟨_, _, ⟨rfl, rfl⟩, trivial⟩
  | token => exact ⟨(), w, rfl, trivial⟩
  | tryToken => exact ⟨true, w, rfl, trivial⟩
  | sleep d => exact ⟨(), w, rfl, trivial⟩
  | pause d => exact ⟨(), w, rfl, trivial⟩
  | stopped => exact ⟨false, w, rfl, trivial⟩

/-- Every address but the empty one has an id in the book: a positive one, that storage has for it and for no other. -/
def Site.Resolves (w : Site) (book : BookRef) (addresses : List String) : Prop :=
  ∀ a ∈ addresses, a ≠ "" → ∃ id, 0 < id ∧ (w.books book).ids[a]? = some id ∧ (w.ids book.space)[a]? = some id ∧
    ∀ b : String, (w.ids book.space)[b]? = some id → b = a

/-- **Where storage does not fail** every address is resolved. -/
theorem resolves_of_completes (h : Completes sharedSite.unfailing (.alone (book.solve settings addresses)) w es w' r)
    (agrees : w.Agrees) :
    (∃ s, r = .ok s ∧ s.unresolved = 0) ∧ w.GrowsTo w' ∧ w'.Resolves book addresses := by
  have shared := h.within sharedSite.unfailing_within
  have busy := shared.within sharedSite_within
  obtain ⟨agrees', grows⟩ := grows_of_completes shared agrees
  have succeeds := succeeds_of_completes sharedSite.unfailing_unfailing h
  -- the summary of an undisturbed call leaves nothing unresolved, and what is not left is in the book
  obtain ⟨entries, calm⟩ := undisturbed_of_completes busy succeeds
  have ends := calm.result
  subst ends
  obtain ⟨-, left, leaves⟩ := accounts_of_completes busy
  obtain rfl : left = [] := List.length_eq_zero_iff.1 leaves.count
  refine ⟨⟨_, rfl, rfl⟩, grows, fun a member filled => ?_⟩
  obtain ⟨id, known⟩ := exists_of_mem (leaves.others a member filled List.not_mem_nil)
  have stored := agrees'.books known
  have valid := agrees'.valid book.space
  exact ⟨id, valid.positive stored, known, stored, fun b found => valid.injective found stored⟩

end

/-- **What a call does when storage fails.** In every world it looks into its book once, puts to storage what `Solving`
calls for, and waits for each reply. If it ends with an error, the entries that it made are those that its first look-up
found. At a site where others insert addresses, its book has these beside the ones that it had, and no book has lost or
changed one. Whenever the addresses are solved later and storage does not fail, every one of them is resolved, also those
that storage got before the call failed, and no id of storage changes. -/
theorem solve_withstands (book : BookRef) (settings : SolverSettings) (addresses : List String) :
    (∀ (σ : Type) (E : Environment σ) w es w' r, Completes E (.alone (book.solve settings addresses)) w es w' r →
      ∃ entries rest, es = .asked ⟨0, none⟩ (.book book .entries) ::
          .answered ⟨0, none⟩ (.book book .entries) entries :: rest ∧
        issued es = (replies es).map (·.1) ∧
        Solving book.space settings (without entries (wanted addresses)) (replies es) (r.map fun _ => ()) ∧
        ∀ e, r = .error e → ∀ ref, entered ref es = if book = ref then (firstFound (replies es)).toList else []) ∧
    ∀ w es w' e, Completes sharedSite (.alone (book.solve settings addresses)) w es w' (.error e) →
      (∀ ref (a : String), (w'.books ref).ids[a]? =
        if ref = book then (firstFound (replies es))[a]?.or (w.books book).ids[a]? else (w.books ref).ids[a]?) ∧
      (w.Agrees → w'.Agrees ∧ w.GrowsTo w') ∧
      ∀ w₁ settings', w₁.Agrees →
        (∀ {space} {a : String} {id}, (w'.ids space)[a]? = some id → (w₁.ids space)[a]? = some id) →
        (∃ es₁ w₂ r, Completes sharedSite.unfailing (.alone (book.solve settings' addresses)) w₁ es₁ w₂ r) ∧
        ∀ es₁ w₂ r, Completes sharedSite.unfailing (.alone (book.solve settings' addresses)) w₁ es₁ w₂ r →
          (∃ s, r = .ok s ∧ s.unresolved = 0) ∧ w₂.Resolves book addresses ∧ w₁.GrowsTo w₂ ∧
          ∀ {space} {a : String} {id}, (w'.ids space)[a]? = some id → (w₂.ids space)[a]? = some id := by
  refine ⟨fun σ E w es w' r run => ?_, fun w es w' e run => ?_⟩
  · have asked := issued_eq_replies run
    obtain ⟨entries, w₁, told, -, rfl, -, -, course⟩ := run.course
    refine ⟨entries, _, rfl, asked, ?_, ?_⟩
    · rw [replies_look]
      exact course.solving
    · rintro e rfl ref
      rw [replies_look, entered_look]
      exact course.enteredIn_of_error ref
  · refine ⟨run.books_of_error sharedSite_keepsBooks, grows_of_completes run, fun w₁ settings' agrees kept => ?_⟩
    refine ⟨exists_completes sharedSite_unfailing_answering _ w₁, fun es₁ w₂ r later => ?_⟩
    obtain ⟨ends, grows, resolves⟩ := resolves_of_completes later agrees
    exact ⟨ends, resolves, grows, fun found => grows.ids (kept found)⟩

namespace OneSolver

/-- The site after a call whose insert was refused. -/
def refused : Site := (rule.play (book.solve ⟨.once, false⟩ ["g1"]) .empty).2

theorem play_refused : (rule.play (book.solve ⟨.once, false⟩ ["g1"]) .empty).1 = .error failure := by
  decide +kernel

/-- A refused address is resolved by the next call. -/
theorem refused_then_solved : ∃ es,
    Completes sharedSite (.alone (book.solve ⟨.once, false⟩ ["g1"])) .empty es refused (.error failure) ∧
    (∃ entries, Solving book.space ⟨.once, false⟩ (without entries (wanted ["g1"])) (replies es) (.error failure)) ∧
    (refused.books book).ids["g1"]? = (firstFound (replies es))["g1"]? ∧
    ∃ es₁ w₂ s, Completes sharedSite.unfailing (.alone (book.solve ⟨.once, true⟩ ["g1"])) refused es₁ w₂ (.ok s) ∧
      s.unresolved = 0 ∧ ∃ id, (w₂.books book).ids["g1"]? = some id := by
  obtain ⟨es, run⟩ : ∃ es, Completes sharedSite (.alone (book.solve ⟨.once, false⟩ ["g1"])) .empty es refused
      (rule.play (book.solve ⟨.once, false⟩ ["g1"]) .empty).1 := exists_completes_play rule_follows _ _
  rw [play_refused] at run
  obtain ⟨calls, fails⟩ := solve_withstands book ⟨.once, false⟩ ["g1"]
  obtain ⟨entries, -, -, -, solving, -⟩ := calls _ _ _ _ _ _ run
  obtain ⟨books, agrees, later⟩ := fails _ _ _ _ run
  obtain ⟨⟨es₁, w₂, r, run₁⟩, resolves⟩ := later refused ⟨.once, true⟩ (agrees Site.agrees_empty).1 id
  obtain ⟨⟨s, rfl, none_left⟩, resolved, -⟩ := resolves es₁ w₂ r run₁
  obtain ⟨id, -, known, -⟩ := resolved "g1" (by simp) (by decide)
  refine ⟨es, run, ⟨entries, solving⟩, ?_, es₁, w₂, s, run₁, none_left, id, known⟩
  rw [books, if_pos rfl]
  simp [Site.empty, AddressBook.empty]

end OneSolver

end ChainIndex
