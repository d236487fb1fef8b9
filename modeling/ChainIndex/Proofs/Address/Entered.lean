import ChainIndex.Proofs.Address.Agreement
import ChainIndex.Proofs.Address.Course

/-!
# What a solver enters

All ids that a call enters stand in its course: those that its first look-up found, and if it succeeds those that the
second one did. If it fails there are only the first (`BookRef.Course.enteredIn_of_error`). Where nobody else enters ids
(`KeepsBooks`) the books of the end are those of the beginning with these entries (`Running.Completes.books`), so they
are known id by id (`Running.Completes.books_of_error`).
-/

namespace ChainIndex

open Storage Running

/-- The entry that a question makes in a book. -/
def Query.entryFor (ref : BookRef) : Query → Option (String × AddressId)
  | .book target (.learn a id) => if target = ref then some (a, id) else none
  | _ => none

/-- The entry that an event makes in a book. -/
def Running.Event.entryFor (ref : BookRef) : Event → Option (String × AddressId)
  | .answered _ q _ => q.entryFor ref
  | _ => none

/-- The entries that were made in a book, in their order. -/
def Running.entered (ref : BookRef) (es : List Event) : List (String × AddressId) := es.filterMap (Event.entryFor ref)

/-- The entries that a strand made in a book. -/
def enteredIn (ref : BookRef) (told : List Telling) : List (String × AddressId) :=
  told.filterMap (·.1.entryFor ref)

section

variable {ref book : BookRef} {ids : AddressIds} {told told' : List Telling}

theorem entered_shown {β : Type} {b : β} : entered ref (shown told b) = enteredIn ref told := by
  induction told with
  | nil => rfl
  | cons t told ih =>
    have here : Event.entryFor ref (.answered ⟨0, none⟩ t.1 t.2) = t.1.entryFor ref := rfl
    rw [shown_cons, entered, enteredIn, List.filterMap_cons_none rfl, List.filterMap_cons, List.filterMap_cons, here]
    cases t.1.entryFor ref with
    | none => exact ih
    | some entry => exact congrArg (entry :: ·) ih

/-- A look into a book enters nothing. -/
theorem entered_look {β : Type} {b : β} {entries : AddressIds} :
    entered ref (shown (⟨.book book .entries, entries⟩ :: told) b) = enteredIn ref told := entered_shown

@[simp] theorem enteredIn_nil : enteredIn ref [] = [] := rfl

@[simp] theorem enteredIn_append : enteredIn ref (told ++ told') = enteredIn ref told ++ enteredIn ref told' :=
  List.filterMap_append

@[simp] theorem enteredIn_looking {space : AddressSpace} {asked : List String} {r : Except Storage.Error AddressIds} :
    enteredIn ref (looking space asked r :: told) = enteredIn ref told := rfl

theorem enteredIn_learning : enteredIn ref (learning book ids) = if book = ref then ids.toList else [] := by
  rw [enteredIn, learning, List.filterMap_map]
  split
  · next same => simp [Function.comp_def, Query.entryFor, same]
  · next other => simp [Function.comp_def, Query.entryFor, other]

end

/-! ## The entries of a course -/

section

variable {σ : Type} {E : Environment σ} {w w' : σ} {told : List Telling} {book : BookRef} {settings : SolverSettings}
  {wanted unknown missing : List String}

/-- Nothing is entered while addresses are inserted. -/
theorem enteredIn_inserting {ref : BookRef} {r : Except Storage.Error Unit}
    (inserting : (book.insertMissing settings missing).Lives E w told w' r) : enteredIn ref told = [] := by
  have asks : (book.insertMissing settings missing).Asks fun q => q.entryFor ref = none :=
    .insertMissing (fun _ => rfl) fun _ => rfl
  exact List.filterMap_eq_nil_iff.2 (inserting.asks asks)

/-- **What a call enters** are ids that its look-ups found. If it fails, only those of the first. -/
theorem BookRef.Course.enteredIn_of_error {e : Storage.Error}
    (course : book.Course E settings wanted unknown w told w' (.error e)) (ref : BookRef) :
    enteredIn ref told = if book = ref then (firstFound (repliesIn told)).toList else [] := by
  cases course with
  | unanswered some asked => split <;> rfl
  | refused some asked learnt left inserting =>
    rw [List.cons_append, repliesIn_looking, enteredIn_looking, enteredIn_append, enteredIn_learning,
      enteredIn_inserting inserting, List.append_nil]
    rfl
  | unread some asked learnt left inserting asked' =>
    rw [List.cons_append, List.cons_append, repliesIn_looking, enteredIn_looking, enteredIn_append, enteredIn_append,
      enteredIn_learning, enteredIn_inserting inserting, enteredIn_looking, enteredIn_nil, List.append_nil, List.append_nil]
    rfl

end

/-! ## Books that nobody else writes to -/

/-- Nobody else enters anything into books, and looks into books tell what they have. -/
structure Running.Environment.KeepsBooks (E : Environment Site) : Prop where
  others : ∀ {w w'}, E.others w w' → w'.books = w.books
  works : ∀ {w q w'}, E.works w q w' → w'.books = w.books
  answers : ∀ {w q r w'}, E.answers w q r w' → w'.books = w.books.after q
  told : ∀ {w ref step r w'}, E.answers w (.book ref step) r w' → r = ((w.books ref).step step).1

theorem sharedSite_keepsBooks : sharedSite.KeepsBooks where
  others others := others.books
  works {w q w'} works := by
    cases q with
    | call c => exact (Site.Begins.numbered works).books
    | _ => exact works.elim
  answers {w q r w'} answers := by
    cases q with
    | call c => exact (numbered_of_answers answers).books
    | book ref step => exact congrArg Site.books answers.2
    | _ => exact congrArg Site.books (answers : w' = w)
  told answers := answers.1

theorem site_keepsBooks (node : FixedNode) (faulty : Prop) : (site node faulty).KeepsBooks where
  others others := others.elim
  works {w q w'} works := by
    cases q with
    | call c => exact (Site.Begins.numbered works).books
    | _ => exact works.elim
  answers {w q r w'} answers := by
    cases q with
    | request request =>
      cases request with
      | block height => exact congrArg Site.books answers.1
      | execution hash => exact congrArg Site.books answers.1
      | _ => exact congrArg Site.books (answers : w' = w)
    | call c =>
      cases r with
      | error e => exact congrArg Site.books answers.2
      | ok a =>
        cases c with
        | lastHeight chain => exact congrArg Site.books (answers : w' = w)
        | find space asked => exact congrArg Site.books answers.1
        | newer space since => exact congrArg Site.books (answers : w' = w)
        | insertAddresses space asked =>
          obtain ⟨ids, -, rfl⟩ := answers
          rfl
        | insert b => exact (congrArg Site.books answers : w'.books = (w.insert b.rows).books)
    | book ref step => exact congrArg Site.books answers.2
    | _ => exact congrArg Site.books (answers : w' = w)
  told answers := answers.1

/-- The entries of a book with the one that a question makes. -/
theorem Books.ids_after {books : Books} {q : Query} (adding : q.isAdding) (ref : BookRef) :
    ((books.after q) ref).ids = (books ref).ids.insertMany (q.entryFor ref).toList := by
  cases q with
  | book target step =>
    by_cases same : ref = target
    · subst same
      cases step with
      | learn a id => simp [Books.after, AddressBook.step, Query.entryFor]
      | clear => cases adding
      | _ => simp [Books.after, AddressBook.step, Query.entryFor]
    · cases step with
      | learn a id => simp [Books.after, same, Query.entryFor, Ne.symm same]
      | _ => simp [Books.after, same, Query.entryFor]
  | _ => rfl

namespace Running.Environment.KeepsBooks

variable {E : Environment Site} (keeps : E.KeepsBooks) {w w' : Site} {told : List Telling} {q : Query} {β : Type} {b : β}
  {s : Strand β} {book : BookRef}

include keeps

theorem idles (idle : E.Idles w w') : w'.books = w.books := by
  induction idle with
  | refl => rfl
  | tail _ step ih => exact (keeps.others step).trans ih

theorem drifts (drift : E.Drifts q w w') : w'.books = w.books := by
  induction drift with
  | refl => rfl
  | tail _ step ih => exact (step.elim keeps.others keeps.works).trans ih

/-- A look into a book tells what it has. -/
theorem looked {entries : AddressIds} (turn : E.Turn w (.book book .entries) entries w') :
    entries = (w.books book).ids := by
  obtain ⟨w₁, w₂, drift, answers, -⟩ := turn
  rw [← keeps.drifts drift]
  exact keeps.told answers

/-- **Books after a strand** are those before it with what it entered. -/
theorem lives (lives : s.Lives E w told w' b) (adding : ∀ t ∈ told, t.1.isAdding) (ref : BookRef) :
    (w'.books ref).ids = (w.books ref).ids.insertMany (enteredIn ref told) := by
  induction lives with
  | done idle => rw [keeps.idles idle, enteredIn_nil, Std.TreeMap.insertMany_nil]
  | @ask q next w w₁ w₂ w' a told b drift answers rest ih =>
    -- the books wait until the answer, which makes the entry of the question
    obtain ⟨one, more⟩ := List.forall_mem_cons.1 adding
    rw [ih more, keeps.answers answers, keeps.drifts drift, Books.ids_after one, ← Std.TreeMap.insertMany_append]
    congr 1
    rw [enteredIn, enteredIn, List.filterMap_cons]
    cases q.entryFor ref <;> rfl

end Running.Environment.KeepsBooks

/-- A map into which another one is entered. -/
theorem getElem?_insertMany_toList (ids more : AddressIds) (a : String) :
    (ids.insertMany more.toList)[a]? = more[a]?.or ids[a]? := by
  cases here : more[a]? with
  | some id =>
    have entry : (a, id) ∈ more.toList := Std.TreeMap.mem_toList_iff_getElem?_eq_some.2 here
    exact Std.TreeMap.getElem?_insertMany_list_of_mem (by simp) Std.TreeMap.distinct_keys_toList entry
  | none =>
    refine Std.TreeMap.getElem?_insertMany_list_of_contains_eq_false ?_
    rw [Std.TreeMap.map_fst_toList_eq_keys]
    simpa using here

variable {E : Environment Site} {w w' : Site} {es : List Running.Event} {book : BookRef} {settings : SolverSettings}
  {addresses : List String}

/-- **The books after a call** are those before it with the entries that it made. -/
theorem Running.Completes.books (keeps : E.KeepsBooks) {r : Except Storage.Error SolveSummary}
    (h : Completes E (.alone (book.solve settings addresses)) w es w' r) (ref : BookRef) :
    (w'.books ref).ids = (w.books ref).ids.insertMany (entered ref es) := by
  obtain ⟨entries, w₁, told, lives, rfl, adding, -⟩ := h.course
  rw [entered_shown]
  exact keeps.lives lives adding ref

/-- **A call that fails** leaves in its book what its first look-up found, beside what was there, and no other book has
changed. -/
theorem Running.Completes.books_of_error (keeps : E.KeepsBooks) {e : Storage.Error}
    (h : Completes E (.alone (book.solve settings addresses)) w es w' (.error e)) (ref : BookRef) (a : String) :
    (w'.books ref).ids[a]? =
      if ref = book then (firstFound (replies es))[a]?.or (w.books book).ids[a]? else (w.books ref).ids[a]? := by
  rw [h.books keeps ref]
  obtain ⟨entries, w₁, told, lives, rfl, adding, look, course⟩ := h.course
  rw [entered_look, replies_look, course.enteredIn_of_error]
  by_cases same : ref = book
  · subst same
    rw [if_pos rfl, if_pos rfl, getElem?_insertMany_toList]
  · rw [if_neg (Ne.symm same), if_neg same, Std.TreeMap.insertMany_nil]

end ChainIndex
