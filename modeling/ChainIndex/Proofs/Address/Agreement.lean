import ChainIndex.Proofs.Address.Learning
import ChainIndex.Proofs.Contract.Task
import ChainIndex.Proofs.Running.Played
import ChainIndex.Proofs.Storage.Site

/-!
# Address books agree with storage

Any number of solvers and refreshes run side by side, on any number of books, over one database that
gives fresh ids to the addresses it does not have. Others insert addresses into it at any time, and any
call may fail, some of its work done or none.

**Theorem (`books_agree`).** At every moment every entry of every book is the one that storage has for
the space of the book. So two books of one space never disagree, two addresses of one book never share
an id, and an entry never changes. Once a solver ended that left nothing unresolved, its book gives an
id for each of its addresses for good.

A book may be behind storage, and so may a lookup that is on its way into a book. Neither can be wrong:
ids stay, so what storage told at some time it has at all later times.
-/

namespace ChainIndex

open Storage Running

/-! ## A database that is shared -/

namespace Site

/-- Addresses may have got ids, and the books are as they were. -/
structure Numbered (w w' : Site) : Prop where
  ids : ∀ space, ∃ asked, Numbers (w.ids space) asked (w'.ids space)
  books : w'.books = w.books

variable {w w' : Site}

theorem Numbered.refl (w : Site) : w.Numbered w := ⟨fun _ => ⟨[], Numbers.refl _⟩, rfl⟩

theorem numbered_setIds {space : AddressSpace} {asked : List String} {ids : AddressIds}
    (numbers : Numbers (w.ids space) asked ids) : w.Numbered (w.setIds space ids) where
  ids other := by
    by_cases same : other = space
    · subst same
      exact ⟨asked, by simpa [setIds] using numbers⟩
    · exact ⟨[], by simpa [setIds, same] using Numbers.refl _⟩
  books := rfl

theorem numbered_insert (w : Site) (rows : List Row) : w.Numbered (w.insert rows) := ⟨(Numbered.refl w).ids, rfl⟩

theorem Begins.numbered {c : Call} (h : w.Begins c w') : w.Numbered w' := by
  cases c with
  | insertAddresses space asked =>
    obtain ⟨part, -, ids, numbers, rfl⟩ := h
    exact numbered_setIds numbers
  | insert b =>
    obtain ⟨part, -, rfl⟩ := h
    exact numbered_insert w part
  | _ => exact h.elim

end Site

/-- The world at a site that others insert addresses into. Any call may fail. -/
def sharedSite : Environment Site where
  answers w q r w' :=
    match q, r with
    | .call (.newer space since), .ok (news : AddressIds × AddressId) =>
      w' = w ∧ news.1 = (w.ids space).filter (fun _ id => since < id) ∧
        news.2 = news.1.foldl (fun n _ id => max n id) since
    | .call c, .ok a => w.Performs c a w'
    | .book ref step, r => r = ((w.books ref).step step).1 ∧ w' = { w with books := w.books.after (.book ref step) }
    | _, _ => w' = w
  works w q w' :=
    match q with
    | .call c => w.Begins c w'
    | _ => False
  others := Site.Numbered

/-! ## What stays true -/

namespace Site

/-- Ids are valid, and books have no others. -/
structure Agrees (w : Site) : Prop where
  valid : ∀ space, ValidIds (w.ids space)
  books : ∀ {ref} {a : String} {id}, (w.books ref).ids[a]? = some id → (w.ids ref.space)[a]? = some id

/-- Ids and entries of books stay as they are. -/
structure GrowsTo (w w' : Site) : Prop where
  ids : ∀ {space} {a : String} {id}, (w.ids space)[a]? = some id → (w'.ids space)[a]? = some id
  books : ∀ {ref} {a : String} {id}, (w.books ref).ids[a]? = some id → (w'.books ref).ids[a]? = some id

theorem GrowsTo.refl (w : Site) : w.GrowsTo w := ⟨id, id⟩

theorem GrowsTo.trans {w w' w'' : Site} (h : w.GrowsTo w') (h' : w'.GrowsTo w'') : w.GrowsTo w'' :=
  ⟨fun found => h'.ids (h.ids found), fun found => h'.books (h.books found)⟩

variable {w w' : Site}

theorem agrees_empty : empty.Agrees where
  valid _ := ValidIds.empty
  books found := by simp [empty, AddressBook.empty] at found

theorem Agrees.numbered (agrees : w.Agrees) (h : w.Numbered w') : w'.Agrees ∧ w.GrowsTo w' := by
  have kept : ∀ {space} {a : String} {id}, (w.ids space)[a]? = some id → (w'.ids space)[a]? = some id := by
    intro space a id found
    obtain ⟨asked, numbers⟩ := h.ids space
    exact numbers.kept found
  refine ⟨⟨fun space => ?_, fun found => kept (agrees.books (h.books ▸ found))⟩, kept, fun found => h.books ▸ found⟩
  obtain ⟨asked, numbers⟩ := h.ids space
  exact numbers.valid (agrees.valid space)

/-- An id that storage has may be entered. If there is an entry for the address already, it is the same. -/
theorem Agrees.book (agrees : w.Agrees) {q : Query}
    (fit : ∀ {ref} {a : String} {id}, q = .book ref (.learn a id) → (w.ids ref.space)[a]? = some id)
    (kept : ∀ ref, q ≠ .book ref .clear) :
    Agrees { w with books := w.books.after q } ∧ w.GrowsTo { w with books := w.books.after q } := by
  refine ⟨{ agrees with books := fun found => (Books.entry_of_after found).elim agrees.books fit }, id, ?_⟩
  intro ref a id found
  refine Books.entry_after found (kept ref) fun new entered => ?_
  exact Option.some.inj ((fit entered).symm.trans (agrees.books found))

end Site

/-- Sites that solvers and refreshes work on. -/
def bookGrowth : Growth Site where
  Sound := Site.Agrees
  Later := Site.GrowsTo
  refl := .refl
  trans := .trans

/-- What storage has may be entered into books, and storage tells only what it has. -/
def bookContract : Contract bookGrowth where
  May w q :=
    match q with
    | .book ref (.learn a id) => (w.ids ref.space)[a]? = some id
    | .book _ .clear => False
    | _ => True
  Told w q r :=
    match q, r with
    | .call (.find space asked), .ok (ids : AddressIds) =>
      ∀ (a : String) id, ids[a]? = some id → a ∈ asked ∧ (w.ids space)[a]? = some id
    | .call (.newer space _), .ok (news : AddressIds × AddressId) =>
      ∀ (a : String) id, news.1[a]? = some id → (w.ids space)[a]? = some id
    | .book ref .entries, (ids : AddressIds) => ids = (w.books ref).ids
    | .book ref (.learn a _), _ => a ∈ (w.books ref).ids
    | _, _ => True
  may_later {w w' q} later may := by
    split
    · exact later.ids may
    · exact may
    · trivial
  stored_later _ _ := trivial

variable {w w' : Site}

/-- A call changes nothing but ids and rows, whether it fails or not. -/
theorem numbered_of_answers {c : Call} {r : c.Answer} (answers : sharedSite.answers w (.call c) r w') :
    w.Numbered w' := by
  cases r with
  | error e =>
    have same : w' = w := by cases c <;> exact answers
    exact same ▸ .refl w
  | ok a =>
    cases c with
    | lastHeight chain => exact (answers : w' = w) ▸ .refl w
    | find space asked => exact answers.1 ▸ .refl w
    | newer space since => exact answers.1 ▸ .refl w
    | insertAddresses space asked =>
      obtain ⟨ids, numbers, rfl⟩ := answers
      exact Site.numbered_setIds numbers
    | insert b => exact (answers : w' = w.insert b.rows) ▸ Site.numbered_insert w b.rows

theorem told_of_answers {c : Call} {r : c.Answer} (answers : sharedSite.answers w (.call c) r w') :
    bookContract.Told w' (.call c) r := by
  cases r with
  | error e => cases c <;> trivial
  | ok a =>
    cases c with
    | find space asked =>
      obtain ⟨rfl, rfl⟩ := answers
      exact fun b id found => Site.getElem?_asked.1 found
    | newer space since =>
      obtain ⟨rfl, news, -⟩ := answers
      intro b id found
      rw [news, Std.TreeMap.getElem?_filter', Option.filter_eq_some_iff] at found
      exact found.1
    | _ => trivial

/-- **A shared site honours the contract.** -/
theorem sharedSite_honors : sharedSite.Honors bookContract where
  keeps _ _ agrees others := agrees.numbered others
  answers {w q r w'} agrees may answers := by
    have idle : w' = w → bookContract.Told w' q r → w'.Agrees ∧ w.GrowsTo w' ∧ bookContract.Told w' q r := by
      rintro rfl told
      exact ⟨agrees, .refl w', told⟩
    cases q with
    | call c =>
      obtain ⟨agrees', grows⟩ := agrees.numbered (numbered_of_answers answers)
      exact ⟨agrees', grows, told_of_answers answers⟩
    | book ref step =>
      obtain ⟨rfl, rfl⟩ := answers
      obtain ⟨agrees', grows⟩ := agrees.book (q := .book ref step) (fun same => by cases same; exact may)
        fun other same => by cases same; exact may
      refine ⟨agrees', grows, ?_⟩
      cases step with
      | entries => exact Books.ids_after_entries.symm
      | learn a id => exact Books.mem_after_learn
      | _ => trivial
    | _ => exact idle answers trivial
  works {w q w'} agrees _ works := by
    cases q with
    | call c => exact agrees.numbered (Site.Begins.numbered works)
    | _ => exact works.elim

/-! ## Calls to books -/

/-- A call to a book. -/
inductive BookCall where
  | solve (ref : BookRef) (settings : SolverSettings) (addresses : List String)
  | refresh (ref : BookRef)

namespace BookCall

/-- The call as it runs, with the summary of a solver or the number of entries that a refresh made. -/
def strand : BookCall → Strand (Except Storage.Error (SolveSummary ⊕ Nat))
  | .solve ref settings addresses => Except.map .inl <$> ref.solve settings addresses
  | .refresh ref => Except.map .inr <$> ref.refresh

/-- A solver that left nothing unresolved leaves entries for all that it was asked for. -/
def Leaves (call : BookCall) (w : Site) (r : Except Storage.Error (SolveSummary ⊕ Nat)) : Prop :=
  match call, r with
  | .solve ref _ addresses, .ok (.inl s) => s.unresolved = 0 → ∀ a ∈ addresses, a ≠ "" → a ∈ (w.books ref).ids
  | _, _ => True

end BookCall

theorem bookContract_teaches (ref : BookRef) :
    bookContract.Teaches ref (fun _ => True) (fun w a id => (w.ids ref.space)[a]? = some id)
      (fun w a => a ∈ (w.books ref).ids) (fun _ _ => True) True where
  holds_later later found := later.ids found
  stores_later _ _ := trivial
  knows_later later present := by
    obtain ⟨id, found⟩ := exists_of_mem present
    exact mem_of_some (later.books found)
  may_sleep _ _ := trivial
  may_look _ := trivial
  may_find _ _ _ := trivial
  may_insert _ _ _ := trivial
  may_learn found := found
  looked {w a ids} told present := by
    obtain rfl : ids = (w.books ref).ids := told
    exact present
  found told here := (told _ _ here).2
  learnt told := told
  inserts sane := absurd trivial sane
  finds sane := absurd trivial sane

theorem bookContract_findsOnly (ref : BookRef) : bookContract.FindsOnly ref := by
  intro w asked ids told a present
  obtain ⟨id, found⟩ := exists_of_mem present
  exact (told a id found).1

theorem ensures_refresh (ref : BookRef) : ref.refresh.Ensures bookContract (fun _ _ => True) w := by
  refine Strand.ensures_query (fun _ _ _ => trivial) ?_
  intro since w₁ _ _ _
  refine Strand.ensures_query (fun _ _ _ => trivial) ?_
  intro r w₂ _ _ told
  match r, told with
  | .error e, _ => exact Strand.ensures_pure fun _ _ _ => trivial
  | .ok (ids, highest), told =>
    refine ((bookContract_teaches ref).ensures_learnAll told).bind ?_
    intro _ w₃ _ _ _
    refine Strand.ensures_query (fun _ _ _ => trivial) ?_
    exact fun _ _ _ _ _ => Strand.ensures_pure fun _ _ _ => trivial

theorem BookCall.ensures_strand (call : BookCall) (w : Site) : call.strand.Ensures bookContract call.Leaves w := by
  cases call with
  | solve ref settings addresses =>
    refine ((bookContract_teaches ref).ensures_solves fun _ _ _ => trivial).map ?_
    intro r w₁ _ _ solved
    cases r with
    | error e => exact trivial
    | ok s => exact fun none_left => solved.knows rfl (.inr ⟨bookContract_findsOnly ref, none_left⟩)
  | refresh ref => exact (ensures_refresh ref).map fun r _ _ _ _ => by cases r <;> trivial

/-- **Books agree with storage**, whatever calls run side by side, whatever fails, and whatever others insert. -/
theorem books_agree {w₀ : Site} {crew : Crew BookCall (Except Storage.Error (SolveSummary ⊕ Nat))} (agrees : w₀.Agrees)
    (reached : Crew.Reaches sharedSite BookCall.strand w₀ w crew) :
    (∀ ref (a : String) id, (w.books ref).ids[a]? = some id → (w.ids ref.space)[a]? = some id) ∧
    (∀ ref ref' (a : String) id id', ref.space = ref'.space → (w.books ref).ids[a]? = some id →
      (w.books ref').ids[a]? = some id' → id = id') ∧
    (∀ ref (a b : String) id, (w.books ref).ids[a]? = some id → (w.books ref).ids[b]? = some id → a = b) ∧
    ∀ w' crew', Crew.Leads sharedSite BookCall.strand w crew w' crew' →
      (∀ ref (a : String) id, (w.books ref).ids[a]? = some id → (w'.books ref).ids[a]? = some id) ∧
      ∀ ref settings addresses s, (.solve ref settings addresses, .ready (.done (.ok (.inl s)))) ∈ crew →
        s.unresolved = 0 → ∀ a ∈ addresses, a ≠ "" → (w'.books ref).ids.getD a 0 ≠ 0 := by
  have keeps := sharedSite_honors.keeps
  have ensures : ∀ (call : BookCall) w, bookGrowth.Sound w → call.strand.Ensures bookContract call.Leaves w :=
    fun call w _ => call.ensures_strand w
  obtain ⟨(agrees : w.Agrees), meets⟩ := reached.meets keeps (fun _ => sharedSite_honors) ensures agrees
  refine ⟨fun ref a id found => agrees.books found, ?_, ?_, ?_⟩
  · intro ref ref' a id id' same found found'
    have stored := agrees.books found
    rw [same, agrees.books found'] at stored
    exact (Option.some.inj stored).symm
  · intro ref a b id found found'
    exact (agrees.valid ref.space).injective (agrees.books found) (agrees.books found')
  · intro w' crew' leads
    obtain ⟨(agrees' : w'.Agrees), (grows : w.GrowsTo w'), -⟩ :=
      leads.meets keeps (fun _ => sharedSite_honors) ensures agrees meets
    refine ⟨fun ref a id found => grows.books found, ?_⟩
    intro ref settings addresses s returned none_left a member filled
    have known : a ∈ (w.books ref).ids := meets _ _ returned w (.refl w) agrees none_left a member filled
    obtain ⟨id, found⟩ := exists_of_mem known
    have kept : (w'.books ref).ids[a]? = some id := grows.books found
    rw [Std.TreeMap.getD_eq_getD_getElem?, kept]
    exact Int.ne_of_gt ((agrees'.valid ref.space).positive (agrees'.books kept))

/-! ## An address that another writer stores -/

namespace OneSolver

def book : BookRef := ⟨⟨"c", .account⟩, 0⟩

/-- What the other writer stores. -/
def ids : AddressIds := (∅ : AddressIds).insert "g1" 5

def stored : Site := Site.empty.setIds book.space ids

def call : BookCall := .solve book ⟨.once, true⟩ ["g1"]

def failure : Storage.Error := .query "insert" "refused"

/-- Storage can be looked into, and everything else fails. -/
def rule : Rule Site := fun w q =>
  match q with
  | .call (.find space asked) =>
    ((.ok ((w.ids space).filter fun a _ => asked.contains a) : Except Storage.Error AddressIds), w)
  | .call c => ((.error failure : c.Answer), w)
  | .book ref step => (((w.books ref).step step).1, { w with books := w.books.after (.book ref step) })
  | .request r => ((.error ⟨r.target, .rateLimitExhausted⟩ : r.Answer), w)
  | .insertAll _ => ((.error failure : Except Storage.Error UInt64), w)
  | .token => ((), w)
  | .tryToken => (false, w)
  | .sleep _ => ((), w)
  | .pause _ => ((), w)
  | .stopped => (false, w)

theorem rule_follows : sharedSite.Follows rule := by
  intro w q
  cases q with
  | call c =>
    cases c with
    | find space asked => exact ⟨rfl, rfl⟩
    | _ => exact rfl
  | book ref step => exact ⟨rfl, rfl⟩
  | _ => exact rfl

/-- The site after the solver. -/
def solved : Site := (rule.play call.strand stored).2

theorem play_call : (rule.play call.strand stored).1 = .ok (.inl { requested := 1, recovered := 1 }) := by
  decide +kernel

/-- The address is stored when the solver has begun, and its first lookup finds it. -/
theorem reaches : Crew.Reaches sharedSite BookCall.strand .empty solved
    [(call, .ready (.done (.ok (.inl { requested := 1, recovered := 1 }))))] := by
  have begun : Crew.Reaches sharedSite BookCall.strand .empty .empty [(call, .ready call.strand)] :=
    .step .start (.begin call)
  have foreign : Crew.Reaches sharedSite BookCall.strand .empty stored [(call, .ready call.strand)] :=
    .step begun (.others (Site.numbered_setIds (.first (by simp [Site.empty]) "g1" (by decide))))
  have played := foreign.trans (Crew.leads_play (i := 0) rule_follows rfl stored)
  rwa [play_call] at played

/-- From then on the book gives an id for the address. -/
theorem id_kept : Site.empty.Agrees ∧ Crew.Reaches sharedSite BookCall.strand .empty solved
    [(call, .ready (.done (.ok (.inl { requested := 1, recovered := 1 }))))] ∧
    ∀ w' crew', Crew.Leads sharedSite BookCall.strand solved
      [(call, .ready (.done (.ok (.inl { requested := 1, recovered := 1 }))))] w' crew' →
      (w'.books book).ids.getD "g1" 0 ≠ 0 := by
  obtain ⟨-, -, -, ever⟩ := books_agree Site.agrees_empty reaches
  refine ⟨Site.agrees_empty, reaches, fun w' crew' leads => ?_⟩
  exact (ever w' crew' leads).2 book ⟨.once, true⟩ ["g1"] _ (List.mem_singleton.2 rfl) rfl "g1" (by simp) (by decide)

end OneSolver

end ChainIndex
