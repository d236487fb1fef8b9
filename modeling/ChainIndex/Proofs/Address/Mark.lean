import ChainIndex.Proofs.Address.Rising

/-!
# The mark of a book

A book that is loaded, or that is new, is then used by any number of solvers and refreshes side by side. Others insert
addresses at any time, and any call to storage may fail.

**Theorem (`mark_complete`).** If ids only rise, then at every moment every address that storage has with an id up to
the mark of the book is in the book. The mark never falls. A refresh that succeeds leaves every address in the book that
was stored when its query was answered. Loading that fails leaves the books as they are, and a refresh that has changed
a book does not fail any more.

The invariant is `Site.Covers` at the mark. A refresh may raise the mark only to an id up to which the book is complete
(`markContract`). It raises it behind the entries that it makes, so what it was told and what the book had at the mark
that it asked about are all there is (`covers_of_news`), however far the mark has come meanwhile. A solver enters ids
above the mark and leaves the mark alone, which hides nothing: the next refresh asks from the mark.
-/

namespace ChainIndex

open Storage Running

variable {w w' : Site} {ref other : BookRef}

/-! ## What is relied on -/

/-- Sites at which the book is complete up to its mark, and the mark only rises. -/
def markGrowth (ref : BookRef) : Growth Site where
  Sound w := w.Agrees ∧ w.Covers ref (w.books ref).mark
  Later w w' := w.GrowsTo w' ∧ w.Climbs w' ∧ (w.books ref).mark ≤ (w'.books ref).mark
  refl w := ⟨.refl w, .refl w, Int.le_refl _⟩
  trans h h' := ⟨h.1.trans h'.1, h.2.1.trans h'.2.1, Int.le_trans h.2.2 h'.2.2⟩

/-- What a book covers, it covers at all later sites. -/
theorem Site.Covers.always {mark : AddressId} (h : w.Covers ref mark) :
    (markGrowth ref).Always w (Site.Covers · ref mark) :=
  fun _ later sound => h.later later.2.1 (sound.1.valid _) fun _ present =>
    have ⟨_, found⟩ := exists_of_mem present
    mem_of_some (later.1.books found)

/-- The mark is raised to an id up to which the book is complete, and it is not set. -/
def markContract (ref : BookRef) : Contract (markGrowth ref) where
  May w q := bookContract.May w q ∧
    match q with
    | .book other (.setMark _) => other ≠ ref
    | .book other (.raiseMark id) => other = ref → (markGrowth ref).Always w (Site.Covers · ref id)
    | _ => True
  Told w q r := bookContract.Told w q r ∧
    match q, r with
    | .book other .mark, (id : AddressId) => other = ref → w.Covers ref id
    | .book other (.raiseMark id), _ => other = ref → id ≤ (w.books ref).mark
    | .call (.newer space since), .ok (news : AddressIds × AddressId) => News (w.ids space) since news
    | _, _ => True
  may_later {w w' q} later may := by
    refine ⟨bookContract.may_later later.1 may.1, ?_⟩
    have may := may.2
    split at may
    · exact may
    · exact fun same => (may same).later later
    · trivial
  stored_later _ _ := ⟨trivial, trivial⟩

theorem Books.after_mark {books : Books} : books.after (.book ref .mark) = books := by
  funext other
  by_cases same : other = ref
  · subst same
    simp [after, AddressBook.step]
  · simp [after, same]

/-- The mark after a question that does not set it. -/
theorem Books.mark_after {books : Books} {q : Query} (unset : ∀ id, q ≠ .book ref (.setMark id)) :
    (books.after q ref).mark = (books ref).mark ∨
      ∃ id, q = .book ref (.raiseMark id) ∧ (books.after q ref).mark = max (books ref).mark id := by
  cases q with
  | book target step =>
    by_cases same : ref = target
    · subst same
      cases step with
      | setMark id => exact absurd rfl (unset id)
      | raiseMark id => exact .inr ⟨id, rfl, by simp [after, AddressBook.step]⟩
      | _ => exact .inl (by simp [after, AddressBook.step])
    · exact .inl (by simp [after, same])
  | _ => exact .inl rfl

/-- Whatever may be asked leaves the book complete up to its mark. -/
theorem sound_after {q : Query} (may : (markContract ref).May w q) (sound : (markGrowth ref).Sound w)
    (grows : w'.Agrees ∧ w.GrowsTo w') (climbs : w.Climbs w') (books : w'.books = w.books.after q) :
    (markGrowth ref).Sound w' ∧ (markGrowth ref).Later w w' := by
  obtain ⟨agrees', grows⟩ := grows
  have kept {mark : AddressId} (covers : w.Covers ref mark) : w'.Covers ref mark := by
    refine covers.later climbs (agrees'.valid _) fun a present => ?_
    obtain ⟨id, found⟩ := exists_of_mem present
    exact mem_of_some (grows.books found)
  have unset : ∀ id, q ≠ .book ref (.setMark id) := by
    rintro id rfl
    exact may.2 rfl
  suffices w'.Covers ref (w'.books ref).mark ∧ (w.books ref).mark ≤ (w'.books ref).mark from
    ⟨⟨agrees', this.1⟩, grows, climbs, this.2⟩
  rw [books]
  rcases Books.mark_after unset with same | ⟨id, rfl, raised⟩
  · rw [same]
    exact ⟨kept sound.2, Int.le_refl _⟩
  · rw [raised]
    refine ⟨?_, Int.le_max_left _ _⟩
    rcases Int.le_total (w.books ref).mark id with le | le
    · rw [Int.max_eq_right le]
      exact kept (may.2 rfl w ((markGrowth ref).refl w) sound)
    · rw [Int.max_eq_left le]
      exact kept sound.2

/-- **A site with rising ids** keeps the book complete up to its mark. -/
theorem risingSite_markContract (ref : BookRef) : risingSite.Honors (markContract ref) where
  keeps w w' sound others :=
    sound_after (q := .token) ⟨trivial, trivial⟩ sound (sound.1.numbered others.1) others.2 others.1.books
  answers {w q r w'} sound may answers := by
    obtain ⟨agrees', grows, told⟩ := sharedSite_honors.answers sound.1 may.1 answers.1
    have books : w'.books = w.books.after q := risingSite_keepsBooks.answers answers
    obtain ⟨sound', later⟩ := sound_after may sound ⟨agrees', grows⟩ answers.2 books
    refine ⟨sound', later, told, ?_⟩
    split
    · next other id =>
      rintro rfl
      obtain ⟨rfl, rfl⟩ := answers.1
      have covers := sound'.2
      have same : (w.books.after (.book other .mark) other).mark = (w.books other).mark := by
        simp [Books.after, AddressBook.step]
      rwa [same] at covers
    · next other id _ =>
      rintro rfl
      have raised : (w'.books other).mark = max (w.books other).mark id := by
        simp [books, Books.after, AddressBook.step]
      rw [raised]
      exact Int.le_max_right _ _
    · next space since news =>
      obtain ⟨rfl, tells⟩ := news_of_answers answers.1
      exact tells
    · trivial
  works {w q w'} sound may works :=
    sound_after (q := .token) ⟨trivial, trivial⟩ sound (sharedSite_honors.works sound.1 may.1 works.1) works.2
      (risingSite_keepsBooks.works works)

/-! ## Calls to books -/

theorem markContract_teaches (ref other : BookRef) :
    (markContract ref).Teaches other (fun _ => True) (fun w a id => (w.ids other.space)[a]? = some id)
      (fun w a => a ∈ (w.books other).ids) (fun _ _ => True) True where
  holds_later later found := later.1.ids found
  stores_later _ _ := trivial
  knows_later later present := (bookContract_teaches other).knows_later later.1 present
  may_sleep _ _ := ⟨trivial, trivial⟩
  may_look _ := ⟨trivial, trivial⟩
  may_find _ _ _ := ⟨trivial, trivial⟩
  may_insert _ _ _ := ⟨trivial, trivial⟩
  may_learn found := ⟨found, trivial⟩
  looked told present := (bookContract_teaches other).looked told.1 present
  found told here := (bookContract_teaches other).found told.1 here
  learnt told := told.1
  inserts sane := absurd trivial sane
  finds sane := absurd trivial sane

/-- A refresh once it is told what is new. -/
def BookRef.enter (book : BookRef) (news : AddressIds × AddressId) : Strand (Except Storage.Error Nat) := do
  book.learnAll news.1
  Strand.book book (.raiseMark news.2)
  pure (.ok news.1.size)

/-- A refresh once its query is answered. -/
def BookRef.receive (book : BookRef) : Except Storage.Error (AddressIds × AddressId) → Strand (Except Storage.Error Nat)
  | .error e => pure (.error e)
  | .ok news => book.enter news

theorem refresh_eq (book : BookRef) : book.refresh = (do
    let since ← Strand.book book .mark
    let answer ← Strand.call (.newer book.space since)
    book.receive answer) := by
  refine congrArg (Strand.book book .mark >>= ·) (funext fun since => ?_)
  refine congrArg (Strand.call (.newer book.space since) >>= ·) (funext fun answer => ?_)
  cases answer <;> rfl

theorem ensures_refresh_marked (ref other : BookRef) :
    other.refresh.Ensures (markContract ref) (fun _ _ => True) w := by
  rw [refresh_eq]
  refine Strand.ensures_query (fun _ _ _ => ⟨trivial, trivial⟩) fun since w₁ _ _ asked => ?_
  refine Strand.ensures_query (fun _ _ _ => ⟨trivial, trivial⟩) fun answer w₂ later₂ sound₂ told => ?_
  cases answer with
  | error e => exact Strand.ensures_pure fun _ _ _ => trivial
  | ok news =>
    have tells : News (w₂.ids other.space) since news := told.2
    have stored : ∀ a id, news.1[a]? = some id → (w₂.ids other.space)[a]? = some id := fun a id found =>
      (tells.told.1 found).1
    refine ((markContract_teaches ref other).ensures_learnAll stored).bind fun _ w₃ later₃ _ knows => ?_
    refine Strand.ensures_query (fun w₄ later₄ _ => ⟨trivial, ?_⟩) fun _ _ _ _ _ =>
      Strand.ensures_pure fun _ _ _ => trivial
    rintro rfl w₅ later₅ sound₅
    -- the book had all up to `since` when the query was answered, and has got the news since then
    have covers : w₂.Covers other since := (asked.2 rfl).always w₂ later₂ sound₂
    have later : (markGrowth other).Later w₂ w₅ :=
      (markGrowth other).trans later₃ ((markGrowth other).trans later₄ later₅)
    refine covers_of_news tells covers.attains later.2.1 (sound₅.1.valid _) (fun found low => ?_) fun a present => ?_
    · exact (markContract_teaches other other).knows_later later (covers.entered found low)
    · exact knows w₅ ((markGrowth other).trans later₄ later₅) sound₅ a present

theorem BookCall.ensures_marked (ref : BookRef) (call : BookCall) (w : Site) :
    call.strand.Ensures (markContract ref) (fun _ _ => True) w := by
  cases call with
  | solve other settings addresses =>
    exact ((markContract_teaches ref other).ensures_solves fun _ _ _ => trivial).map fun _ _ _ _ _ => trivial
  | refresh other => exact (ensures_refresh_marked ref other).map fun _ _ _ _ _ => trivial

/-- A refresh that may raise the mark has raised it in the end. -/
theorem ensures_raised {news : AddressIds × AddressId}
    (may : (ref.enter news).Ensures (markContract ref) (fun _ _ => True) w) :
    (ref.enter news).Ensures (markContract ref) (fun w₁ _ => news.2 ≤ (w₁.books ref).mark) w := by
  refine Strand.Ensures.bind (Strand.Ensures.of_bind may) fun _ w₁ _ sound₁ left => ?_
  refine Strand.ensures_query (fun w₂ later₂ sound₂ => ?_) fun _ w₂ _ _ told => ?_
  · exact (left w₁ ((markGrowth ref).refl w₁) sound₁ w₂ later₂ sound₂).1
  · exact Strand.ensures_pure fun w₃ later₃ _ => Int.le_trans (told.2 rfl) later₃.2.2

/-! ## What is left of a refresh -/

section

variable {s : Strand (Except Storage.Error (SolveSummary ⊕ Nat))}
  {t t' : Running.Task (Except Storage.Error (SolveSummary ⊕ Nat))}
  {q : Query} {next : q.Answer → Strand (Except Storage.Error (SolveSummary ⊕ Nat))}

/-- All of it, or all but its look at the mark, or what is left once its query is answered. -/
theorem rest_refresh (h : (BookCall.refresh ref).strand.Rest s) :
    (∃ next, s = .ask (.book ref .mark) next) ∨
    (∃ since, s = .ask (.call (.newer ref.space since)) fun answer => Except.map .inr <$> ref.receive answer) ∨
    ∃ answer, (Except.map Sum.inr <$> ref.receive answer).Rest s := by
  have begins : (BookCall.refresh ref).strand = .ask (.book ref .mark) fun since =>
      .ask (.call (.newer ref.space since)) fun answer => Except.map .inr <$> ref.receive answer := by
    rw [BookCall.strand, refresh_eq]
    rfl
  rw [begins] at h
  rcases h.of_ask with same | ⟨since, rest⟩
  · exact .inl ⟨_, same⟩
  · rcases rest.of_ask with same | ⟨answer, rest⟩
    · exact .inr (.inl ⟨since, same⟩)
    · exact .inr (.inr ⟨answer, rest⟩)

/-- Once its query is answered, a refresh turns to its book only. -/
theorem asks_receive (answer : Except Storage.Error (AddressIds × AddressId)) :
    (Except.map (Sum.inr (α := SolveSummary)) <$> ref.receive answer).Asks fun q => ∃ step, q = .book ref step := by
  refine Strand.Asks.bind ?_ fun _ => trivial
  cases answer with
  | error e => exact trivial
  | ok news =>
    refine (Strand.Asks.learnAll fun a id => ⟨_, rfl⟩).bind fun _ => ?_
    exact (Strand.Asks.query ⟨_, rfl⟩).bind fun _ => trivial

/-- A refresh that waits for storage goes on with what storage tells. -/
theorem next_of_rest {since : AddressId} {next : (Query.call (.newer ref.space since)).Answer → Strand _}
    (h : (BookCall.refresh ref).strand.Rest (.ask (.call (.newer ref.space since)) next)) :
    next = fun answer => Except.map .inr <$> ref.receive answer := by
  rcases rest_refresh h with ⟨next, same⟩ | ⟨since', same⟩ | ⟨answer, rest⟩
  · cases same
  · cases same
    rfl
  · obtain ⟨step, same⟩ := (rest.asks (asks_receive answer)).1
    cases same

/-- A refresh that enters what is new succeeds. -/
theorem ok_of_rest_enter {news : AddressIds × AddressId} {r : Except Storage.Error (SolveSummary ⊕ Nat)}
    (h : (Except.map Sum.inr <$> ref.enter news).Rest (.done r)) : r = .ok (.inr news.1.size) := by
  obtain ⟨r', entering, ends⟩ := Strand.Rest.done_of_bind h
  obtain ⟨_, -, entering⟩ := Strand.Rest.done_of_bind entering
  obtain ⟨_, -, entering⟩ := Strand.Rest.done_of_bind entering
  obtain rfl : r' = .ok news.1.size := by
    cases entering.of_pure
    rfl
  cases ends.of_pure
  rfl

/-- A task changes books when it is answered, and as the question does. -/
theorem Running.Task.Step.books {β : Type} {t t' : Task β} {i : Nat} {es : List Running.Event}
    (step : t.Step risingSite i w es w' t') : w'.books = w.books ∨
      ∃ q next a, t = .asking q next ∧ t' = .ready (next a) ∧ w'.books = w.books.after q := by
  cases step with
  | work works => exact .inl (risingSite_keepsBooks.works works)
  | workPart at_ works => exact .inl (risingSite_keepsBooks.works works)
  | answer answers => exact .inr ⟨_, _, _, rfl, rfl, risingSite_keepsBooks.answers answers⟩
  | store at_ answers => exact .inl (risingSite_keepsBooks.answers answers)
  | fail at_ answers => exact .inl (risingSite_keepsBooks.answers answers)
  | _ => exact .inl rfl

/-- **A refresh that has changed a book** has been told what is new, and enters it. -/
theorem entering_of_changed {i : Nat} {es : List Running.Event} (rests : t.Rests (BookCall.refresh ref).strand)
    (step : t.Step risingSite i w es w' t') (changed : w'.books ≠ w.books) :
    ∃ news, t'.Rests (Except.map .inr <$> ref.enter news) := by
  rcases step.books with same | ⟨q, next, a, rfl, rfl, books⟩
  · exact absurd same changed
  rcases rest_refresh rests with ⟨next, same⟩ | ⟨since, same⟩ | ⟨answer, rest⟩
  · cases same
    exact absurd (books.trans Books.after_mark) changed
  · cases same
    exact absurd books changed
  · cases answer with
    | error e => cases rest
    | ok news => exact ⟨news, rest.next a⟩

end

/-! ## Histories of a book -/

/-- How the history of a book begins: it is new, and loading it may fail, or it is loaded. -/
inductive BookRef.Opens (ref : BookRef) (w : Site) : Site → Prop where
  | anew (new : w.books ref = .empty) : Opens ref w w
  | failed {es : List Running.Event} {e : Storage.Error} {w' : Site} (new : w.books ref = .empty)
      (run : Completes risingSite (.alone ref.load) w es w' (.error e)) : Opens ref w w'
  | loaded {es : List Running.Event} {n : Nat} {w' : Site}
      (run : Completes risingSite (.alone ref.load) w es w' (.ok n)) : Opens ref w w'

/-- However a book is opened, it is complete up to its mark then. -/
theorem BookRef.Opens.sound (h : ref.Opens w w') (agrees : w.Agrees) : (markGrowth ref).Sound w' := by
  have new {w : Site} (agrees : w.Agrees) (new : w.books ref = .empty) : (markGrowth ref).Sound w := by
    refine ⟨agrees, ?_⟩
    rw [new]
    exact covers_zero (agrees.valid _)
  cases h with
  | anew empty => exact new agrees empty
  | failed empty run =>
    have books : w'.books = w.books := books_of_load_error risingSite_keepsBooks run
    obtain ⟨told, lives⟩ := run.load
    obtain ⟨valid, (climbs : w.Climbs w')⟩ := risingSite_storeContract.lives
      (Strand.Asks.load (fun _ => trivial) (fun _ => trivial) (fun _ _ _ => trivial) fun _ _ => trivial) agrees.valid
      lives
    refine new ⟨valid, fun {other a id} found => climbs.kept (agrees.books ?_)⟩ (by rw [books, empty])
    rwa [← books]
  | loaded run => exact covers_of_load agrees run

/-- An entry of a book that covers it is the id that storage has. -/
theorem Site.Covers.entry {mark id : AddressId} {a : String} (h : w.Covers ref mark) (agrees : w.Agrees)
    (found : (w.ids ref.space)[a]? = some id) (low : id ≤ mark) : (w.books ref).ids[a]? = some id := by
  obtain ⟨id', known⟩ := exists_of_mem (h.entered found low)
  rw [known, ← agrees.books known, found]

variable {w₀ w₁ w₂ w₃ : Site} {crew crew₂ crew₃ : Crew BookCall (Except Storage.Error (SolveSummary ⊕ Nat))} {i : Nat}

/-- **What a refresh leaves.** When it ends, its book has all that was stored when its query was answered. -/
theorem entries_of_refresh (sound : (markGrowth ref).Sound w)
    (meets : ∀ call t, (call, t) ∈ crew → t.Meets (markContract ref) (fun _ _ => True) w) {since : AddressId}
    {news : AddressIds × AddressId}
    (here : crew[i]? = some (.refresh ref, .asking (.call (.newer ref.space since)) fun answer =>
      Except.map .inr <$> ref.receive answer))
    (answers : risingSite.answers w (.call (.newer ref.space since)) (.ok news) w₂)
    (leads : Crew.Leads risingSite BookCall.strand w₂
      (crew.set i (.refresh ref, .ready (Except.map .inr <$> ref.enter news))) w₃ crew₃)
    {r : Except Storage.Error (SolveSummary ⊕ Nat)} (ends : crew₃[i]? = some (.refresh ref, .ready (.done r)))
    {a : String} {id : AddressId} (found : (w.ids ref.space)[a]? = some id) : (w₃.books ref).ids[a]? = some id := by
  have honors := risingSite_markContract ref
  have ensures : ∀ (call : BookCall) w, (markGrowth ref).Sound w →
      call.strand.Ensures (markContract ref) (fun _ _ => True) w := fun call w _ => call.ensures_marked ref w
  -- the step that answers the query, and what it tells
  obtain ⟨rfl, tells⟩ := news_of_answers answers.1
  have step : Task.Step risingSite i w₂
      (.asking (.call (.newer ref.space since)) fun answer =>
        Except.map (Sum.inr (α := SolveSummary)) <$> ref.receive answer) _ w₂
      (.ready (Except.map .inr <$> ref.enter news)) := .answer answers
  have crewStep : Crew.Step risingSite BookCall.strand w₂ crew w₂ _ := .task here step
  obtain ⟨-, -, meets₂⟩ := crewStep.meets honors.keeps (fun _ => honors) ensures sound meets
  obtain ⟨-, -, goesOn, -⟩ := (meets _ _ (List.mem_of_getElem? here)).step honors sound step
  -- the refresh is followed to its end, where it has raised the mark
  have raised : (Except.map (Sum.inr (α := SolveSummary)) <$> ref.enter news).Ensures (markContract ref)
      (fun w _ => news.2 ≤ (w.books ref).mark) w₂ := by
    have may : (ref.enter news).Ensures (markContract ref) (fun _ _ => True) w₂ :=
      (Strand.Ensures.of_bind goesOn).mono fun _ _ _ _ _ => trivial
    exact (ensures_raised may).map fun _ _ _ _ le => le
  obtain ⟨sound₃, later₃, -⟩ := leads.meets honors.keeps (fun _ => honors) ensures sound meets₂
  obtain ⟨t, there, (meets₃ : t.Meets _ _ _)⟩ := leads.meets_at honors.keeps (fun _ => honors) ensures sound meets₂
    (getElem?_set_of_some here) (t := .ready _) raised
  cases Option.some.inj (there.symm.trans ends)
  have reached : news.2 ≤ (w₃.books ref).mark := meets₃ w₃ ((markGrowth ref).refl w₃) sound₃
  exact sound₃.2.entry sound₃.1 (later₃.1.ids found) (Int.le_trans (tells.highest found) reached)

/-- **The mark never skips an address**, and it never falls. A refresh that succeeds leaves all in the book that was
stored when its query was answered. Loading that fails changes no book, and a refresh that has changed one succeeds. -/
theorem mark_complete (agrees : w₀.Agrees) (opens : ref.Opens w₀ w₁)
    (reached : Crew.Reaches risingSite BookCall.strand w₁ w crew) :
    (∀ (a : String) id, (w.ids ref.space)[a]? = some id → id ≤ (w.books ref).mark → (w.books ref).ids[a]? = some id) ∧
    (∀ w' crew', Crew.Leads risingSite BookCall.strand w crew w' crew' → (w.books ref).mark ≤ (w'.books ref).mark) ∧
    (∀ i since next news w₂,
      crew[i]? = some (.refresh ref, .asking (.call (.newer ref.space since)) next) →
      risingSite.answers w (.call (.newer ref.space since)) (.ok news) w₂ → ∀ w₃ crew₃ n,
      Crew.Leads risingSite BookCall.strand w₂ (crew.set i (.refresh ref, .ready (next (.ok news)))) w₃ crew₃ →
      crew₃[i]? = some (.refresh ref, .ready (.done (.ok (.inr n)))) →
      ∀ (a : String) id, (w.ids ref.space)[a]? = some id → (w₃.books ref).ids[a]? = some id) ∧
    (∀ es w' e, Completes risingSite (.alone ref.load) w₀ es w' (.error e) → w'.books = w₀.books) ∧
    ∀ i t es w₂ t₂, crew[i]? = some (.refresh ref, t) → t.Step risingSite i w es w₂ t₂ → w₂.books ≠ w.books →
      ∀ w₃ crew₃ e, Crew.Leads risingSite BookCall.strand w₂ (crew.set i (.refresh ref, t₂)) w₃ crew₃ →
        crew₃[i]? ≠ some (.refresh ref, .ready (.done (.error e))) := by
  have honors := risingSite_markContract ref
  have ensures : ∀ (call : BookCall) w, (markGrowth ref).Sound w →
      call.strand.Ensures (markContract ref) (fun _ _ => True) w := fun call w _ => call.ensures_marked ref w
  obtain ⟨sound, meets⟩ := reached.meets honors.keeps (fun _ => honors) ensures (opens.sound agrees)
  refine ⟨fun a id found low => sound.2.entry sound.1 found low, fun w' crew' leads => ?_, ?_,
    fun es w' e run => books_of_load_error risingSite_keepsBooks run, ?_⟩
  · obtain ⟨-, later, -⟩ := leads.meets honors.keeps (fun _ => honors) ensures sound meets
    exact later.2.2
  · intro i since next news w₂ here answers w₃ crew₃ n leads ends a id found
    obtain rfl := next_of_rest (reached.rests _ _ (List.mem_of_getElem? here))
    exact entries_of_refresh sound meets here answers leads ends found
  · intro i t es w₂ t₂ here step changed w₃ crew₃ e leads ends
    obtain ⟨news, rests⟩ := entering_of_changed (reached.rests _ _ (List.mem_of_getElem? here)) step changed
    obtain ⟨t₃, there, rests₃⟩ := leads.rests_at (getElem?_set_of_some here) rests
    cases Option.some.inj (there.symm.trans ends)
    cases ok_of_rest_enter rests₃

/-! ## An address that another writer stores before a refresh -/

namespace OneRefresh

open OneSolver (book stored)

/-- Storage tells what is new, and is as before otherwise. -/
def rule : Rule Site := fun w q =>
  match q with
  | .call (.newer space since) =>
    let news := (w.ids space).filter fun _ id => since < id
    ((.ok (news, news.foldl (fun n _ id => max n id) since) : Except Storage.Error (AddressIds × AddressId)), w)
  | q => OneSolver.rule w q

theorem ids_rule (w : Site) (q : Query) : (OneSolver.rule w q).2.ids = w.ids := by
  cases q with
  | call c => cases c <;> rfl
  | _ => rfl

theorem rule_follows : risingSite.Follows rule := by
  intro w q
  cases q with
  | call c =>
    cases c with
    | newer space since => exact ⟨⟨rfl, rfl, rfl⟩, .refl w⟩
    | _ => exact ⟨OneSolver.rule_follows w _, .of_same (ids_rule w _)⟩
  | _ => exact ⟨OneSolver.rule_follows w _, .of_same (ids_rule w _)⟩

/-- The site after the refresh. -/
def refreshed : Site := (rule.play (BookCall.refresh book).strand stored).2

theorem play_refresh : (rule.play (BookCall.refresh book).strand stored).1 = .ok (.inr 1) := by
  decide +kernel

theorem reaches : Crew.Reaches risingSite BookCall.strand .empty refreshed
    [(.refresh book, .ready (.done (.ok (.inr 1))))] := by
  have foreign : risingSite.others .empty stored := by
    refine ⟨Site.numbered_setIds (.first (by simp [Site.empty]) "g1" (by decide)), ?_, ?_⟩
    · intro space a id found
      simp [Site.empty] at found
    · exact fun _ => .inr fun b old known => by simp [Site.empty] at known
  have begun : Crew.Reaches risingSite BookCall.strand .empty stored
      [(.refresh book, .ready (BookCall.refresh book).strand)] :=
    .step (.step .start (.others foreign)) (.begin _)
  have played := begun.trans (Crew.leads_play (i := 0) rule_follows rfl stored)
  rwa [play_refresh] at played

/-- The mark has come up to the address, so it is in the book. -/
theorem entry_at_mark : Site.empty.Agrees ∧ book.Opens .empty .empty ∧
    Crew.Reaches risingSite BookCall.strand .empty refreshed [(.refresh book, .ready (.done (.ok (.inr 1))))] ∧
    (refreshed.ids book.space)["g1"]? = some 5 ∧ (refreshed.books book).mark = 5 ∧
    (refreshed.books book).ids["g1"]? = some 5 := by
  have stored : (refreshed.ids book.space)["g1"]? = some 5 := by decide +kernel
  have mark : (refreshed.books book).mark = 5 := by decide +kernel
  obtain ⟨covered, -⟩ := mark_complete Site.agrees_empty (.anew rfl) reaches
  exact ⟨Site.agrees_empty, .anew rfl, reaches, stored, mark, covered "g1" 5 stored (Int.le_of_eq mark.symm)⟩

end OneRefresh

end ChainIndex
