import ChainIndex.Proofs.Address.Growing
import ChainIndex.Proofs.Contract.Member

/-!
# Storage with rising ids

Storage is asked for what is new since some id. That this can be answered for good hangs on how ids are given: here
every new id is above all that the space had before (`Site.Climbs`), and it is given together with the insert, so no id
can turn up later below one that was seen.

**What is new is all there is** (`covers_of_news`). Storage tells all addresses with ids above the one that it was
asked about, and the highest of these. A book that has all of them, and all up to the id asked about, is complete up to
the highest, in that state and in every later one: ids that are given later are above it.

**Loading a book** (`covers_of_load`) asks for all that there is. So a loaded book is complete up to its mark whatever
stood in it before, and whatever others store meanwhile.
-/

namespace ChainIndex

open Storage Running

/-! ## Ids that only rise -/

/-- Ids stay, and new ones are above all that the space had. -/
structure Site.Climbs (w w' : Site) : Prop where
  kept : ∀ {space} {a : String} {id}, (w.ids space)[a]? = some id → (w'.ids space)[a]? = some id
  above : ∀ {space} {a : String} {id}, (w'.ids space)[a]? = some id →
    (w.ids space)[a]? = some id ∨ ∀ (b : String) old, (w.ids space)[b]? = some old → old < id

namespace Site.Climbs

variable {w w' w'' : Site}

theorem of_same (same : w'.ids = w.ids) : w.Climbs w' where
  kept found := by rwa [same]
  above found := .inl (by rwa [← same])

theorem refl (w : Site) : w.Climbs w := of_same rfl

theorem trans (h : w.Climbs w') (h' : w'.Climbs w'') : w.Climbs w'' where
  kept found := h'.kept (h.kept found)
  above found := by
    rcases h'.above found with before | high
    · exact h.above before
    · exact .inr fun b old known => high b old (h.kept known)

end Site.Climbs

/-- A shared site at which every new id is above all that its space had. -/
def risingSite : Environment Site where
  answers w q r w' := sharedSite.answers w q r w' ∧ w.Climbs w'
  works w q w' := sharedSite.works w q w' ∧ w.Climbs w'
  others w w' := sharedSite.others w w' ∧ w.Climbs w'

theorem risingSite_keepsBooks : risingSite.KeepsBooks where
  others h := sharedSite_keepsBooks.others h.1
  works h := sharedSite_keepsBooks.works h.1
  answers h := sharedSite_keepsBooks.answers h.1
  told h := sharedSite_keepsBooks.told h.1

/-! ## Storage alone -/

/-- Sites of whose books nothing is known. -/
def storeGrowth : Growth Site where
  Sound w := ∀ space, ValidIds (w.ids space)
  Later := Site.Climbs
  refl := .refl
  trans := .trans

/-- Every question may be put to storage. -/
def storeContract : Contract storeGrowth where
  May _ _ := True
  Told _ _ _ := True
  may_later _ _ := trivial
  stored_later _ _ := trivial

variable {w w' w'' : Site} {ref : BookRef}

theorem Site.Numbered.validIds (h : w.Numbered w') (valid : ∀ space, ValidIds (w.ids space)) (space : AddressSpace) :
    ValidIds (w'.ids space) := by
  obtain ⟨asked, numbers⟩ := h.ids space
  exact numbers.valid (valid space)

theorem risingSite_storeContract : risingSite.Honors storeContract where
  keeps _ _ valid others := ⟨Site.Numbered.validIds others.1 valid, others.2⟩
  answers {w q r w'} valid _ answers := by
    refine ⟨?_, answers.2, trivial⟩
    cases q with
    | call c => exact (numbered_of_answers answers.1).validIds valid
    | book ref step =>
      obtain ⟨⟨-, rfl⟩, -⟩ := answers
      exact valid
    | _ => exact (answers.1 : w' = w) ▸ valid
  works {w q w'} valid _ works := by
    refine ⟨?_, works.2⟩
    cases q with
    | call c => exact (Site.Begins.numbered works.1).validIds valid
    | _ => exact works.1.elim

/-! ## News -/

/-- The ids of a space have come up to the mark. -/
def Site.Attains (w : Site) (space : AddressSpace) (mark : AddressId) : Prop :=
  mark ≤ 0 ∨ ∃ (a : String) (id : AddressId), (w.ids space)[a]? = some id ∧ mark ≤ id

/-- Once the ids have come up to the mark, no new id is up to it. -/
theorem Site.Attains.known {space : AddressSpace} {mark : AddressId} (attains : w.Attains space mark)
    (climbs : w.Climbs w') (valid : ValidIds (w'.ids space)) {a : String} {id : AddressId}
    (found : (w'.ids space)[a]? = some id) (low : id ≤ mark) : (w.ids space)[a]? = some id := by
  rcases climbs.above found with before | high
  · exact before
  · rcases attains with least | ⟨b, old, stored, reached⟩
    · exact absurd (Int.le_trans low least) (Int.not_le.2 (valid.positive found))
    · exact absurd (Int.le_trans low reached) (Int.not_le.2 (high b old stored))

/-- A book is complete up to the mark: it has every address with an id up to it, and no such id is to come. -/
structure Site.Covers (w : Site) (ref : BookRef) (mark : AddressId) : Prop where
  entered : ∀ {a : String} {id}, (w.ids ref.space)[a]? = some id → id ≤ mark → a ∈ (w.books ref).ids
  attains : w.Attains ref.space mark

/-- What is new in a space since an id, with the highest of the ids. -/
structure News (stored : AddressIds) (since : AddressId) (news : AddressIds × AddressId) : Prop where
  told : ∀ {a : String} {id}, news.1[a]? = some id ↔ stored[a]? = some id ∧ since < id
  least : since ≤ news.2
  most : ∀ {a : String} {id}, news.1[a]? = some id → id ≤ news.2
  attained : news.2 = since ∨ ∃ a : String, news.1[a]? = some news.2

/-- The highest of some ids and of the one to begin with. -/
theorem foldl_max_spec (entries : List (String × Int)) (since : Int) :
    let top := entries.foldl (fun n e => max n e.2) since
    since ≤ top ∧ (∀ e ∈ entries, e.2 ≤ top) ∧ (top = since ∨ ∃ e ∈ entries, e.2 = top) := by
  induction entries generalizing since with
  | nil => exact ⟨Int.le_refl _, by simp, .inl rfl⟩
  | cons e entries ih =>
    obtain ⟨least, most, attained⟩ := ih (max since e.2)
    simp only [List.foldl_cons]
    refine ⟨by omega, fun e' member => ?_, ?_⟩
    · rcases List.mem_cons.1 member with rfl | member
      · omega
      · exact most e' member
    · rcases attained with same | ⟨e', member, same⟩
      · rcases Int.le_total since e.2 with le | le
        · exact .inr ⟨e, List.mem_cons_self, by omega⟩
        · exact .inl (by omega)
      · exact .inr ⟨e', List.mem_cons_of_mem _ member, same⟩

theorem news_filter (stored : AddressIds) (since : AddressId) :
    News stored since (stored.filter (fun _ id => since < id),
      (stored.filter fun _ id => since < id).foldl (fun n _ id => max n id) since) := by
  obtain ⟨least, most, attained⟩ := foldl_max_spec (stored.filter fun _ id => since < id).toList since
  rw [← Std.TreeMap.foldl_eq_foldl_toList (f := fun n _ id => max n id)] at least most attained
  refine ⟨fun {a id} => ?_, least, fun {a id} found => ?_, attained.imp_right ?_⟩
  · rw [Std.TreeMap.getElem?_filter', Option.filter_eq_some_iff, decide_eq_true_eq]
  · exact most (a, id) (Std.TreeMap.mem_toList_iff_getElem?_eq_some.2 found)
  · rintro ⟨⟨a, id⟩, member, rfl⟩
    exact ⟨a, Std.TreeMap.mem_toList_iff_getElem?_eq_some.1 member⟩

theorem news_of_answers {space : AddressSpace} {since : AddressId} {news : AddressIds × AddressId}
    (answers : sharedSite.answers w (.call (.newer space since)) (.ok news) w') :
    w' = w ∧ News (w.ids space) since news := by
  obtain ⟨same, ids, highest⟩ := answers
  have pair : news = (news.1, news.2) := rfl
  rw [pair, highest, ids]
  exact ⟨same, news_filter (w.ids space) since⟩

namespace News

variable {stored : AddressIds} {since : AddressId} {news : AddressIds × AddressId}

theorem highest (h : News stored since news) {a : String} {id : AddressId} (found : stored[a]? = some id) :
    id ≤ news.2 := by
  by_cases above : since < id
  · exact h.most (h.told.2 ⟨found, above⟩)
  · exact Int.le_trans (Int.not_lt.1 above) h.least

theorem attains {space : AddressSpace} (h : News (w.ids space) since news) (attains : w.Attains space since) :
    w.Attains space news.2 := by
  rcases h.attained with same | ⟨a, found⟩
  · rwa [same]
  · exact .inr ⟨a, news.2, (h.told.1 found).1, Int.le_refl _⟩

end News

/-- **What is new is all there is.** A book with the news and with all that was known before is complete up to the
highest id, then and later. -/
theorem covers_of_news {since : AddressId} {news : AddressIds × AddressId} (tells : News (w.ids ref.space) since news)
    (attains : w.Attains ref.space since) (climbs : w.Climbs w') (valid : ValidIds (w'.ids ref.space))
    (before : ∀ {a : String} {id}, (w.ids ref.space)[a]? = some id → id ≤ since → a ∈ (w'.books ref).ids)
    (after : ∀ a ∈ news.1, a ∈ (w'.books ref).ids) : w'.Covers ref news.2 where
  entered {a id} found low := by
    have stored := (tells.attains attains).known climbs valid found low
    by_cases new : since < id
    · exact after a (mem_of_some (tells.told.2 ⟨stored, new⟩))
    · exact before stored (Int.not_lt.1 new)
  attains := (tells.attains attains).imp_right fun ⟨a, id, found, reached⟩ => ⟨a, id, climbs.kept found, reached⟩

/-- What a book covers, it covers for good. -/
theorem Site.Covers.later {mark : AddressId} (h : w.Covers ref mark) (climbs : w.Climbs w')
    (valid : ValidIds (w'.ids ref.space)) (grows : ∀ a ∈ (w.books ref).ids, a ∈ (w'.books ref).ids) :
    w'.Covers ref mark where
  entered found low := grows _ (h.entered (h.attains.known climbs valid found low) low)
  attains := h.attains.imp_right fun ⟨a, id, found, reached⟩ => ⟨a, id, climbs.kept found, reached⟩

/-- Nothing has an id up to zero. -/
theorem covers_zero (valid : ValidIds (w.ids ref.space)) : w.Covers ref 0 where
  entered found low := absurd (valid.positive found) (Int.not_lt.2 low)
  attains := .inl (Int.le_refl 0)

/-! ## Loading -/

section

variable {E : Environment Site} {told : List Telling} {es : List Running.Event} {r : Except Storage.Error Nat}

/-- Books after a question and whatever others do are what the question leaves of them. -/
theorem Running.Environment.KeepsBooks.turn (keeps : E.KeepsBooks) {q : Query} {a : q.Answer} (turn : E.Turn w q a w') :
    w'.books = w.books.after q := by
  obtain ⟨w₁, w₂, drift, answers, idle⟩ := turn
  rw [keeps.idles idle, keeps.answers answers, keeps.drifts drift]

theorem Strand.Asks.load {P : Query → Prop} (ask : P (.call (.newer ref.space 0))) (clear : P (.book ref .clear))
    (learn : ∀ a id, P (.book ref (.learn a id))) (mark : ∀ id, P (.book ref (.setMark id))) : ref.load.Asks P := by
  refine (Strand.Asks.query ask).bind fun answer => ?_
  cases answer with
  | error e => exact trivial
  | ok news =>
    refine (Strand.Asks.query clear).bind fun _ => (Strand.Asks.learnAll learn).bind fun _ => ?_
    exact (Strand.Asks.query (mark _)).bind fun _ => trivial

/-- The entries of a book are replaced by these, and its mark is set. -/
def BookRef.Replaces (E : Environment Site) (ref : BookRef) (ids : AddressIds) (highest : AddressId) (w w' : Site) :
    Prop :=
  ∃ w₁ w₂ w₃, E.Turn w (.book ref .clear) () w₁ ∧ (ref.learnAll ids).Lives E w₁ (learning ref ids) w₂ () ∧
    E.Turn w₂ (.book ref (.setMark highest)) () w₃ ∧ E.Idles w₃ w'

/-- Storage is asked first. If it tells what there is, that replaces what the book has. -/
theorem Strand.Lives.of_load (lives : ref.load.Lives E w told w' r) :
    ∃ (answer : Except Storage.Error (AddressIds × AddressId)) (w₁ : Site),
      E.Turn w (.call (.newer ref.space 0)) answer w₁ ∧
      ((∃ e, answer = .error e ∧ r = .error e ∧ E.Idles w₁ w') ∨
      ∃ ids highest, answer = .ok (ids, highest) ∧ r = .ok ids.size ∧ ref.Replaces E ids highest w₁ w') := by
  obtain ⟨answer, w₁, _, _, asked, rest, -⟩ := Strand.Lives.of_bind lives
  refine ⟨answer, w₁, asked.of_query.2, ?_⟩
  cases answer with
  | error e =>
    obtain ⟨-, same, idle⟩ := rest.of_pure (a := Except.error e)
    exact .inl ⟨e, rfl, same, idle⟩
  | ok news =>
    obtain ⟨ids, highest⟩ := news
    obtain ⟨_, w₂, _, _, cleared, rest, -⟩ := Strand.Lives.of_bind rest
    obtain ⟨_, w₃, _, _, learns, rest, -⟩ := Strand.Lives.of_bind rest
    obtain ⟨_, w₄, _, _, marked, rest, -⟩ := Strand.Lives.of_bind rest
    obtain ⟨-, same, idle⟩ := rest.of_pure
    obtain rfl := learns.of_learnAll
    exact .inr ⟨ids, highest, rfl, same, w₂, w₃, w₄, cleared.of_query.2, learns, marked.of_query.2, idle⟩

theorem Running.Completes.load (run : Completes E (.alone ref.load) w es w' r) :
    ∃ told, ref.load.Lives E w told w' r := by
  obtain ⟨told, lives, -⟩ := run.lived (Strand.Asks.load rfl rfl (fun _ _ => rfl) fun _ => rfl)
  exact ⟨told, lives⟩

/-- **Loading that fails** leaves the books as they are. -/
theorem books_of_load_error (keeps : E.KeepsBooks) {e : Storage.Error}
    (run : Completes E (.alone ref.load) w es w' (.error e)) : w'.books = w.books := by
  obtain ⟨told, lives⟩ := run.load
  obtain ⟨answer, w₁, asked, ⟨e, -, -, idle⟩ | ⟨ids, highest, -, same, -⟩⟩ := lives.of_load
  · rw [keeps.idles idle, keeps.turn asked]
    rfl
  · cases same

namespace BookRef.Replaces

variable {ids : AddressIds} {highest : AddressId}

/-- The book has what replaced its entries, and the mark. The other books have what they had. -/
theorem books (keeps : E.KeepsBooks) (h : ref.Replaces E ids highest w w') :
    (∀ a : String, (w'.books ref).ids[a]? = ids[a]?) ∧ (w'.books ref).mark = highest ∧
      ∀ other, other ≠ ref → (w'.books other).ids = (w.books other).ids := by
  obtain ⟨w₁, w₂, w₃, cleared, learns, marked, idle⟩ := h
  have begun : w₁.books = w.books.after (.book ref .clear) := keeps.turn cleared
  have ended : w'.books = w₂.books.after (.book ref (.setMark highest)) := by rw [keeps.idles idle, keeps.turn marked]
  have learnt := keeps.lives learns isAdding_learning
  refine ⟨fun a => ?_, by simp [ended, Books.after, AddressBook.step], fun other ne => ?_⟩
  · have nothing : (w₁.books ref).ids = ∅ := by simp [begun, Books.after, AddressBook.step]
    have same : (w'.books ref).ids = (w₂.books ref).ids := by simp [ended, Books.after, AddressBook.step]
    rw [same, learnt, enteredIn_learning, if_pos rfl, nothing, getElem?_insertMany_toList]
    simp
  · have same : (w'.books other).ids = (w₂.books other).ids := by simp [ended, Books.after, ne]
    rw [same, learnt, enteredIn_learning, if_neg (Ne.symm ne), Std.TreeMap.insertMany_nil]
    simp [begun, Books.after, ne]

/-- Meanwhile storage gives ids as it always does. -/
theorem climbs (h : ref.Replaces risingSite ids highest w w') (valid : ∀ space, ValidIds (w.ids space)) :
    (∀ space, ValidIds (w'.ids space)) ∧ w.Climbs w' := by
  have honors := risingSite_storeContract
  obtain ⟨w₁, w₂, w₃, cleared, learns, marked, idle⟩ := h
  obtain ⟨valid₁, climbs₁⟩ := honors.turn (fun _ => trivial) valid cleared
  obtain ⟨valid₂, climbs₂⟩ := honors.lives (Strand.Asks.learnAll fun _ _ _ => trivial) valid₁ learns
  obtain ⟨valid₃, climbs₃⟩ := honors.turn (fun _ => trivial) valid₂ marked
  obtain ⟨valid₄, climbs₄⟩ := honors.idles valid₃ idle
  exact ⟨valid₄, climbs₁.trans (climbs₂.trans (climbs₃.trans climbs₄))⟩

end BookRef.Replaces

end

/-- **A loaded book** agrees with storage and is complete up to its mark. -/
theorem covers_of_load {es : List Running.Event} {n : Nat} (agrees : w.Agrees)
    (run : Completes risingSite (.alone ref.load) w es w' (.ok n)) : w'.Agrees ∧ w'.Covers ref (w'.books ref).mark := by
  obtain ⟨told, lives⟩ := run.load
  obtain ⟨answer, w₁, asked, ⟨e, -, same, -⟩ | ⟨ids, highest, rfl, -, replaces⟩⟩ := lives.of_load
  · cases same
  -- storage tells what there is in the state `v`
  obtain ⟨v, v', drift, answers, idle⟩ := asked
  obtain ⟨rfl, news⟩ := news_of_answers answers.1
  have honors := risingSite_storeContract
  obtain ⟨valid, (before : w.Climbs v')⟩ := honors.drifts (fun _ => trivial) agrees.valid drift
  obtain ⟨valid₁, (idling : v'.Climbs w₁)⟩ := honors.idles valid idle
  obtain ⟨valid', replacing⟩ := replaces.climbs valid₁
  have after : v'.Climbs w' := idling.trans replacing
  obtain ⟨entries, mark, others⟩ := replaces.books risingSite_keepsBooks
  have books : w₁.books = w.books := by
    rw [risingSite_keepsBooks.idles idle, risingSite_keepsBooks.drifts drift]
  refine ⟨⟨valid', fun {other a id} found => ?_⟩, ?_⟩
  · by_cases same : other = ref
    · subst same
      rw [entries] at found
      exact after.kept (news.told.1 found).1
    · rw [others other same, books] at found
      exact after.kept (before.kept (agrees.books found))
  · rw [mark]
    refine covers_of_news news (.inl (Int.le_refl 0)) after (valid' _) (fun found low => ?_) fun a present => ?_
    · exact absurd ((valid _).positive found) (Int.not_lt.2 low)
    · obtain ⟨id, found⟩ := exists_of_mem present
      exact mem_of_some ((entries a).trans found)

end ChainIndex
