import ChainIndex.Proofs.Contract.Task
import ChainIndex.Proofs.Indexing.Defined
import ChainIndex.Proofs.Storage.Site

/-!
# What stays true at a site

While heights are indexed, a site is `Sound`: its ids are valid and belong to addresses that the blocks
at these heights name, the books have no other ids, every row is one that the node defines, and no two
rows have the same key. It only grows: ids stay, entries of books stay, and rows are added at the end.

A contract over these states says what may be asked while heights are indexed and what the answers tell.
A site honours it, faulty or not (`site_honors`): a failure leaves what was sound sound.
-/

namespace ChainIndex

open Storage Running

namespace Site

/-- The ids of a chain. -/
def idsOf (w : Site) (chain : String) (role : AddressRole) : AddressIds := w.ids ⟨chain, role⟩

structure Sound (node : FixedNode) (chain : String) (heights : List UInt64) (w : Site) : Prop where
  valid : ∀ space, ValidIds (w.ids space)
  named : ∀ {space a}, a ∈ w.ids space → ∃ role, space = ⟨chain, role⟩ ∧ node.Names heights role a
  books : ∀ {ref} {a : String} {id}, (w.books ref).ids[a]? = some id → (w.ids ref.space)[a]? = some id
  defined : ∀ row ∈ w.rows, node.Defines chain heights (w.idsOf chain) row
  keys : (w.rows.map Row.key).Nodup

structure Later (w w' : Site) : Prop where
  ids : ∀ {space} {a : String} {id}, (w.ids space)[a]? = some id → (w'.ids space)[a]? = some id
  books : ∀ {ref a}, a ∈ (w.books ref).ids → a ∈ (w'.books ref).ids
  rows : w.rows <+: w'.rows

theorem Later.refl (w : Site) : Later w w := ⟨fun found => found, fun present => present, List.prefix_rfl⟩

theorem Later.trans {w w' w'' : Site} (h : Later w w') (h' : Later w' w'') : Later w w'' :=
  ⟨fun found => h'.ids (h.ids found), fun present => h'.books (h.books present), h.rows.trans h'.rows⟩

variable {node : FixedNode} {chain : String} {heights : List UInt64} {w w' : Site}

theorem sound_empty : Sound node chain heights empty where
  valid _ := ValidIds.empty
  named h := by simp [empty] at h
  books h := by simp [empty, AddressBook.empty] at h
  defined := by simp [empty]
  keys := by simp [empty]

/-- The empty address is in no space. -/
theorem Sound.blank (sound : Sound node chain heights w) (space : AddressSpace) : (w.ids space)[""]? = none := by
  refine Std.TreeMap.getElem?_eq_none fun present => ?_
  obtain ⟨role, -, filled, -⟩ := sound.named present
  exact filled rfl

/-- **Rows are kept.** Rows that the node defines may be stored. -/
theorem Sound.insert (sound : Sound node chain heights w) {new : List Row}
    (fit : ∀ row ∈ new, node.Defines chain heights (w.idsOf chain) row) :
    Sound node chain heights (w.insert new) ∧ Later w (w.insert new) :=
  ⟨{ sound with
      defined := fun row member => (mem_or_mem_of_insertRows member).elim (sound.defined row) (fit row)
      keys := nodup_insertRows sound.keys },
    ⟨fun found => found, fun present => present, prefix_insertRows⟩⟩

/-- A row that was to be stored is there, since no other has its key. -/
theorem Sound.mem_insert (sound : Sound node chain heights w) {new : List Row}
    (fit : ∀ row ∈ new, node.Defines chain heights (w.idsOf chain) row) {row : Row} (member : row ∈ new) :
    row ∈ (w.insert new).rows := by
  have stored : row.key ∈ (w.insert new).rows.map Row.key := key_mem_insertRows member
  obtain ⟨row', present, same⟩ := List.mem_map.1 stored
  have defined := (sound.insert fit).1.defined row' present
  rwa [← defined.eq_of_key (fit row member) same]

/-- **Ids are kept.** Addresses that are named may get ids. -/
theorem Sound.setIds (sound : Sound node chain heights w) {space : AddressSpace} {asked : List String}
    {ids : AddressIds} (numbers : Numbers (w.ids space) asked ids)
    (names : ∀ a ∈ asked, ∃ role, space = ⟨chain, role⟩ ∧ node.Names heights role a) :
    Sound node chain heights (w.setIds space ids) ∧ Later w (w.setIds space ids) := by
  have kept : ∀ {other} {a : String} {id}, (w.ids other)[a]? = some id →
      ((w.setIds space ids).ids other)[a]? = some id := by
    intro other a id found
    by_cases same : other = space
    · subst same
      simpa [Site.setIds] using numbers.kept found
    · simpa [Site.setIds, same] using found
  refine ⟨{ valid := fun other => ?_, named := fun {other a} present => ?_,
            books := fun found => kept (sound.books found),
            defined := fun row member => (sound.defined row member).more fun role a id => kept, keys := sound.keys },
    ⟨kept, fun present => present, List.prefix_rfl⟩⟩
  · by_cases same : other = space
    · subst same
      simpa [Site.setIds] using numbers.valid (sound.valid other)
    · simpa [Site.setIds, same] using sound.valid other
  · by_cases same : other = space
    · subst same
      rcases numbers.only (by simpa [Site.setIds] using present) with old | new
      · exact sound.named old
      · exact names a new
    · exact sound.named (by simpa [Site.setIds, same] using present)

/-- **Books are kept.** An id that storage has may be entered. -/
theorem Sound.book (sound : Sound node chain heights w) {q : Query}
    (fit : ∀ {ref} {a : String} {id}, q = .book ref (.learn a id) → (w.ids ref.space)[a]? = some id)
    (kept : ∀ ref, q ≠ .book ref .clear) :
    Sound node chain heights { w with books := w.books.after q } ∧ Later w { w with books := w.books.after q } :=
  ⟨{ sound with books := fun found => (Books.entry_of_after found).elim sound.books fit },
    ⟨fun found => found, fun {ref _} present => Books.mem_after present (kept ref), List.prefix_rfl⟩⟩

end Site

/-- Sites while heights are indexed. -/
def siteGrowth (node : FixedNode) (chain : String) (heights : List UInt64) : Growth Site where
  Sound := Site.Sound node chain heights
  Later := Site.Later
  refl := Site.Later.refl
  trans := Site.Later.trans

/-- What may be asked at a site, and what the answers tell. -/
def siteContract (node : FixedNode) (chain : String) (heights : List UInt64) (faulty : Prop) :
    Contract (siteGrowth node chain heights) where
  May w q :=
    match q with
    | .call (.insertAddresses space asked) => ∀ a ∈ asked, ∃ role, space = ⟨chain, role⟩ ∧ node.Names heights role a
    | .call (.insert b) => ∀ row ∈ b.rows, node.Defines chain heights (w.idsOf chain) row
    | .book ref (.learn a id) => (w.ids ref.space)[a]? = some id
    | .book _ .clear => False
    | _ => True
  Told w q r :=
    match q, r with
    | .request (.block height), r => FixedNode.Answers (node.block height) r
    | .request (.execution hash), r => FixedNode.Answers (node.execution hash) r
    | .call (.find space asked), .ok (ids : AddressIds) =>
      ∀ (a : String) id, ids[a]? = some id ↔ a ∈ asked ∧ (w.ids space)[a]? = some id
    | .call (.insertAddresses space asked), .ok _ => ∀ a ∈ asked, a ∈ w.ids space
    | .call (.insert b), .ok _ => ∀ row ∈ b.rows, row ∈ w.rows
    | .call _, .error _ => faulty
    | .book ref .entries, (ids : AddressIds) => ids = (w.books ref).ids
    | .book ref (.learn a _), _ => a ∈ (w.books ref).ids
    | _, _ => True
  may_later {w w' q} later may := by
    split
    · exact may
    · exact fun row member => (may row member).more fun role a id => later.ids
    · exact later.ids may
    · exact may
    · trivial
  stored_later later told := fun row member => later.rows.subset (told row member)

variable {node : FixedNode} {chain : String} {heights : List UInt64} {faulty : Prop}

/-- A call that does not fail does what it is asked for. -/
theorem performs_honors {w w' : Site} {c : Call} {a : c.Payload} (sound : w.Sound node chain heights)
    (may : (siteContract node chain heights faulty).May w (.call c)) (performs : w.Performs c a w') :
    w'.Sound node chain heights ∧ w.Later w' ∧ (siteContract node chain heights faulty).Told w' (.call c) (.ok a) := by
  cases c with
  | lastHeight other =>
    obtain rfl := performs
    exact ⟨sound, .refl w', trivial⟩
  | find space asked =>
    obtain ⟨rfl, rfl⟩ := performs
    exact ⟨sound, .refl w', fun b id => Site.getElem?_asked⟩
  | newer space since =>
    obtain rfl := performs
    exact ⟨sound, .refl w', trivial⟩
  | insertAddresses space asked =>
    obtain ⟨ids, numbers, rfl⟩ := performs
    obtain ⟨sound', later⟩ := sound.setIds numbers may
    exact ⟨sound', later, fun b member => by simpa [Site.setIds] using numbers.given member⟩
  | insert b =>
    obtain rfl := performs
    obtain ⟨sound', later⟩ := sound.insert may
    exact ⟨sound', later, fun row member => sound.mem_insert may member⟩

/-- **A site honours the contract.** -/
theorem site_honors : (site node faulty).Honors (siteContract node chain heights faulty) where
  keeps _ _ _ others := others.elim
  answers {w q r w'} sound may answers := by
    have idle : w' = w → (siteContract node chain heights faulty).Told w' q r → w'.Sound node chain heights ∧
        w.Later w' ∧ (siteContract node chain heights faulty).Told w' q r := by
      rintro rfl told
      exact ⟨sound, .refl w', told⟩
    cases q with
    | request question =>
      cases question with
      | block height => exact idle answers.1 answers.2
      | execution hash => exact idle answers.1 answers.2
      | latest => exact idle answers trivial
      | health => exact idle answers trivial
    | call c =>
      cases r with
      | error e =>
        refine idle answers.2 ?_
        cases c <;> exact answers.1
      | ok a => exact performs_honors sound may answers
    | book ref step =>
      obtain ⟨rfl, rfl⟩ := answers
      obtain ⟨sound', later⟩ := sound.book (q := .book ref step) (fun same => by cases same; exact may)
        fun other same => by cases same; exact may
      refine ⟨sound', later, ?_⟩
      cases step with
      | entries => exact Books.ids_after_entries.symm
      | learn a id => exact Books.mem_after_learn
      | _ => trivial
    | _ => exact idle answers trivial
  works {w q w'} sound may works := by
    cases q with
    | call c =>
      cases c with
      | insertAddresses space asked =>
        obtain ⟨part, subset, ids, numbers, rfl⟩ := works
        exact sound.setIds numbers fun a member => may a (subset member)
      | insert b =>
        obtain ⟨part, subset, rfl⟩ := works
        exact sound.insert fun row member => may row (subset member)
      | _ => exact works.elim
    | _ => exact works.elim

theorem ids_space {p : Processor} (wired : p.Wired) (w : Site) (role : AddressRole) :
    w.ids (p.bookOf role).space = w.idsOf p.chain role :=
  congrArg w.ids (wired role)

/-- The operations of a processor are served at a site. -/
theorem site_serves (node : FixedNode) (heights : List UInt64) (faulty : Prop) {p : Processor} (wired : p.Wired) :
    (siteContract node p.chain heights faulty).Serves p (node.Names heights)
      (fun w role a id => (w.idsOf p.chain role)[a]? = some id) (fun w role a => a ∈ (w.books (p.bookOf role)).ids)
      (fun w role a => a ∈ w.idsOf p.chain role) (fun w row => node.Defines p.chain heights (w.idsOf p.chain) row)
      (fun w row => row ∈ w.rows) faulty where
  teaches role :=
    { holds_later := fun later found => later.ids found
      stores_later := fun later present => by
        obtain ⟨id, found⟩ := exists_of_mem present
        exact mem_of_some (later.ids found)
      knows_later := fun later present => later.books present
      may_sleep := fun _ _ => trivial
      may_look := fun _ => trivial
      may_find := fun _ _ _ => trivial
      may_insert := fun _ _ names a member => ⟨role, wired role, names a member⟩
      may_learn := fun {w a id} found =>
        show (w.ids (p.bookOf role).space)[a]? = some id from (ids_space wired w role).symm ▸ found
      looked := fun {w a ids} told present => by
        obtain rfl : ids = (w.books (p.bookOf role)).ids := told
        exact present
      found := fun {w _ _ _ _} told found => ids_space wired w role ▸ ((told _ _).1 found).2
      learnt := fun told => told
      inserts := fun sane w asked r told => by
        cases r with
        | ok a => exact ⟨rfl, ids_space wired w role ▸ told⟩
        | error e => exact absurd told sane
      finds := fun sane w asked r told => by
        cases r with
        | ok ids =>
          refine ⟨ids, rfl, fun a member present => ?_⟩
          obtain ⟨id, found⟩ := exists_of_mem present
          exact mem_of_some ((told a id).2 ⟨member, ids_space wired w role ▸ found⟩)
        | error e => exact absurd told sane }
  entries {w role a id ids} sound told found := by
    obtain rfl : ids = (w.books (p.bookOf role)).ids := told
    exact ids_space wired w role ▸ Site.Sound.books sound found
  knows _ {w role a ids} told present := by
    obtain rfl : ids = (w.books (p.bookOf role)).ids := told
    exact present
  may_store _ fit := fit
  has_later later present := later.rows.subset present
  stored sane w b r told := by
    cases r with
    | ok n => exact ⟨⟨n, rfl⟩, told⟩
    | error e => exact absurd told sane

end ChainIndex
