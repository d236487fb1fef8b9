import ChainIndex.Proofs.Address.Entered

/-!
# Storage and books that only grow

Less is known of a site here than where ids are compared: others may store whatever they like and enter whatever they
like into books, calls may fail in any pattern and have done whatever they like before, and ids are of no concern. All
that is relied on is that nothing is ever removed (`Site.Gains`), that a lookup finds those that are stored among the
addresses that it was asked for, and no others, and that an insert which succeeds has stored what it was given
(`busySite`). The sites that are spoken of elsewhere are of this kind.

**What a call that succeeds has come to** (`BookRef.Ended`). Its summary counts two sets: what the first lookup found,
and what the second one did. All of both is in the book in the end, and what neither found is left.
-/

namespace ChainIndex

open Storage Running

variable {σ β : Type} {E : Environment σ}

/-! ## Sites that only grow -/

/-- What is stored and what stands in books stays, under whatever id. -/
structure Site.Gains (w w' : Site) : Prop where
  ids : ∀ {space} {a : String}, a ∈ w.ids space → a ∈ w'.ids space
  books : ∀ {ref} {a : String}, a ∈ (w.books ref).ids → a ∈ (w'.books ref).ids

namespace Site.Gains

variable {w w' w'' : Site}

theorem refl (w : Site) : w.Gains w := ⟨id, id⟩

theorem trans (h : w.Gains w') (h' : w'.Gains w'') : w.Gains w'' := ⟨h'.ids ∘ h.ids, h'.books ∘ h.books⟩

theorem of_numbered (h : w.Numbered w') : w.Gains w' where
  ids {space a} present := by
    obtain ⟨asked, numbers⟩ := h.ids space
    obtain ⟨id, found⟩ := exists_of_mem present
    exact mem_of_some (numbers.kept found)
  books present := h.books ▸ present

end Site.Gains

/-- The world at a site that many write to. Any call may fail, and nothing is ever removed. -/
def busySite : Environment Site where
  answers w q r w' :=
    match q, r with
    | .call (.find space asked), .ok (found : AddressIds) =>
      w' = w ∧ found = (w.ids space).filter fun a _ => asked.contains a
    | .call (.insertAddresses space asked), .ok _ => w.Gains w' ∧ ∀ a ∈ asked, a ∈ w'.ids space
    | .call _, _ => w.Gains w'
    | .book ref step, r => r = ((w.books ref).step step).1 ∧ w' = { w with books := w.books.after (.book ref step) }
    | _, _ => w' = w
  works w _ w' := w.Gains w'
  others := Site.Gains

/-- No call to storage fails. -/
def Running.Environment.Unfailing (E : Environment σ) : Prop :=
  ∀ {w c r w'}, E.answers w (.call c) r w' → ∃ a, r = .ok a

/-- The same world without failures of storage. -/
def Running.Environment.unfailing (E : Environment σ) : Environment σ where
  answers w q r w' := E.answers w q r w' ∧
    match q, r with
    | .call _, .error _ => False
    | _, _ => True
  works := E.works
  others := E.others

theorem Running.Environment.unfailing_unfailing (E : Environment σ) : E.unfailing.Unfailing := by
  rintro w c r w' ⟨-, succeeds⟩
  cases r with
  | ok a => exact ⟨a, rfl⟩
  | error e => exact succeeds.elim

theorem Running.Environment.unfailing_within (E : Environment σ) : E.unfailing.Within E where
  answers h := h.1
  works h := h
  others h := h

theorem site_unfailing (node : FixedNode) : (site node False).Unfailing := by
  intro w c r w' answers
  cases r with
  | ok a => exact ⟨a, rfl⟩
  | error e => exact answers.1.elim

variable {w w' : Site}

theorem Site.Performs.busy {c : Call} {a : c.Payload} (h : w.Performs c a w') :
    busySite.answers w (.call c) (.ok a) w' := by
  cases c with
  | lastHeight chain => exact (h : w' = w) ▸ .refl w
  | find space asked => exact h
  | newer space since => exact (h : w' = w) ▸ .refl w
  | insertAddresses space asked =>
    obtain ⟨ids, numbers, rfl⟩ := h
    exact ⟨.of_numbered (Site.numbered_setIds numbers), fun b member => by simpa [Site.setIds] using numbers.given member⟩
  | insert b => exact (h : w' = w.insert b.rows) ▸ .of_numbered (Site.numbered_insert w b.rows)

theorem Site.busy_of_error {c : Call} {e : Storage.Error} (h : w' = w) :
    busySite.answers w (.call c) (.error e) w' := by
  cases c <;> exact h ▸ .refl w

theorem sharedSite_within : sharedSite.Within busySite where
  answers {w q r w'} answers := by
    cases q with
    | call c =>
      cases r with
      | error e => exact Site.busy_of_error (by cases c <;> exact answers)
      | ok a =>
        cases c with
        | newer space since => exact (answers.1 : w' = w) ▸ .refl w
        | _ => exact Site.Performs.busy answers
    | _ => exact answers
  works {w q w'} works := by
    cases q with
    | call c => exact .of_numbered (Site.Begins.numbered works)
    | _ => exact works.elim
  others others := .of_numbered others

theorem site_within (node : FixedNode) (faulty : Prop) : (site node faulty).Within busySite where
  answers {w q r w'} answers := by
    cases q with
    | call c =>
      cases r with
      | error e => exact Site.busy_of_error answers.2
      | ok a => exact Site.Performs.busy answers
    | request request =>
      cases request with
      | block height => exact answers.1
      | execution hash => exact answers.1
      | _ => exact answers
    | _ => exact answers
  works {w q w'} works := by
    cases q with
    | call c => exact .of_numbered (Site.Begins.numbered works)
    | _ => exact works.elim
  others others := others.elim

/-! ## What is lived through at a busy site -/

/-- Nothing is removed, unless a book is cleared. -/
theorem gains_of_answers {q : Query} {r : q.Answer} (adding : q.isAdding) (answers : busySite.answers w q r w') :
    w.Gains w' := by
  cases q with
  | call c =>
    cases r with
    | error e => cases c <;> exact answers
    | ok a =>
      cases c with
      | find space asked => exact (answers.1 : w' = w) ▸ .refl w
      | insertAddresses space asked => exact answers.1
      | _ => exact answers
  | book ref step =>
    obtain ⟨-, rfl⟩ := answers
    refine ⟨id, fun present => Books.mem_after present ?_⟩
    rintro ⟨⟩
    cases adding
  | insertAll batches => cases adding
  | _ => exact (answers : w' = w) ▸ .refl w

theorem gains_of_idles (idle : busySite.Idles w w') : w.Gains w' := by
  induction idle with
  | refl => exact .refl w
  | tail _ step ih => exact ih.trans step

theorem gains_of_drifts {q : Query} (drift : busySite.Drifts q w w') : w.Gains w' := by
  induction drift with
  | refl => exact .refl w
  | tail _ step ih => exact ih.trans (step.elim id id)

theorem gains_of_turn {q : Query} {r : q.Answer} (adding : q.isAdding) (turn : busySite.Turn w q r w') : w.Gains w' := by
  obtain ⟨w₁, w₂, drift, answers, idle⟩ := turn
  exact (gains_of_drifts drift).trans ((gains_of_answers adding answers).trans (gains_of_idles idle))

variable {told : List Telling} {b : β} {s : Strand β} {book : BookRef} {space : AddressSpace} {asked : List String}

/-- **Nothing is removed** while a strand is on its way that clears no book. -/
theorem gains_of_lives (lives : s.Lives busySite w told w' b) (adding : ∀ t ∈ told, t.1.isAdding) : w.Gains w' := by
  induction lives with
  | done idle => exact gains_of_idles idle
  | ask drift answers _ ih =>
    obtain ⟨one, more⟩ := List.forall_mem_cons.1 adding
    exact (gains_of_drifts drift).trans ((gains_of_answers one answers).trans (ih more))

/-! ## What an answer tells -/

/-- What a strand was told is true: of what there was at first it leaves nothing out, and what it names is there in the
end. -/
def Site.Knows (w : Site) (t : Telling) (w' : Site) : Prop :=
  match t.1, t.2 with
  | .call (.find space asked), .ok (found : AddressIds) =>
    (∀ a ∈ found, a ∈ asked ∧ a ∈ w'.ids space) ∧ ∀ a ∈ asked, a ∈ w.ids space → a ∈ found
  | .call (.insertAddresses space asked), .ok _ => ∀ a ∈ asked, a ∈ w'.ids space
  | .book ref .entries, (entries : AddressIds) =>
    (∀ a ∈ (w.books ref).ids, a ∈ entries) ∧ ∀ a ∈ entries, a ∈ (w'.books ref).ids
  | .book ref (.learn a _), _ => a ∈ (w'.books ref).ids
  | _, _ => True

/-- It stays true, and was so before. -/
theorem Site.Knows.mono {w₀ w₁ : Site} {t : Telling} (h : w.Knows t w') (before : w₀.Gains w) (later : w'.Gains w₁) :
    w₀.Knows t w₁ := by
  obtain ⟨q, r⟩ := t
  cases q with
  | call c =>
    cases r with
    | error e => cases c <;> trivial
    | ok a =>
      cases c with
      | find space asked =>
        exact ⟨fun b present => (h.1 b present).imp_right later.ids,
          fun b member present => h.2 b member (before.ids present)⟩
      | insertAddresses space asked => exact fun b member => later.ids (h b member)
      | _ => trivial
  | book ref step =>
    cases step with
    | entries => exact ⟨fun a present => h.1 a (before.books present), fun a present => later.books (h.2 a present)⟩
    | learn a id => exact later.books h
    | _ => trivial
  | _ => trivial

theorem knows_of_answers {q : Query} {r : q.Answer} (answers : busySite.answers w q r w') : w.Knows ⟨q, r⟩ w' := by
  cases q with
  | call c =>
    cases r with
    | error e => cases c <;> trivial
    | ok a =>
      cases c with
      | find space asked =>
        obtain ⟨rfl, rfl⟩ := answers
        constructor
        · intro b present
          obtain ⟨id, here⟩ := exists_of_mem present
          exact (Site.getElem?_asked.1 here).imp_right mem_of_some
        · intro b member present
          obtain ⟨id, here⟩ := exists_of_mem present
          exact mem_of_some (Site.getElem?_asked.2 ⟨member, here⟩)
      | insertAddresses space asked => exact answers.2
      | _ => trivial
  | book ref step =>
    obtain ⟨rfl, rfl⟩ := answers
    cases step with
    | entries =>
      refine ⟨fun a present => present, fun a present => ?_⟩
      show a ∈ (w.books.after (.book ref .entries) ref).ids
      rw [Books.ids_after_entries]
      exact present
    | learn a id => exact Books.mem_after_learn
    | _ => trivial
  | _ => trivial

theorem knows_of_turn {q : Query} {r : q.Answer} (turn : busySite.Turn w q r w') : w.Knows ⟨q, r⟩ w' := by
  obtain ⟨w₁, w₂, drift, answers, idle⟩ := turn
  exact (knows_of_answers answers).mono (gains_of_drifts drift) (gains_of_idles idle)

/-- **What a strand was told is true**, from where it began to where it ended. -/
theorem knows_of_lives (lives : s.Lives busySite w told w' b) (adding : ∀ t ∈ told, t.1.isAdding) :
    ∀ t ∈ told, w.Knows t w' := by
  induction lives with
  | done idle => simp
  | ask drift answers rest ih =>
    obtain ⟨one, more⟩ := List.forall_mem_cons.1 adding
    refine List.forall_mem_cons.2 ⟨(knows_of_answers answers).mono (gains_of_drifts drift) (gains_of_lives rest more), ?_⟩
    intro t member
    exact (ih more t member).mono ((gains_of_drifts drift).trans (gains_of_answers one answers)) (.refl _)

theorem isAdding_learning {ids : AddressIds} : ∀ t ∈ learning book ids, t.1.isAdding := by
  intro t member
  obtain ⟨entry, -, rfl⟩ := List.mem_map.1 member
  rfl

theorem learnt_busy {ids : AddressIds} {u : Unit} (lives : (book.learnAll ids).Lives busySite w (learning book ids) w' u) :
    w.Gains w' ∧ ∀ a ∈ ids, a ∈ (w'.books book).ids := by
  refine ⟨gains_of_lives lives isAdding_learning, fun a present => ?_⟩
  obtain ⟨id, here⟩ := exists_of_mem present
  have entry : (a, id) ∈ ids.toList := Std.TreeMap.mem_toList_iff_getElem?_eq_some.2 here
  exact knows_of_lives lives isAdding_learning _ (List.mem_map_of_mem entry)

/-- Where no call fails, no reply is a failure. -/
theorem Strand.Lives.succeeds {w w' : σ} (lives : s.Lives E w told w' b) (unfailing : E.Unfailing) :
    ∀ reply ∈ repliesIn told, Reply.Succeeds reply := by
  induction lives with
  | done idle => simp [repliesIn]
  | @ask q next w w₁ w₂ w' a told b drift answers rest ih =>
    cases q with
    | call c =>
      change ∀ reply ∈ (⟨c, a⟩ : Reply) :: repliesIn told, Reply.Succeeds reply
      exact List.forall_mem_cons.2 ⟨unfailing answers, ih⟩
    | _ => exact ih

/-! ## Counting -/

/-- As many ids as were found for addresses of a list, and as many addresses as are left: the whole list. -/
theorem size_add_length_without {ids : AddressIds} {addresses : List String} (once : addresses.Nodup)
    (only : ∀ a ∈ ids, a ∈ addresses) : ids.size + (without ids addresses).length = addresses.length := by
  have found : ids.keys.Perm (addresses.filter fun a => ids.contains a) := by
    refine (List.perm_ext_iff_of_nodup Std.TreeMap.nodup_keys (once.filter _)).2 fun a => ?_
    rw [Std.TreeMap.mem_keys, List.mem_filter, Std.TreeMap.contains_iff_mem]
    exact ⟨fun present => ⟨only a present, present⟩, And.right⟩
  rw [← Std.TreeMap.length_keys, found.length_eq, without]
  exact (List.length_eq_length_filter_add _).symm

theorem nodup_wanted (addresses : List String) : (wanted addresses).Nodup :=
  (nodup_firstOccurrences addresses).filter _

theorem mem_wanted {addresses : List String} {a : String} : a ∈ wanted addresses ↔ a ∈ addresses ∧ a ≠ "" := by
  simp [wanted]

/-! ## Calls that succeed -/

/-- What a call that succeeded found with its first and its second look-up, and what has become of it. -/
structure BookRef.Ended (book : BookRef) (settings : SolverSettings) (wanted unknown : List String) (w : Site)
    (told : List Telling) (w' : Site) (s : SolveSummary) (first second : AddressIds) : Prop where
  summary : s =
    { requested := wanted.length, cached := wanted.length - unknown.length, recovered := first.size
      inserted := second.size, unresolved := (without first unknown).length - second.size }
  head : firstFound (repliesIn told) = first
  found : ∀ a ∈ first, a ∈ unknown ∧ a ∈ w'.ids book.space
  stored : ∀ a ∈ unknown, a ∈ w.ids book.space → a ∈ first
  assigned : ∀ a ∈ second, a ∈ without first unknown
  entered : ∀ ref, enteredIn ref told = if book = ref then first.toList ++ second.toList else []
  learnt : ∀ a, a ∈ first ∨ a ∈ second → a ∈ (w'.books book).ids
  complete : settings.oneByOne = false ∨ (∀ reply ∈ repliesIn told, Reply.Succeeds reply) →
    ∀ a ∈ without first unknown, a ∈ second

variable {settings : SolverSettings} {wanted unknown missing : List String}

/-- Addresses that were inserted one by one were so because inserting them together failed. -/
theorem Inserting.together_of {rs : List Reply} (h : Inserting space settings missing rs (.ok ()))
    (whole : settings.oneByOne = false ∨ ∀ reply ∈ rs, Reply.Succeeds reply) :
    insertion space missing (.ok ()) ∈ rs := by
  rcases whole with together | succeeds
  · cases h with
    | together few => simp
    | singly all single each =>
      rw [together] at single
      cases single
  · exact (h.ok succeeds).2

/-- **A call that succeeds** has found and assigned what it counts. -/
theorem BookRef.Course.ended {s : SolveSummary} (adding : ∀ t ∈ told, t.1.isAdding)
    (course : book.Course busySite settings wanted unknown w told w' (.ok s)) :
    ∃ first second, book.Ended settings wanted unknown w told w' s first second := by
  have nobody {a : String} : a ∉ (∅ : AddressIds) := Std.TreeMap.not_mem_emptyc
  cases course with
  | known empty idle =>
    subst empty
    exact ⟨∅, ∅, rfl, rfl, fun a present => (nobody present).elim, by simp, fun a present => (nobody present).elim,
      fun ref => by split <;> rfl, fun a present => (present.elim nobody nobody).elim,
      fun _ a member => by simp [without] at member⟩
  | recovered some asked learnt empty =>
    rename_i w₁ found
    obtain ⟨only, stored⟩ := knows_of_turn asked
    obtain ⟨gains, learns⟩ := learnt_busy learnt
    refine ⟨found, ∅, by rw [empty]; rfl, rfl, fun a present => (only a present).imp_right gains.ids, stored,
      fun a present => (nobody present).elim, fun ref => ?_, fun a present => ?_,
      fun _ a member => by simp [empty] at member⟩
    · rw [enteredIn_looking, enteredIn_learning]
      split
      · exact (List.append_nil _).symm
      · rfl
    · exact learns a (present.resolve_right nobody)
  | solved some asked learnt left inserting asked' learnt' =>
    rename_i w₁ w₂ w₃ w₄ found assigned told
    obtain ⟨only, stored⟩ := knows_of_turn asked
    obtain ⟨only', stored'⟩ := knows_of_turn asked'
    obtain ⟨gains, learns⟩ := learnt_busy learnt
    obtain ⟨gains', learns'⟩ := learnt_busy learnt'
    have adding' : ∀ t ∈ told, t.1.isAdding := fun t member => adding t (by simp [member])
    have later : w₂.Gains w' := (gains_of_lives inserting adding').trans ((gains_of_turn rfl asked').trans gains')
    refine ⟨found, assigned, rfl, rfl, fun a present => (only a present).imp_right (gains.trans later).ids, stored,
      fun a present => (only' a present).1, fun ref => ?_, fun a present => ?_, fun whole a member => ?_⟩
    · rw [List.cons_append, List.cons_append, enteredIn_looking, enteredIn_append, enteredIn_append, enteredIn_learning,
        enteredIn_inserting inserting, enteredIn_looking, enteredIn_learning]
      split <;> simp
    · exact present.elim (fun here => later.books (learns a here)) (learns' a)
    · -- all that is missing was stored at once, so the second look-up found it
      have together : insertion book.space (without found unknown) (.ok ()) ∈ repliesIn told := by
        refine inserting.inserting.together_of (whole.imp_right fun succeeds reply member => succeeds reply ?_)
        rw [repliesIn_append, repliesIn_append]
        exact List.mem_append_left _ (List.mem_append_right _ member)
      have stored₃ : ∀ a ∈ without found unknown, a ∈ w₃.ids book.space :=
        knows_of_lives inserting adding' _ (mem_repliesIn.1 together)
      exact stored' a member (stored₃ a member)

end ChainIndex
