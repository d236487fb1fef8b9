import ChainIndex.Proofs.Address.Calls

/-!
# The course of a call to a solver

A call goes through its text in one of six ways, and each is a case of `BookRef.Course`, with the states of the world
between its parts for those who know more of it. **A call takes its course** (`Lives.course`), whatever world it is
in; what was inserted is read off the loops by induction on their rounds (`of_attempts`, `of_singles`). From the course
the replies of storage follow, and they are those that `Solving` calls for (`Course.solving`).
-/

namespace ChainIndex

open Storage Running

/-! ## The parts of a course -/

/-- Addresses are looked up, and the world with its drift. -/
def Running.Environment.Looks {σ : Type} (E : Environment σ) (w : σ) (space : AddressSpace) (asked : List String)
    (r : Except Storage.Error AddressIds) (w' : σ) : Prop :=
  E.Turn w (.call (.find space asked)) r w'

/-- What a strand is told when it looks addresses up. -/
def looking (space : AddressSpace) (asked : List String) (r : Except Storage.Error AddressIds) : Telling :=
  ⟨.call (.find space asked), r⟩

theorem repliesIn_looking {space : AddressSpace} {asked : List String} {r : Except Storage.Error AddressIds}
    {told : List Telling} : repliesIn (looking space asked r :: told) = lookup space asked r :: repliesIn told := rfl

/-- What a strand is told when it enters ids into a book. -/
def learning (book : BookRef) (ids : AddressIds) : List Telling :=
  ids.toList.map fun entry => ⟨.book book (.learn entry.1 entry.2), ()⟩

@[simp] theorem repliesIn_learning (book : BookRef) (ids : AddressIds) : repliesIn (learning book ids) = [] :=
  List.filterMap_eq_nil_iff.2 fun t member => by
    obtain ⟨entry, -, rfl⟩ := List.mem_map.1 member
    rfl

variable {σ β : Type} {E : Environment σ} {w w' : σ} {told : List Telling} {book : BookRef} {settings : SolverSettings}
  {addresses missing : List String}

/-- How a call goes on once it has looked into the book, with the states of the world between its parts. -/
inductive BookRef.Course (E : Environment σ) (book : BookRef) (settings : SolverSettings) (wanted unknown : List String) :
    σ → List Telling → σ → Except Storage.Error SolveSummary → Prop
  | known {w w' : σ} (none : unknown = []) (idle : E.Idles w w') :
    Course E book settings wanted unknown w [] w'
      (.ok { requested := wanted.length, cached := wanted.length - unknown.length })
  | unanswered {w w' : σ} {e : Storage.Error} (some : unknown ≠ [])
      (asked : E.Looks w book.space unknown (.error e) w') :
    Course E book settings wanted unknown w [looking book.space unknown (.error e)] w' (.error e)
  | recovered {w w₁ w' : σ} {found : AddressIds} (some : unknown ≠ [])
      (asked : E.Looks w book.space unknown (.ok found) w₁)
      (learnt : (book.learnAll found).Lives E w₁ (learning book found) w' ()) (none : without found unknown = []) :
    Course E book settings wanted unknown w (looking book.space unknown (.ok found) :: learning book found) w'
      (.ok { requested := wanted.length, cached := wanted.length - unknown.length, recovered := found.size })
  | refused {w w₁ w₂ w' : σ} {found : AddressIds} {told : List Telling} {e : Storage.Error} (some : unknown ≠ [])
      (asked : E.Looks w book.space unknown (.ok found) w₁)
      (learnt : (book.learnAll found).Lives E w₁ (learning book found) w₂ ()) (left : without found unknown ≠ [])
      (inserting : (book.insertMissing settings (without found unknown)).Lives E w₂ told w' (.error e)) :
    Course E book settings wanted unknown w
      (looking book.space unknown (.ok found) :: learning book found ++ told) w' (.error e)
  | unread {w w₁ w₂ w₃ w' : σ} {found : AddressIds} {told : List Telling} {e : Storage.Error} (some : unknown ≠ [])
      (asked : E.Looks w book.space unknown (.ok found) w₁)
      (learnt : (book.learnAll found).Lives E w₁ (learning book found) w₂ ()) (left : without found unknown ≠ [])
      (inserting : (book.insertMissing settings (without found unknown)).Lives E w₂ told w₃ (.ok ()))
      (asked' : E.Looks w₃ book.space (without found unknown) (.error e) w') :
    Course E book settings wanted unknown w
      (looking book.space unknown (.ok found) :: learning book found ++ told ++
        [looking book.space (without found unknown) (.error e)]) w' (.error e)
  | solved {w w₁ w₂ w₃ w₄ w' : σ} {found assigned : AddressIds} {told : List Telling} (some : unknown ≠ [])
      (asked : E.Looks w book.space unknown (.ok found) w₁)
      (learnt : (book.learnAll found).Lives E w₁ (learning book found) w₂ ()) (left : without found unknown ≠ [])
      (inserting : (book.insertMissing settings (without found unknown)).Lives E w₂ told w₃ (.ok ()))
      (asked' : E.Looks w₃ book.space (without found unknown) (.ok assigned) w₄)
      (learnt' : (book.learnAll assigned).Lives E w₄ (learning book assigned) w' ()) :
    Course E book settings wanted unknown w
      (looking book.space unknown (.ok found) :: learning book found ++ told ++
        looking book.space (without found unknown) (.ok assigned) :: learning book assigned) w'
      (.ok { requested := wanted.length, cached := wanted.length - unknown.length, recovered := found.size
             inserted := assigned.size, unresolved := (without found unknown).length - assigned.size })

namespace Strand.Lives

theorem of_learnAll {ids : AddressIds} {u : Unit} (h : (book.learnAll ids).Lives E w told w' u) :
    told = learning book ids := by
  rw [BookRef.learnAll] at h
  rw [learning]
  generalize ids.toList = entries at h
  induction entries generalizing w told with
  | nil => exact (of_pure h).1
  | cons entry entries ih =>
    change (Strand.book book (.learn entry.1 entry.2) >>= fun _ => entries.forM _).Lives E w told w' u at h
    obtain ⟨_, w₁, first, rest, one, more, rfl⟩ := of_bind h
    rw [(of_query one).1, ih more]
    rfl

/-- Where a look-up and what is learnt from it come first. -/
theorem of_find {asked : List String} {f : Except Storage.Error AddressIds → Strand β} {b : β}
    (h : (Strand.call (.find book.space asked) >>= f).Lives E w told w' b) :
    ∃ r w₁ rest, E.Looks w book.space asked r w₁ ∧ (f r).Lives E w₁ rest w' b ∧
      told = looking book.space asked r :: rest := by
  obtain ⟨r, w₁, first, rest, one, more, rfl⟩ := of_bind h
  obtain ⟨rfl, turn⟩ := of_query one
  exact ⟨r, w₁, rest, turn, more, rfl⟩

/-- How the addresses get their ids that storage did not have. -/
theorem of_solveMissing {summary : SolveSummary} {r : Except Storage.Error SolveSummary}
    (h : (book.solveMissing settings summary missing).Lives E w told w' r) :
    (∃ e, r = .error e ∧ (book.insertMissing settings missing).Lives E w told w' (.error e)) ∨
    ∃ w₁ first, (book.insertMissing settings missing).Lives E w first w₁ (.ok ()) ∧
      ((∃ e, r = .error e ∧ E.Looks w₁ book.space missing (.error e) w' ∧
        told = first ++ [looking book.space missing (.error e)]) ∨
      ∃ (assigned : AddressIds) (w₂ : σ),
        r = .ok { summary with inserted := assigned.size, unresolved := missing.length - assigned.size } ∧
        E.Looks w₁ book.space missing (.ok assigned) w₂ ∧
        (book.learnAll assigned).Lives E w₂ (learning book assigned) w' () ∧
        told = first ++ looking book.space missing (.ok assigned) :: learning book assigned) := by
  obtain ⟨outcome, w₁, first, later, inserting, rest, rfl⟩ := of_bind h
  cases outcome with
  | error e =>
    obtain ⟨rfl, rfl, idle⟩ := of_pure rest
    exact .inl ⟨e, rfl, by simpa using inserting.idles idle⟩
  | ok u =>
    obtain ⟨r', w₂, later, asked, goOn, rfl⟩ := of_find rest
    refine .inr ⟨w₁, first, inserting, ?_⟩
    cases r' with
    | error e =>
      obtain ⟨rfl, rfl, idle⟩ := of_pure (a := Except.error e) goOn
      exact .inl ⟨e, rfl, asked.idles idle, rfl⟩
    | ok assigned =>
      obtain ⟨u, w₃, learnt, last, learns, ends, rfl⟩ := of_bind (p := book.learnAll assigned) goOn
      obtain ⟨rfl, rfl, idle⟩ := of_pure ends
      obtain rfl := of_learnAll learns
      exact .inr ⟨assigned, w₂, rfl, asked, learns.idles idle, by rw [List.append_nil]⟩

/-- **A call takes its course.** -/
theorem course {r : Except Storage.Error SolveSummary} (h : (book.solve settings addresses).Lives E w told w' r) :
    ∃ (entries : AddressIds) (w₁ : σ) (later : List Telling), E.Turn w (.book book .entries) entries w₁ ∧
      told = ⟨.book book .entries, entries⟩ :: later ∧
      book.Course E settings (wanted addresses) (without entries (wanted addresses)) w₁ later w' r := by
  obtain ⟨(entries : AddressIds), w₁, first, later, look, rest, rfl⟩ := of_bind h
  obtain ⟨rfl, turn⟩ := of_query look
  refine ⟨entries, w₁, later, turn, rfl, ?_⟩
  let unknown := without entries (wanted addresses)
  change (if unknown.isEmpty then _ else _ : Strand _).Lives E w₁ later w' r at rest
  by_cases none : unknown = []
  · rw [if_pos (by rw [none]; rfl)] at rest
    obtain ⟨rfl, rfl, idle⟩ := of_pure rest
    exact .known none idle
  rw [if_neg (by simpa using none)] at rest
  obtain ⟨r', w₂, later, asked, goOn, rfl⟩ := of_find rest
  cases r' with
  | error e =>
    obtain ⟨rfl, rfl, idle⟩ := of_pure (a := Except.error e) goOn
    exact .unanswered none (asked.idles idle)
  | ok found =>
    obtain ⟨u, w₃, learnt, last, learns, ends, rfl⟩ := of_bind (p := book.learnAll found) goOn
    obtain rfl := of_learnAll learns
    change (if (without found unknown).isEmpty then _ else _ : Strand _).Lives E w₃ last w' r at ends
    by_cases all : without found unknown = []
    · rw [if_pos (by rw [all]; rfl)] at ends
      obtain ⟨rfl, rfl, idle⟩ := of_pure ends
      rw [List.append_nil]
      exact .recovered none asked (learns.idles idle) all
    · rw [if_neg (by simpa using all)] at ends
      rcases of_solveMissing ends with ⟨e, rfl, inserting⟩ | ⟨w₄, first, inserting, ⟨e, rfl, asked', rfl⟩ |
        ⟨assigned, w₅, rfl, asked', learns', rfl⟩⟩
      · exact .refused none asked learns all inserting
      · rw [← List.cons_append, ← List.append_assoc]
        exact .unread none asked learns all inserting asked'
      · rw [← List.cons_append, ← List.append_assoc]
        exact .solved none asked learns all inserting asked' learns'

/-! ### Inserting -/

/-- Attempts to insert addresses together: some fail, and the last that is made succeeds or is the last one allowed. -/
theorem of_attempts {p : Retry.Params} {space : AddressSpace} {more : Nat} {n : UInt32}
    {o : Retry.Outcome Storage.Error Unit}
    (h : (Retry.attemptFrom Strand.sleep p (fun _ => true) (fun _ => Strand.call (.insertAddresses space missing)) more
      n).Lives E w told w' o) :
    ∃ errors : List Storage.Error,
      (o = .success () ∧ errors.length ≤ more ∧
        repliesIn told = errors.map (fun e => insertion space missing (.error e)) ++ [insertion space missing (.ok ())]) ∨
      ∃ last n', o = .failure last n' ∧ errors.length = more ∧
        repliesIn told = (errors ++ [last]).map fun e => insertion space missing (.error e) := by
  -- `more` attempts may follow the next one
  induction more generalizing n w told with
  | zero =>
    obtain ⟨r, w₁, first, later, one, goOn, rfl⟩ := of_bind h
    obtain ⟨rfl, -⟩ := of_query one
    cases r with
    | ok u =>
      obtain ⟨rfl, rfl, -⟩ := of_pure (a := Retry.Outcome.success u) goOn
      exact ⟨[], .inl ⟨rfl, Nat.le_refl 0, rfl⟩⟩
    | error e =>
      obtain ⟨rfl, rfl, -⟩ := of_pure (a := Retry.Outcome.failure e n) goOn
      exact ⟨[], .inr ⟨e, n, rfl, rfl, rfl⟩⟩
  | succ more ih =>
    obtain ⟨r, w₁, first, later, one, goOn, rfl⟩ := of_bind h
    obtain ⟨rfl, -⟩ := of_query one
    cases r with
    | ok u =>
      obtain ⟨rfl, rfl, -⟩ := of_pure (a := Retry.Outcome.success u) goOn
      exact ⟨[], .inl ⟨rfl, Nat.zero_le _, rfl⟩⟩
    | error e =>
      obtain ⟨_, w₂, slept, rest, sleep, again, rfl⟩ := of_bind (p := Strand.sleep (p.delayAfter n)) goOn
      obtain ⟨rfl, -⟩ := of_query sleep
      have failed : repliesIn ([⟨.call (.insertAddresses space missing), .error e⟩] ++
          ([⟨.sleep (p.delayAfter n), ()⟩] ++ rest)) = insertion space missing (.error e) :: repliesIn rest := rfl
      rw [failed]
      obtain ⟨errors, ⟨rfl, few, same⟩ | ⟨last, n', rfl, all, same⟩⟩ := ih again
      · exact ⟨e :: errors, .inl ⟨rfl, Nat.succ_le_succ few, by rw [same]; rfl⟩⟩
      · exact ⟨e :: errors, .inr ⟨last, n', rfl, congrArg Nat.succ all, by rw [same]; rfl⟩⟩

/-- Every address is inserted by itself, in their order. -/
theorem of_singles {space : AddressSpace} {u : PUnit}
    (h : (forIn missing PUnit.unit fun a _ => do
      let _ ← Strand.call (.insertAddresses space [a])
      pure (.yield PUnit.unit) : Strand PUnit).Lives E w told w' u) :
    ∃ outcomes : List (Except Storage.Error Unit), outcomes.length = missing.length ∧
      repliesIn told = List.zipWith (fun a r => insertion space [a] r) missing outcomes := by
  induction missing generalizing w told with
  | nil =>
    obtain ⟨rfl, -, -⟩ := of_pure h
    exact ⟨[], rfl, rfl⟩
  | cons a missing ih =>
    rw [List.forIn_cons] at h
    obtain ⟨step, w₁, first, later, one, goOn, rfl⟩ := of_bind h
    obtain ⟨r, w₂, asked, nothing, single, done, rfl⟩ := of_bind one
    obtain ⟨rfl, -⟩ := of_query single
    obtain ⟨rfl, rfl, -⟩ := of_pure done
    obtain ⟨outcomes, each, same⟩ := ih goOn
    exact ⟨r :: outcomes, congrArg Nat.succ each, congrArg (insertion space [a] r :: ·) same⟩

theorem inserting {r : Except Storage.Error Unit} (h : (book.insertMissing settings missing).Lives E w told w' r) :
    Inserting book.space settings missing (repliesIn told) r := by
  obtain ⟨o, w₁, first, later, attempts, goOn, rfl⟩ := of_bind h
  have most := settings.toNat_attempts
  have positive := settings.most_pos
  rw [repliesIn_append]
  obtain ⟨errors, ⟨rfl, few, same⟩ | ⟨last, n', rfl, all, same⟩⟩ := of_attempts attempts
  · obtain ⟨rfl, rfl, -⟩ := of_pure (a := Except.ok ()) goOn
    rw [same, show repliesIn [] = [] from rfl, List.append_nil]
    exact .together (by omega)
  · change (if settings.oneByOne = true then _ else _ : Strand _).Lives E w₁ later w' r at goOn
    by_cases single : settings.oneByOne = true
    · rw [if_pos single] at goOn
      obtain ⟨_, w₂, singles, nothing, each, done, rfl⟩ := of_bind goOn
      obtain ⟨rfl, rfl, -⟩ := of_pure done
      obtain ⟨outcomes, length, same'⟩ := of_singles each
      rw [same, List.append_nil, same']
      exact .singly (by rw [List.length_append, List.length_singleton]; omega) single length
    · rw [if_neg single] at goOn
      obtain ⟨rfl, rfl, -⟩ := of_pure goOn
      rw [same, show repliesIn [] = [] from rfl, List.append_nil]
      exact .given_up (by omega) (by simpa using single)

end Strand.Lives

/-- **The replies of storage** are those that the course calls for. -/
theorem BookRef.Course.solving {wanted unknown : List String} {r : Except Storage.Error SolveSummary}
    (course : book.Course E settings wanted unknown w told w' r) :
    Solving book.space settings unknown (repliesIn told) (r.map fun _ => ()) := by
  cases course with
  | known none idle => exact .known none
  | unanswered some asked => exact .unanswered some
  | recovered some asked learnt none =>
    rw [repliesIn_looking, repliesIn_learning]
    exact .recovered some none
  | refused some asked learnt left inserting =>
    rw [List.cons_append, repliesIn_looking, repliesIn_append, repliesIn_learning]
    exact .refused left inserting.inserting
  | unread some asked learnt left inserting asked' =>
    rw [List.cons_append, List.cons_append, repliesIn_looking, repliesIn_append, repliesIn_append, repliesIn_learning,
      List.nil_append, repliesIn_looking]
    exact .unread left inserting.inserting
  | solved some asked learnt left inserting asked' learnt' =>
    rw [List.cons_append, List.cons_append, repliesIn_looking, repliesIn_append, repliesIn_append, repliesIn_learning,
      List.nil_append, repliesIn_looking, repliesIn_learning]
    exact .solved left inserting.inserting

/-! ## What a solver asks -/

/-- Looks into books, entries into them, calls to storage and sleep: what is put as a whole and takes nothing away. -/
def Query.isAdding : Query → Bool
  | .insertAll _ | .book _ .clear => false
  | _ => true

namespace Strand.Asks

variable {P : Query → Prop}

theorem learnAll {ids : AddressIds} (may : ∀ a id, P (.book book (.learn a id))) : (book.learnAll ids).Asks P := by
  rw [BookRef.learnAll]
  generalize ids.toList = entries
  induction entries with
  | nil => trivial
  | cons entry entries ih =>
    change (Strand.book book (.learn entry.1 entry.2) >>= fun _ => entries.forM _).Asks P
    exact (query (may _ _)).bind fun _ => ih

theorem attempts {ε α : Type} {p : Retry.Params} {retryable : ε → Bool} {act : UInt32 → Strand (Except ε α)}
    (sleep : ∀ d, P (.sleep d)) (attempt : ∀ n, (act n).Asks P) (more : Nat) (n : UInt32) :
    (Retry.attemptFrom Strand.sleep p retryable act more n).Asks P := by
  induction more generalizing n with
  | zero =>
    refine (attempt n).bind fun r => ?_
    cases r <;> trivial
  | succ more ih =>
    refine (attempt n).bind fun r => ?_
    cases r with
    | ok value => trivial
    | error e =>
      by_cases again : retryable e = true
      · simp only [again, if_true]
        exact (query (sleep _)).bind fun _ => ih (n + 1)
      · simp only [again, Bool.false_eq_true, if_false]
        trivial

theorem singles {space : AddressSpace} (may : ∀ a, P (.call (.insertAddresses space [a]))) :
    (forIn missing PUnit.unit fun a _ => do
      let _ ← Strand.call (.insertAddresses space [a])
      pure (.yield PUnit.unit) : Strand PUnit).Asks P := by
  induction missing with
  | nil => trivial
  | cons a missing ih =>
    rw [List.forIn_cons]
    have single : (do
        let _ ← Strand.call (.insertAddresses space [a])
        pure (.yield PUnit.unit) : Strand (ForInStep PUnit)).Asks P := (query (may a)).bind fun _ => trivial
    refine single.bind fun step => ?_
    cases step with
    | done u => trivial
    | yield u => exact ih

theorem insertMissing (insert : ∀ asked, P (.call (.insertAddresses book.space asked))) (sleep : ∀ d, P (.sleep d)) :
    (book.insertMissing settings missing).Asks P := by
  refine (attempts sleep (fun _ => query (insert missing)) _ _).bind fun o => ?_
  cases o with
  | success u => trivial
  | failure e n =>
    by_cases single : settings.oneByOne = true
    · simp only [single, if_true]
      exact (singles fun a => insert [a]).bind fun _ => trivial
    · simp only [single, Bool.false_eq_true, if_false]
      trivial

/-- A solver looks into its book and enters ids, looks up and inserts addresses, and sleeps. -/
theorem solving (look : P (.book book .entries)) (ask : ∀ asked, P (.call (.find book.space asked)))
    (insert : ∀ asked, P (.call (.insertAddresses book.space asked))) (enter : ∀ a id, P (.book book (.learn a id)))
    (sleep : ∀ d, P (.sleep d)) : (book.solve settings addresses).Asks P := by
  have find (asked : List String) : (Strand.call (.find book.space asked)).Asks P := query (ask asked)
  have learn (ids : AddressIds) : (book.learnAll ids).Asks P := learnAll enter
  have solveMissing (summary : SolveSummary) (missing : List String) :
      (book.solveMissing settings summary missing).Asks P := by
    refine (insertMissing insert sleep).bind fun r => ?_
    cases r with
    | error e => trivial
    | ok u =>
      refine (find missing).bind fun r => ?_
      cases r with
      | error e => trivial
      | ok assigned => exact (learn assigned).bind fun _ => trivial
  refine (query look).bind fun entries => ?_
  dsimp only
  split
  · trivial
  · refine (find _).bind fun r => ?_
    cases r with
    | error e => trivial
    | ok found =>
      refine (learn found).bind fun _ => ?_
      split
      · trivial
      · exact solveMissing _ _

/-- A solver takes nothing away. -/
theorem solve : (book.solve settings addresses).Asks fun q => q.isAdding :=
  solving rfl (fun _ => rfl) (fun _ => rfl) (fun _ _ => rfl) fun _ => rfl

end Strand.Asks

/-- The look into the book is no reply of storage. -/
theorem replies_look {entries : AddressIds} {b : β} :
    replies (shown (⟨.book book .entries, entries⟩ :: told) b) = repliesIn told := replies_shown

/-- **A run of a solver** is a look into the book and its course. -/
theorem Running.Completes.course {es : List Event} {r : Except Storage.Error SolveSummary}
    (h : Completes E (.alone (book.solve settings addresses)) w es w' r) :
    ∃ (entries : AddressIds) (w₁ : σ) (told : List Telling),
      (book.solve settings addresses).Lives E w (⟨.book book .entries, entries⟩ :: told) w' r ∧
      es = shown (⟨.book book .entries, entries⟩ :: told) r ∧
      (∀ t ∈ (⟨.book book .entries, entries⟩ :: told : List Telling), t.1.isAdding) ∧
      E.Turn w (.book book .entries) entries w₁ ∧
      book.Course E settings (wanted addresses) (without entries (wanted addresses)) w₁ told w' r := by
  have plain (q : Query) (adding : q.isAdding = true) : q.isPlain = true := by
    cases q <;> simp [Query.isAdding, Query.isPlain] at adding ⊢
  obtain ⟨told, lives, shows⟩ := Completes.lived (Strand.Asks.solve.mono plain) h
  have adding := lives.asks Strand.Asks.solve
  obtain ⟨entries, w₁, later, look, rfl, course⟩ := lives.course
  exact ⟨entries, w₁, later, lives, shows, adding, look, course⟩

end ChainIndex
