import ChainIndex.Proofs.Running.Task

/-!
# Runs of plans

A plan on its way is at a *stage*: some tasks side by side, what those gave that are over, and the plan
that follows once all are. `Steps` are the runs, finished or not, with everything that could be seen of
them. Nothing is said of the order in which tasks step, so whatever holds of every run holds of every
schedule.

**Runs in sequence** (`steps_bind`). A run of `p` and then `f` is a run of `p` that has not ended, or a
run of `p` to its end followed by a run of `f`. So what is seen of the second is seen after all that is
seen of the first.

**Runs end** (`exists_completion`). In a world that always has an answer, every run can be gone on with
to the end of the plan.
-/

namespace ChainIndex.Running

/-- A plan on its way. -/
inductive Stage (α : Type) : Type 1 where
  | done (a : α)
  | going {β : Type} (tasks : List (Task β)) (results : List (Nat × β)) (next : List (Nat × β) → Plan α)

variable {σ α β : Type}

/-- Where a plan begins. A strand alone is a single task. -/
def start : Plan α → Stage α
  | .done a => .done a
  | .run strand next =>
    .going [.ready strand] [] fun results =>
      match results with
      | (_, b) :: _ => next b
      | [] => .run strand next
  | .fork strands next => .going (strands.map .ready) [] next

namespace Stage

def isDone : Stage α → Bool
  | .done _ => true
  | .going .. => false

/-- Goes on with what the stage leads to. -/
def bind : Stage α → (α → Plan β) → Stage β
  | .done a, f => start (f a)
  | .going tasks results next, f => .going tasks results fun rs => (next rs).bind f

/-- A step of a plan, with what can be seen of it. -/
inductive Step (E : Environment σ) : σ → Stage α → List Event → σ → Stage α → Prop where
  | task {β : Type} {w w' : σ} {tasks : List (Task β)} {results : List (Nat × β)} {next : List (Nat × β) → Plan α}
      {i : Nat} {t t' : Task β} {es : List Event} (at_ : tasks[i]? = some t) (step : t.Step E i w es w' t') :
      Step E w (.going tasks results next) es w' (.going (tasks.set i t') results next)
  | finish {β : Type} {w : σ} {tasks : List (Task β)} {results : List (Nat × β)} {next : List (Nat × β) → Plan α}
      {i : Nat} {b : β} (at_ : tasks[i]? = some (.ready (.done b))) :
      Step E w (.going tasks results next) [.ended i b] w (.going (tasks.set i .finished) (results ++ [(i, b)]) next)
  | join {β : Type} {w : σ} {tasks : List (Task β)} {results : List (Nat × β)} {next : List (Nat × β) → Plan α}
      (finished : ∀ t ∈ tasks, t = .finished) :
      Step E w (.going tasks results next) [] w (start (next results))
  | others {w w' : σ} {s : Stage α} (others : E.others w w') : Step E w s [] w' s

end Stage

/-- A run, with all that can be seen of it. -/
inductive Steps (E : Environment σ) : σ → Stage α → List Event → σ → Stage α → Prop where
  | refl (w : σ) (s : Stage α) : Steps E w s [] w s
  | head {w w' w'' : σ} {s s' s'' : Stage α} {es es' : List Event} (step : Stage.Step E w s es w' s')
      (later : Steps E w' s' es' w'' s'') : Steps E w s (es ++ es') w'' s''

/-- A run of a plan to its end. -/
def Completes (E : Environment σ) (p : Plan α) (w : σ) (es : List Event) (w' : σ) (a : α) : Prop :=
  Steps E w (start p) es w' (.done a)

variable {E : Environment σ}

theorem Steps.single {w w' : σ} {s s' : Stage α} {es : List Event} (h : Stage.Step E w s es w' s') :
    Steps E w s es w' s' := by
  simpa using Steps.head h (.refl w' s')

theorem Steps.trans {w w' w'' : σ} {s s' s'' : Stage α} {es es' : List Event} (h : Steps E w s es w' s')
    (h' : Steps E w' s' es' w'' s'') : Steps E w s (es ++ es') w'' s'' := by
  induction h with
  | refl => exact h'
  | head step _ ih =>
    rw [List.append_assoc]
    exact .head step (ih h')

/-! ## Runs in sequence -/

theorem start_bind (p : Plan α) (f : α → Plan β) : start (p.bind f) = (start p).bind f := by
  cases p with
  | done a => rfl
  | run strand next =>
    simp only [Plan.bind, start, Stage.bind]
    congr 1
    funext results
    cases results <;> rfl
  | fork strands next => rfl

/-- A step of a stage that something follows is a step of the stage. -/
theorem Stage.step_bind {w w' : σ} {s : Stage α} {f : α → Plan β} {es : List Event} {c : Stage β}
    (going : s.isDone = false) (h : Stage.Step E w (s.bind f) es w' c) :
    ∃ s', Stage.Step E w s es w' s' ∧ c = s'.bind f := by
  cases s with
  | done a => simp [Stage.isDone] at going
  | going tasks results next =>
    cases h with
    | task at_ step => exact ⟨_, .task at_ step, rfl⟩
    | finish at_ => exact ⟨_, .finish at_, rfl⟩
    | join finished => exact ⟨_, .join finished, start_bind _ _⟩
    | others others => exact ⟨_, .others others, rfl⟩

/-- **Runs in sequence.** What follows a plan begins when the plan is at its end. -/
theorem steps_bind {w w' : σ} {s : Stage α} {f : α → Plan β} {es : List Event} {c : Stage β}
    (h : Steps E w (s.bind f) es w' c) :
    (∃ s', Steps E w s es w' s' ∧ s'.isDone = false ∧ c = s'.bind f) ∨
      ∃ a es₁ es₂ w₁, Steps E w s es₁ w₁ (.done a) ∧ Steps E w₁ (start (f a)) es₂ w' c ∧ es = es₁ ++ es₂ := by
  generalize hb : s.bind f = b at h
  induction h generalizing s with
  | refl w b =>
    subst hb
    cases hs : s.isDone with
    | false => exact .inl ⟨s, .refl w s, hs, rfl⟩
    | true =>
      cases s with
      | done a => exact .inr ⟨a, [], [], w, .refl _ _, .refl _ _, rfl⟩
      | going => simp [Stage.isDone] at hs
  | head step later ih =>
    subst hb
    cases hs : s.isDone with
    | true =>
      cases s with
      | done a => exact .inr ⟨a, [], _, _, .refl _ _, .head step later, rfl⟩
      | going => simp [Stage.isDone] at hs
    | false =>
      obtain ⟨s', step', rfl⟩ := Stage.step_bind hs step
      rcases ih rfl with ⟨s'', run, open_, rfl⟩ | ⟨a, es₁, es₂, w₁, run, rest, rfl⟩
      · exact .inl ⟨s'', .head step' run, open_, rfl⟩
      · exact .inr ⟨a, _, es₂, w₁, .head step' run, rest, by rw [List.append_assoc]⟩

/-- A run of one plan and then another. -/
theorem steps_start_bind {w w' : σ} {p : Plan α} {f : α → Plan β} {es : List Event} {c : Stage β}
    (h : Steps E w (start (p.bind f)) es w' c) :
    (∃ s, Steps E w (start p) es w' s ∧ s.isDone = false ∧ c = s.bind f) ∨
      ∃ a es₁ es₂ w₁, Completes E p w es₁ w₁ a ∧ Steps E w₁ (start (f a)) es₂ w' c ∧ es = es₁ ++ es₂ := by
  rw [start_bind] at h
  exact steps_bind h

/-- A plan at its end only lets others act. -/
theorem steps_done {w w' : σ} {a : α} {es : List Event} {c : Stage α} (h : Steps E w (.done a) es w' c) :
    es = [] ∧ c = .done a := by
  generalize hs : Stage.done a = s at h
  induction h with
  | refl =>
    subst hs
    exact ⟨rfl, rfl⟩
  | head step later ih =>
    subst hs
    cases step with
    | others others => simpa using ih rfl

theorem Stage.isDone_bind {s : Stage α} (going : s.isDone = false) (f : α → Plan β) :
    (s.bind f).isDone = false := by
  cases s with
  | done a => simp [isDone] at going
  | going tasks results next => rfl

theorem Stage.bind_ne_done {s : Stage α} (going : s.isDone = false) {f : α → Plan β} {b : β} :
    s.bind f ≠ .done b := by
  intro same
  have := isDone_bind going f
  simp [same, isDone] at this

/-- At its end a plan waits for others, whatever it gave. -/
theorem steps_done_of_done {a : α} {es : List Event} {c : Stage α} (h : Steps E w (.done a) es w' c)
    (b : β) : Steps E w (.done b) [] w' (.done b) := by
  generalize begin_ : Stage.done a = s at h
  induction h with
  | refl w s => exact .refl w _
  | head step later ih =>
    subst begin_
    cases step with
    | others others => exact .head (.others others) (ih rfl)

/-- A run of a plan whose result is only looked at is a run of the plan. -/
theorem steps_start_bind_pure {p : Plan α} {f : α → Plan β} {g : α → β} {es : List Event} {c : Stage β}
    (pure_ : ∀ a, f a = .done (g a)) (h : Steps E w (start (p.bind f)) es w' c) :
    ∃ s, Steps E w (start p) es w' s ∧ c.isDone = s.isDone ∧ ∀ {b}, c = .done b → ∃ a, s = .done a ∧ b = g a := by
  rcases steps_start_bind h with ⟨s, run, going, rfl⟩ | ⟨a, es₁, es₂, w₁, run, rest, rfl⟩
  · exact ⟨s, run, going ▸ Stage.isDone_bind going f, fun same => absurd same (Stage.bind_ne_done going)⟩
  · rw [pure_] at rest
    have idle := steps_done_of_done rest a
    obtain ⟨rfl, rfl⟩ := steps_done rest
    refine ⟨.done a, run.trans idle, rfl, fun same => ?_⟩
    exact ⟨a, rfl, (Stage.done.inj same).symm⟩

/-- One plan and then another come to their end one after the other. -/
theorem Completes.of_bind {w w' : σ} {p : Plan α} {f : α → Plan β} {es : List Event} {b : β}
    (h : Completes E (p >>= f) w es w' b) :
    ∃ a es₁ es₂ w₁, Completes E p w es₁ w₁ a ∧ Completes E (f a) w₁ es₂ w' b ∧ es = es₁ ++ es₂ := by
  rcases steps_start_bind h with ⟨s, -, going, same⟩ | ended
  · exact absurd same.symm (Stage.bind_ne_done going)
  · exact ended

theorem Completes.of_pure {w w' : σ} {a b : α} {es : List Event} (h : Completes E (pure a) w es w' b) :
    es = [] ∧ b = a := by
  obtain ⟨rfl, same⟩ := steps_done h
  exact ⟨rfl, Stage.done.inj same⟩

/-! ## Runs end -/

/-- A world that always has an answer. -/
def Environment.Answering (E : Environment σ) : Prop :=
  ∀ (w : σ) (q : Query), ∃ a w', E.answers w q a w'

def Part.isStored (p : Part) : Bool :=
  match p.progress with
  | .stored _ => true
  | _ => false

@[simp] theorem Part.isStored_waiting (b : Storage.Batch) : (Part.mk b .waiting).isStored = false := rfl

@[simp] theorem Part.isStored_begun (b : Storage.Batch) : (Part.mk b .begun).isStored = false := rfl

@[simp] theorem Part.isStored_stored (b : Storage.Batch) (n : UInt64) : (Part.mk b (.stored n)).isStored := rfl

theorem Part.stored_of_isStored {p : Part} (h : p.isStored) : ∃ n, p.progress = .stored n := by
  obtain ⟨batch, progress⟩ := p
  cases progress with
  | waiting => simp at h
  | begun => simp at h
  | stored n => exact ⟨n, rfl⟩

theorem getElem?_set_of_some {γ : Type} {as : List γ} {i : Nat} {a b : γ} (h : as[i]? = some a) :
    (as.set i b)[i]? = some b :=
  List.getElem?_set_self (List.getElem?_eq_some_iff.1 h).1

theorem set_of_some {γ : Type} {as : List γ} {i : Nat} {a : γ} (h : as[i]? = some a) : as.set i a = as := by
  obtain ⟨bound, rfl⟩ := List.getElem?_eq_some_iff.1 h
  exact List.set_getElem_self bound

theorem countP_set_add {γ : Type} {as : List γ} {i : Nat} {a : γ} (h : as[i]? = some a) (b : γ) (f : γ → Bool) :
    (as.set i b).countP f + (f a).toNat = as.countP f + (f b).toNat := by
  induction as generalizing i with
  | nil => simp at h
  | cons c as ih =>
    cases i with
    | zero =>
      obtain rfl : c = a := by simpa using h
      cases hc : f c <;> cases hb : f b <;> simp [hc, hb]
    | succ i =>
      have := ih (i := i) (by simpa using h)
      simp only [List.set_cons_succ, List.countP_cons]
      omega

/-- A run of a task alone. -/
inductive Task.Steps (E : Environment σ) (i : Nat) : σ → Task β → List Event → σ → Task β → Prop where
  | refl (w : σ) (t : Task β) : Steps E i w t [] w t
  | head {w w' w'' : σ} {t t' t'' : Task β} {es es' : List Event} (step : t.Step E i w es w' t')
      (later : Steps E i w' t' es' w'' t'') : Steps E i w t (es ++ es') w'' t''

namespace Task.Steps

variable {i : Nat} {w w' w'' : σ} {t t' t'' : Task β} {es es' : List Event}

theorem single (h : t.Step E i w es w' t') : Steps E i w t es w' t' := by
  simpa using head h (.refl w' t')

theorem trans (h : Steps E i w t es w' t') (h' : Steps E i w' t' es' w'' t'') : Steps E i w t (es ++ es') w'' t'' := by
  induction h with
  | refl => exact h'
  | head step _ ih =>
    rw [List.append_assoc]
    exact .head step (ih h')

/-- Others may rest while one task goes on. -/
theorem lift {tasks : List (Task β)} {results : List (Nat × β)} {next : List (Nat × β) → Plan α}
    (at_ : tasks[i]? = some t) (h : Steps E i w t es w' t') :
    Running.Steps E w (.going tasks results next) es w' (.going (tasks.set i t') results next) := by
  induction h generalizing tasks with
  | refl w t => rw [set_of_some at_]; exact .refl _ _
  | head step _ ih =>
    have rest := ih (getElem?_set_of_some at_)
    rw [List.set_set] at rest
    exact .head (.task at_ step) rest

end Task.Steps

section Ends

variable {i : Nat}

/-- A batch that is not stored can be begun, if it is not yet. -/
theorem exists_begun {w : σ} {parts : List Part} (next : Except Storage.Error UInt64 → Strand β) {k : Nat} {p : Part}
    (found : parts[k]? = some p) (left : p.isStored = false) :
    ∃ parts' es, Task.Steps E i w (.storing parts next) es w (.storing parts' next) ∧
      parts'[k]? = some ⟨p.batch, .begun⟩ ∧ parts'.countP (!·.isStored) = parts.countP (!·.isStored) := by
  obtain ⟨batch, progress⟩ := p
  cases progress with
  | waiting =>
    refine ⟨_, _, .single (.begin found), getElem?_set_of_some found, ?_⟩
    simpa using countP_set_add found ⟨batch, .begun⟩ (!·.isStored)
  | begun => exact ⟨parts, [], .refl _ _, found, rfl⟩
  | stored n => simp at left

/-- The number of batches that are not stored falls until all are, or one fails. -/
theorem exists_stored (answering : E.Answering) (w : σ) (parts : List Part)
    (next : Except Storage.Error UInt64 → Strand β) :
    ∃ es w' r, Task.Steps E i w (.storing parts next) es w' (.ready (next r)) := by
  induction hn : parts.countP (!·.isStored) using Nat.strongRecOn generalizing w parts with
  | _ n ih =>
  by_cases all : ∀ p ∈ parts, p.isStored
  · exact ⟨_, w, _, .single (.join fun p member => Part.stored_of_isStored (all p member))⟩
  · obtain ⟨p, member, left⟩ : ∃ p ∈ parts, p.isStored = false := by simpa using all
    obtain ⟨k, found⟩ := List.getElem?_of_mem member
    obtain ⟨parts', es, toBegun, begun, count⟩ := exists_begun (E := E) (i := i) (w := w) next found left
    obtain ⟨a, w', answers⟩ : ∃ (a : Except Storage.Error UInt64) (w' : σ),
        E.answers w (.call (.insert p.batch)) a w' := answering w (.call (.insert p.batch))
    cases a with
    | error e => exact ⟨_, w', .error e, toBegun.trans (.single (.fail begun answers))⟩
    | ok rows =>
      have fewer : (parts'.set k ⟨p.batch, .stored rows⟩).countP (!·.isStored) < n := by
        have := countP_set_add begun ⟨p.batch, .stored rows⟩ (!·.isStored)
        simp only [Part.isStored_begun, Part.isStored_stored, Bool.not_false, Bool.not_true, Bool.toNat_true,
          Bool.toNat_false] at this
        omega
      obtain ⟨es', w'', r, rest⟩ := ih _ fewer w' _ rfl
      exact ⟨_, w'', r, toBegun.trans (.head (.store begun answers) rest)⟩

/-- A strand can be gone on with to its end. -/
theorem exists_finished (answering : E.Answering) (w : σ) (s : Strand β) :
    ∃ es w' b, Task.Steps E i w (.ready s) es w' (.ready (.done b)) := by
  induction s generalizing w with
  | done b => exact ⟨[], w, b, .refl _ _⟩
  | ask q next ih =>
    by_cases plain : q.isPlain
    · obtain ⟨a, w₁, answers⟩ := answering w q
      obtain ⟨es, w', b, rest⟩ := ih a w₁
      exact ⟨_, w', b, .head (.ask plain) (.head (.answer answers) rest)⟩
    · cases q with
      | insertAll batches =>
        obtain ⟨es, w₁, r, stored⟩ := exists_stored (i := i) answering w (batches.map (⟨·, .waiting⟩)) next
        obtain ⟨es', w', b, rest⟩ := ih r w₁
        exact ⟨_, w', b, .head .part (stored.trans rest)⟩
      | _ => exact absurd rfl plain

/-- A task that is not over can be gone on with to its end. -/
theorem exists_ended (answering : E.Answering) (w : σ) {t : Task β} (going : t ≠ .finished) :
    ∃ es w' b, Task.Steps E i w t es w' (.ready (.done b)) := by
  cases t with
  | ready s => exact exists_finished answering w s
  | asking q next =>
    obtain ⟨a, w₁, answers⟩ := answering w q
    obtain ⟨es, w', b, rest⟩ := exists_finished (i := i) answering w₁ (next a)
    exact ⟨_, w', b, .head (.answer answers) rest⟩
  | storing parts next =>
    obtain ⟨es, w₁, r, stored⟩ := exists_stored (i := i) answering w parts next
    obtain ⟨es', w', b, rest⟩ := exists_finished (i := i) answering w₁ (next r)
    exact ⟨_, w', b, stored.trans rest⟩
  | finished => exact absurd rfl going

end Ends

def Task.isFinished : Task β → Bool
  | .finished => true
  | _ => false

@[simp] theorem Task.isFinished_finished : (Task.finished : Task β).isFinished := rfl

theorem Task.eq_finished_of_isFinished {t : Task β} (h : t.isFinished) : t = .finished := by
  cases t with
  | finished => rfl
  | _ => simp [isFinished] at h

/-- The tasks can be gone on with to their ends, one after another. -/
theorem exists_all_finished (answering : E.Answering) (w : σ) (tasks : List (Task β)) (results : List (Nat × β))
    (next : List (Nat × β) → Plan α) :
    ∃ es w' tasks' results', Steps E w (.going tasks results next) es w' (.going tasks' results' next) ∧
      (∀ t ∈ tasks', t = .finished) ∧ (results' = results ∧ tasks' = tasks ∨ results' ≠ []) := by
  induction hn : tasks.countP (!·.isFinished) using Nat.strongRecOn generalizing w tasks results with
  | _ n ih =>
  by_cases all : ∀ t ∈ tasks, t.isFinished
  · have finished : ∀ t ∈ tasks, t = .finished := fun t member => Task.eq_finished_of_isFinished (all t member)
    exact ⟨[], w, tasks, results, .refl _ _, finished, .inl ⟨rfl, rfl⟩⟩
  · obtain ⟨t, member, going⟩ : ∃ t ∈ tasks, t.isFinished = false := by simpa using all
    obtain ⟨i, at_⟩ := List.getElem?_of_mem member
    obtain ⟨es, w₁, b, run⟩ := exists_ended (E := E) (i := i) answering w (t := t) fun h => by
      rw [h] at going
      simp at going
    have ended : Steps E w (.going tasks results next) (es ++ [.ended i b]) w₁
        (.going (tasks.set i .finished) (results ++ [(i, b)]) next) := by
      have finished : Steps E w₁ (.going (tasks.set i (.ready (.done b))) results next) [.ended i b] w₁
          (.going ((tasks.set i (.ready (.done b))).set i .finished) (results ++ [(i, b)]) next) :=
        .single (.finish (getElem?_set_of_some at_))
      rw [List.set_set] at finished
      exact (run.lift at_).trans finished
    have fewer : (tasks.set i .finished).countP (!·.isFinished) < n := by
      have := countP_set_add at_ .finished (!·.isFinished)
      simp only [going, Task.isFinished_finished, Bool.not_false, Bool.not_true, Bool.toNat_true,
        Bool.toNat_false] at this
      omega
    obtain ⟨es', w', tasks', results', rest, finished, given⟩ := ih _ fewer w₁ _ (results ++ [(i, b)]) rfl
    refine ⟨_, w', tasks', results', ended.trans rest, finished, .inr ?_⟩
    rcases given with ⟨rfl, -⟩ | given
    · simp
    · exact given

/-- Every plan can be run to its end. -/
theorem exists_completes (answering : E.Answering) (p : Plan α) (w : σ) : ∃ es w' a, Completes E p w es w' a := by
  induction p generalizing w with
  | done a => exact ⟨[], w, a, .refl _ _⟩
  | run strand next ih =>
    obtain ⟨es, w₁, tasks, results, run, finished, given⟩ := exists_all_finished (E := E) answering w [.ready strand] []
      fun results =>
        match results with
        | (_, b) :: _ => next b
        | [] => .run strand next
    match results, given with
    | [], .inl given => simp [given.2] at finished
    | [], .inr given => exact absurd rfl given
    | (_, b) :: _, _ =>
      obtain ⟨es', w', a, rest⟩ := ih b w₁
      exact ⟨_, w', a, run.trans (.head (.join finished) rest)⟩
  | fork strands next ih =>
    obtain ⟨es, w₁, tasks, results, run, finished, -⟩ :=
      exists_all_finished (E := E) answering w (strands.map .ready) [] next
    obtain ⟨es', w', a, rest⟩ := ih results w₁
    exact ⟨_, w', a, run.trans (.head (.join finished) rest)⟩

/-- **Runs end.** Every run can be gone on with to the end of the plan. -/
theorem exists_completion (answering : E.Answering) (w : σ) (s : Stage α) :
    ∃ es w' a, Steps E w s es w' (.done a) := by
  cases s with
  | done a => exact ⟨[], w, a, .refl _ _⟩
  | going tasks results next =>
    obtain ⟨es, w₁, tasks', results', run, finished, -⟩ := exists_all_finished answering w tasks results next
    obtain ⟨es', w', a, rest⟩ := exists_completes answering (next results') w₁
    exact ⟨_, w', a, run.trans (.head (.join finished) rest)⟩

end ChainIndex.Running
