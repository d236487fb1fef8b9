import ChainIndex.Proofs.Running.Stage

/-!
# Fleets

A fleet is an open set of plans: at any time another caller may begin one, and nobody waits for anyone. A caller's plan
runs as it would alone, with its strands side by side, and the steps of all callers come in any order. The world gets to
know at which *place* a step is taken, so it can tell the strands of all callers apart.

**To each caller it looks as if it ran alone** (`Fleet.Reaches.seen`), in a world in which others may do anything
between its steps. So whatever holds of every run of a plan in every world holds of every caller of a fleet.
-/

namespace ChainIndex.Running

/-- Where a strand runs: among which caller's strands, and as which of them. -/
@[ext] structure Place where
  caller : Nat
  strand : Nat
  deriving DecidableEq, Repr

/-- A plan and how far it has come, whatever it gives. -/
structure Caller : Type 1 where
  {α : Type}
  plan : Plan α
  stage : Stage α

abbrev Fleet : Type 1 := List Caller

variable {σ α β : Type}

/-- A step of a fleet whose callers run such plans, with what can be seen of it and of which caller. -/
inductive Fleet.Step (E : Place → Environment σ) (Job : (α : Type) → Plan α → Prop) :
    σ → Fleet → List (Nat × Event) → σ → Fleet → Prop where
  | begin {α : Type} {w : σ} {fleet : Fleet} {p : Plan α} (job : Job α p) :
    Step E Job w fleet [] w (fleet ++ [⟨p, start p⟩])
  | task {α β : Type} {w w' : σ} {fleet : Fleet} {p : Plan α} {k i : Nat} {tasks : List (Task β)}
      {results : List (Nat × β)} {next : List (Nat × β) → Plan α} {t t' : Task β} {es : List Event}
      (here : fleet[k]? = some ⟨p, .going tasks results next⟩) (at_ : tasks[i]? = some t)
      (step : t.Step (E ⟨k, i⟩) i w es w' t') :
      Step E Job w fleet (es.map (k, ·)) w' (fleet.set k ⟨p, .going (tasks.set i t') results next⟩)
  | finish {α β : Type} {w : σ} {fleet : Fleet} {p : Plan α} {k i : Nat} {tasks : List (Task β)}
      {results : List (Nat × β)} {next : List (Nat × β) → Plan α} {b : β}
      (here : fleet[k]? = some ⟨p, .going tasks results next⟩) (at_ : tasks[i]? = some (.ready (.done b))) :
      Step E Job w fleet ([.ended i b].map (k, ·)) w
        (fleet.set k ⟨p, .going (tasks.set i .finished) (results ++ [(i, b)]) next⟩)
  | join {α β : Type} {w : σ} {fleet : Fleet} {p : Plan α} {k : Nat} {tasks : List (Task β)}
      {results : List (Nat × β)} {next : List (Nat × β) → Plan α}
      (here : fleet[k]? = some ⟨p, .going tasks results next⟩) (finished : ∀ t ∈ tasks, t = .finished) :
      Step E Job w fleet [] w (fleet.set k ⟨p, start (next results)⟩)
  | others {w w' : σ} {fleet : Fleet} {place : Place} (others : (E place).others w w') : Step E Job w fleet [] w' fleet

/-- What a fleet that nobody belongs to yet can come to, with all that can be seen of it. -/
inductive Fleet.Reaches (E : Place → Environment σ) (Job : (α : Type) → Plan α → Prop) (w₀ : σ) :
    List (Nat × Event) → σ → Fleet → Prop where
  | start : Reaches E Job w₀ [] w₀ []
  | step {es es' : List (Nat × Event)} {w w' : σ} {fleet fleet' : Fleet} (reached : Reaches E Job w₀ es w fleet)
      (step : Fleet.Step E Job w fleet es' w' fleet') : Reaches E Job w₀ (es ++ es') w' fleet'

/-! ## What one caller sees -/

/-- The world as a caller meets it: between its own steps it may change in any way. -/
def amid (E : Place → Environment σ) (k : Nat) : Environment σ where
  answers w q a w' := ∃ i, (E ⟨k, i⟩).answers w q a w'
  works w q w' := ∃ i, (E ⟨k, i⟩).works w q w'
  others _ _ := True

/-- What can be seen of one caller. -/
def eventsOf (k : Nat) (es : List (Nat × Event)) : List Event :=
  es.filterMap fun (caller, event) => if caller = k then some event else none

theorem eventsOf_append (k : Nat) (es es' : List (Nat × Event)) :
    eventsOf k (es ++ es') = eventsOf k es ++ eventsOf k es' := List.filterMap_append

theorem eventsOf_self (k : Nat) (es : List Event) : eventsOf k (es.map (k, ·)) = es := by
  have all : (fun seen : Nat × Event => if seen.1 = k then some seen.2 else none) ∘ (k, ·) = some :=
    funext fun _ => if_pos rfl
  rw [eventsOf, List.filterMap_map, all, List.filterMap_some]

theorem eventsOf_of_ne {j k : Nat} (other : j ≠ k) (es : List Event) : eventsOf k (es.map (j, ·)) = [] := by
  rw [eventsOf, List.filterMap_map]
  exact List.filterMap_eq_nil_iff.2 fun _ _ => if_neg other

/-- A step that a world allows, a world allows that does all the same to the task's questions. -/
theorem Task.Step.mono {E E' : Environment σ} {i : Nat} {w w' : σ} {t t' : Task β} {es : List Event}
    (answers : ∀ {w q a w'}, E.answers w q a w' → E'.answers w q a w')
    (works : ∀ {w q w'}, E.works w q w' → E'.works w q w') (step : t.Step E i w es w' t') : t.Step E' i w es w' t' := by
  cases step with
  | ask plain => exact .ask plain
  | work h => exact .work (works h)
  | answer h => exact .answer (answers h)
  | part => exact .part
  | begin at_ => exact .begin at_
  | workPart at_ h => exact .workPart at_ (works h)
  | store at_ h => exact .store at_ (answers h)
  | fail at_ h => exact .fail at_ (answers h)
  | join stored => exact .join stored

namespace Fleet

variable {E : Place → Environment σ} {Job : (α : Type) → Plan α → Prop} {w₀ w w' : σ} {fleet fleet' : Fleet}
  {es : List (Nat × Event)}

/-- Who is there after one caller went on is that one, or was there before. -/
theorem here_or_there {j k : Nat} {c c₁ c' : Caller} (here : fleet[j]? = some c)
    (there : (fleet.set j c₁)[k]? = some c') : j = k ∧ c' = c₁ ∨ j ≠ k ∧ fleet[k]? = some c' := by
  by_cases same : j = k
  · subst same
    rw [List.getElem?_set_self (List.getElem?_eq_some_iff.1 here).1] at there
    exact .inl ⟨rfl, (Option.some.inj there).symm⟩
  · rw [List.getElem?_set_ne same] at there
    exact .inr ⟨same, there⟩

/-- What a step of a fleet is to one caller: its own step, or something that others do. -/
theorem Step.seen (step : Fleet.Step E Job w fleet es w' fleet') {k : Nat} {c' : Caller}
    (there : fleet'[k]? = some c') :
    (fleet[k]? = none ∧ Job c'.α c'.plan ∧ c'.stage = start c'.plan ∧ eventsOf k es = []) ∨
      ∃ s, fleet[k]? = some ⟨c'.plan, s⟩ ∧ s.Step (amid E k) w (eventsOf k es) w' c'.stage := by
  -- For a caller that does not step itself, the others do.
  have stays : ∀ {es : List (Nat × Event)}, fleet[k]? = some c' → eventsOf k es = [] →
      ∃ s, fleet[k]? = some ⟨c'.plan, s⟩ ∧ s.Step (amid E k) w (eventsOf k es) w' c'.stage := by
    intro es before unseen
    rw [unseen]
    exact ⟨c'.stage, before, .others trivial⟩
  cases step with
  | @begin _ _ _ p job =>
    rcases Nat.lt_trichotomy k fleet.length with inside | rfl | outside
    · rw [List.getElem?_append_left inside] at there
      exact .inr (stays there rfl)
    · rw [List.getElem?_concat_length] at there
      cases there
      exact .inl ⟨List.getElem?_eq_none (Nat.le_refl _), job, rfl, rfl⟩
    · rw [List.getElem?_eq_none (List.length_append ▸ outside)] at there
      cases there
  | @task _ _ _ _ _ p j i tasks results next t t' es here at_ step =>
    rcases here_or_there here there with ⟨rfl, rfl⟩ | ⟨other, before⟩
    · refine .inr ⟨_, here, ?_⟩
      rw [eventsOf_self]
      exact .task at_ (step.mono (fun answers => ⟨i, answers⟩) fun works => ⟨i, works⟩)
    · exact .inr (stays before (eventsOf_of_ne other _))
  | @finish _ _ _ _ p j i tasks results next b here at_ =>
    rcases here_or_there here there with ⟨rfl, rfl⟩ | ⟨other, before⟩
    · refine .inr ⟨_, here, ?_⟩
      rw [eventsOf_self]
      exact .finish at_
    · exact .inr (stays before (eventsOf_of_ne other _))
  | @join _ _ _ _ p j tasks results next here finished =>
    rcases here_or_there here there with ⟨rfl, rfl⟩ | ⟨other, before⟩
    · exact .inr ⟨_, here, .join finished⟩
    · exact .inr (stays before rfl)
  | others others => exact .inr (stays there rfl)

/-- Of who has not begun nothing can be seen. -/
theorem Step.unseen (step : Fleet.Step E Job w fleet es w' fleet') {k : Nat} (absent : fleet'[k]? = none) :
    fleet[k]? = none ∧ eventsOf k es = [] := by
  have other : ∀ {j : Nat} {c c' : Caller}, fleet[j]? = some c → (fleet.set j c')[k]? = none →
      j ≠ k ∧ fleet[k]? = none := by
    intro j c c' here absent
    rw [List.getElem?_eq_none_iff, List.length_set] at absent
    refine ⟨fun same => ?_, List.getElem?_eq_none absent⟩
    exact Nat.not_lt_of_le absent (same ▸ (List.getElem?_eq_some_iff.1 here).1)
  cases step with
  | begin job =>
    rw [List.getElem?_eq_none_iff, List.length_append] at absent
    exact ⟨List.getElem?_eq_none (Nat.le_of_succ_le absent), rfl⟩
  | task here at_ step => exact ⟨(other here absent).2, eventsOf_of_ne (other here absent).1 _⟩
  | finish here at_ => exact ⟨(other here absent).2, eventsOf_of_ne (other here absent).1 _⟩
  | join here finished => exact ⟨(other here absent).2, rfl⟩
  | others others => exact ⟨absent, rfl⟩

theorem Reaches.unseen (run : Fleet.Reaches E Job w₀ es w fleet) {k : Nat} (absent : fleet[k]? = none) :
    eventsOf k es = [] := by
  induction run with
  | start => rfl
  | step _ step ih =>
    obtain ⟨before, unseen⟩ := step.unseen absent
    rw [eventsOf_append, ih before, unseen]
    rfl

/-- **Each caller runs its plan**, in a world in which others may do anything. -/
theorem Reaches.seen (run : Fleet.Reaches E Job w₀ es w fleet) {k : Nat} {c : Caller} (here : fleet[k]? = some c) :
    Job c.α c.plan ∧ ∃ w₁, Running.Steps (amid E k) w₁ (Running.start c.plan) (eventsOf k es) w c.stage := by
  induction run generalizing c with
  | start => cases here
  | @step es es' w w' fleet fleet' reached step ih =>
    rw [eventsOf_append]
    rcases step.seen here with ⟨absent, job, begun, unseen⟩ | ⟨s, before, own⟩
    · rw [reached.unseen absent, unseen, begun]
      exact ⟨job, w', .refl _ _⟩
    · obtain ⟨job, w₁, earlier⟩ := ih before
      exact ⟨job, w₁, earlier.trans (.single own)⟩

end Fleet

end ChainIndex.Running
