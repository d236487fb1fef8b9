import ChainIndex.Proofs.Node.Fetched
import ChainIndex.Proofs.Running.Alone
import Mathlib.Logic.Relation

/-!
# What a strand alone lives through

A strand that runs alone is not alone in the world: while it waits for an answer, others act, and its question may have
been worked on. What it lives through is told with the states of the world: in front of each answer the world drifts,
the answer is given in the state that it has come to, and the strand goes on from the state behind it
(`Strand.Lives`).

**A run of one strand is such a course** (`Completes.lived`): by induction on its steps, where what others do is put
in front of what the task still has to live through. A strand that goes on with another lives through the one and then
the other (`Lives.of_bind`), so courses of programs are read off their text.
-/

namespace ChainIndex

open Running

variable {σ α β : Type} {E E' : Environment σ} {w w' w₁ w₂ : σ} {told : List Telling} {a b : β}

/-! ## Drifting -/

namespace Running.Environment

/-- What others make of the world. -/
def Idles (E : Environment σ) : σ → σ → Prop := Relation.ReflTransGen E.others

/-- What becomes of the world while a question is not answered. -/
def Drifts (E : Environment σ) (q : Query) : σ → σ → Prop :=
  Relation.ReflTransGen fun w w' => E.others w w' ∨ E.works w q w'

/-- A question, all that happens until it is answered, the answer, and what others do then. -/
def Turn (E : Environment σ) (w : σ) (q : Query) (a : q.Answer) (w' : σ) : Prop :=
  ∃ w₁ w₂, E.Drifts q w w₁ ∧ E.answers w₁ q a w₂ ∧ E.Idles w₂ w'

theorem Turn.idles {q : Query} {a : q.Answer} (h : E.Turn w q a w₁) (idle : E.Idles w₁ w') : E.Turn w q a w' := by
  obtain ⟨w₂, w₃, drift, answers, before⟩ := h
  exact ⟨w₂, w₃, drift, answers, before.trans idle⟩

/-- Whatever the one world may do, the other may do as well. -/
structure Within (E E' : Environment σ) : Prop where
  answers : ∀ {w q a w'}, E.answers w q a w' → E'.answers w q a w'
  works : ∀ {w q w'}, E.works w q w' → E'.works w q w'
  others : ∀ {w w'}, E.others w w' → E'.others w w'

namespace Within

variable (within : E.Within E')

include within

theorem idles (h : E.Idles w w') : E'.Idles w w' := Relation.ReflTransGen.mono (fun _ _ => within.others) _ _ h

theorem drifts {q : Query} (h : E.Drifts q w w') : E'.Drifts q w w' :=
  Relation.ReflTransGen.mono (fun _ _ => Or.imp within.others within.works) _ _ h

theorem turn {q : Query} {a : q.Answer} (h : E.Turn w q a w') : E'.Turn w q a w' := by
  obtain ⟨w₁, w₂, drift, answers, idle⟩ := h
  exact ⟨w₁, w₂, within.drifts drift, within.answers answers, within.idles idle⟩

end Within

end Running.Environment

namespace Running

variable {es : List Event}

theorem Task.Step.within {i : Nat} {t t' : Task β} (within : E.Within E') (step : t.Step E i w es w' t') :
    t.Step E' i w es w' t' := by
  cases step with
  | ask plain => exact .ask plain
  | work works => exact .work (within.works works)
  | answer answers => exact .answer (within.answers answers)
  | part => exact .part
  | begin at_ => exact .begin at_
  | workPart at_ works => exact .workPart at_ (within.works works)
  | store at_ answers => exact .store at_ (within.answers answers)
  | fail at_ answers => exact .fail at_ (within.answers answers)
  | join stored => exact .join stored

theorem Steps.within {s s' : Stage α} (within : E.Within E') (h : Steps E w s es w' s') : Steps E' w s es w' s' := by
  induction h with
  | refl => exact .refl _ _
  | head step _ ih =>
    refine .head ?_ ih
    cases step with
    | task at_ step => exact .task at_ (step.within within)
    | finish at_ => exact .finish at_
    | join finished => exact .join finished
    | others others => exact .others (within.others others)

/-- A run in a world is one in every world that may do as much. -/
theorem Completes.within {p : Plan β} (within : E.Within E') (h : Completes E p w es w' a) : Completes E' p w es w' a :=
  Steps.within within h

end Running

/-! ## What a strand lives through -/

namespace Strand

/-- All its questions are such, whatever it is told. -/
def Asks (P : Query → Prop) : Strand β → Prop
  | .done _ => True
  | .ask q next => P q ∧ ∀ a, (next a).Asks P

section

variable {P Q : Query → Prop}

theorem Asks.mono {s : Strand β} (h : s.Asks P) (imp : ∀ q, P q → Q q) : s.Asks Q := by
  induction s with
  | done b => trivial
  | ask q next ih => exact ⟨imp q h.1, fun a => ih a (h.2 a)⟩

theorem Asks.bind {s : Strand α} {f : α → Strand β} (h : s.Asks P) (h' : ∀ a, (f a).Asks P) : (s >>= f).Asks P := by
  change (s.bind f).Asks P
  induction s with
  | done a => exact h' a
  | ask q next ih => exact ⟨h.1, fun a => ih a (h.2 a)⟩

theorem Asks.query {q : Query} (holds : P q) : (Strand.query q).Asks P := ⟨holds, fun _ => trivial⟩

end

/-- From one state of the world to another the strand is told this, one answer after another, and gives `b`. -/
inductive Lives (E : Environment σ) : Strand β → σ → List Telling → σ → β → Prop where
  | done {w w' : σ} {b : β} (idle : E.Idles w w') : Lives E (.done b) w [] w' b
  | ask {q : Query} {next : q.Answer → Strand β} {w w₁ w₂ w' : σ} {a : q.Answer} {told : List Telling} {b : β}
      (drift : E.Drifts q w w₁) (answers : E.answers w₁ q a w₂) (rest : Lives E (next a) w₂ told w' b) :
      Lives E (.ask q next) w (⟨q, a⟩ :: told) w' b

namespace Lives

theorem before {s : Strand β} (h : s.Lives E w told w' b) (others : E.others w₁ w) : s.Lives E w₁ told w' b := by
  cases h with
  | done idle => exact .done (.head others idle)
  | ask drift answers rest => exact .ask (.head (.inl others) drift) answers rest

theorem within {s : Strand β} (within : E.Within E') (h : s.Lives E w told w' b) : s.Lives E' w told w' b := by
  induction h with
  | done idle => exact .done (within.idles idle)
  | ask drift answers _ ih => exact .ask (within.drifts drift) (within.answers answers) ih

theorem asks {P : Query → Prop} {s : Strand β} (h : s.Lives E w told w' b) (all : s.Asks P) : ∀ t ∈ told, P t.1 := by
  induction h with
  | done idle => simp
  | ask drift answers _ ih => exact List.forall_mem_cons.2 ⟨all.1, ih (all.2 _)⟩

theorem of_pure (h : (pure a : Strand β).Lives E w told w' b) : told = [] ∧ b = a ∧ E.Idles w w' := by
  cases h with
  | done idle => exact ⟨rfl, rfl, idle⟩

theorem idles {s : Strand β} (h : s.Lives E w told w₁ b) (idle : E.Idles w₁ w') : s.Lives E w told w' b := by
  induction h with
  | done before => exact .done (before.trans idle)
  | ask drift answers _ ih => exact .ask drift answers (ih idle)

theorem of_query {q : Query} {a : q.Answer} (h : (query q).Lives E w told w' a) :
    told = [⟨q, a⟩] ∧ E.Turn w q a w' := by
  cases h with
  | ask drift answers rest =>
    obtain ⟨rfl, rfl, idle⟩ := of_pure rest
    exact ⟨rfl, _, _, drift, answers, idle⟩

/-- One strand after another lives through what the one does, and then what the other does. -/
theorem of_bind {p : Strand α} {f : α → Strand β} (h : (p >>= f).Lives E w told w' b) :
    ∃ a w₁ first rest, p.Lives E w first w₁ a ∧ (f a).Lives E w₁ rest w' b ∧ told = first ++ rest := by
  change (p.bind f).Lives E w told w' b at h
  induction p generalizing w told with
  | done a => exact ⟨a, w, [], told, .done .refl, h, rfl⟩
  | ask q next ih =>
    cases h with
    | @ask _ _ _ w₁ w₂ _ x told _ drift answers later =>
      obtain ⟨a, w₃, first, rest, one, other, rfl⟩ := ih x later
      exact ⟨a, w₃, ⟨q, x⟩ :: first, rest, .ask drift answers one, other, rfl⟩

end Lives

end Strand

/-! ## Runs of one strand -/

namespace Running

/-- What can be seen of a strand alone: each question with its answer, and the end. -/
def shown (told : List Telling) (b : β) : List Event :=
  told.flatMap (fun t => [.asked ⟨0, none⟩ t.1, .answered ⟨0, none⟩ t.1 t.2]) ++ [.ended 0 b]

theorem shown_cons (t : Telling) :
    shown (t :: told) b = .asked ⟨0, none⟩ t.1 :: .answered ⟨0, none⟩ t.1 t.2 :: shown told b := rfl

variable {es : List Event}

theorem idles_of_done {c : Stage β} (h : Steps E w (.done a) es w' c) : E.Idles w w' := by
  generalize begin_ : Stage.done a = s at h
  induction h with
  | refl => exact .refl
  | head step later ih =>
    subst begin_
    cases step with
    | others others => exact .head others (ih rfl)

theorem idles_of_finished {next : List (Nat × β) → Plan β} {results : List (Nat × β)} (gives : next results = .done b)
    (h : Steps E w (.going [(.finished : Task β)] results next) es w' (.done a)) : E.Idles w w' := by
  generalize begin_ : Stage.going [(.finished : Task β)] results next = s at h
  generalize end_ : Stage.done a = s' at h
  induction h with
  | refl => exact .refl
  | head step later ih =>
    subst begin_ end_
    cases step with
    | @task _ _ _ _ _ _ i _ _ _ at_ step =>
      cases i with
      | zero => cases Option.some.inj at_; cases step
      | succ i => cases at_
    | @finish _ _ _ _ _ i _ at_ =>
      cases i with
      | zero => cases Option.some.inj at_
      | succ i => cases at_
    | join finished =>
      rw [gives] at later
      exact idles_of_done later
    | others others => exact .head others (ih rfl rfl)

/-- What the task has still to live through. -/
def Task.Lives (E : Environment σ) (w : σ) (es : List Event) (w' : σ) (b : β) : Task β → Prop
  | .ready s => s.Asks (·.isPlain) → ∃ told, s.Lives E w told w' b ∧ es = shown told b
  | .asking q next => (∀ a, (next a).Asks (·.isPlain)) → ∃ a told w₁ w₂, E.Drifts q w w₁ ∧ E.answers w₁ q a w₂ ∧
      (next a).Lives E w₂ told w' b ∧ es = .answered ⟨0, none⟩ q a :: shown told b
  | _ => True

theorem Task.Lives.before {t : Task β} (h : t.Lives E w es w' b) (others : E.others w₁ w) : t.Lives E w₁ es w' b := by
  cases t with
  | ready s =>
    intro plain
    obtain ⟨told, lives, same⟩ := h plain
    exact ⟨told, lives.before others, same⟩
  | asking q next =>
    intro plain
    obtain ⟨a, told, w₂, w₃, drift, rest⟩ := h plain
    exact ⟨a, told, w₂, w₃, .head (.inl others) drift, rest⟩
  | _ => exact trivial

/-- **Step by step** a task has less to live through. -/
theorem Task.Step.lives {t t' : Task β} {es' : List Event} (step : t.Step E 0 w es w₁ t') (h : t'.Lives E w₁ es' w' b) :
    t.Lives E w (es ++ es') w' b := by
  cases step with
  | @ask q next plain =>
    intro all
    obtain ⟨a, told, w₂, w₃, drift, answers, rest, rfl⟩ := h all.2
    exact ⟨⟨q, a⟩ :: told, .ask drift answers rest, rfl⟩
  | work works =>
    intro all
    obtain ⟨a, told, w₂, w₃, drift, rest⟩ := h all
    exact ⟨a, told, w₂, w₃, .head (.inr works) drift, rest⟩
  | @answer _ q next a answers =>
    intro all
    obtain ⟨told, rest, rfl⟩ := h (all a)
    exact ⟨a, told, w, w₁, .refl, answers, rest, rfl⟩
  | part => exact fun all => by cases all.1
  | _ => exact trivial

theorem lives_of_single {t : Task β} {next : List (Nat × β) → Plan β} (gives : ∀ b, next [(0, b)] = .done b)
    (h : Steps E w (.going [t] [] next) es w' (.done a)) : t.Lives E w es w' a := by
  generalize begin_ : Stage.going [t] [] next = s at h
  generalize end_ : Stage.done a = s' at h
  induction h generalizing t with
  | refl =>
    subst end_
    cases begin_
  | head step later ih =>
    subst begin_ end_
    cases step with
    | @task _ _ _ _ _ _ i _ t' _ at_ step =>
      cases i with
      | zero =>
        cases Option.some.inj at_
        exact step.lives (ih rfl rfl)
      | succ i => cases at_
    | @finish _ _ _ _ _ i b at_ =>
      cases i with
      | zero =>
        cases Option.some.inj at_
        obtain ⟨rfl, rfl⟩ := steps_of_finished (gives b) later
        exact fun _ => ⟨[], .done (idles_of_finished (gives a) later), rfl⟩
      | succ i => cases at_
    | @join _ _ _ _ _ finished =>
      obtain rfl := finished t (List.mem_singleton_self t)
      exact trivial
    -- what others do before the next step is part of the drift before its answer
    | others others => exact (ih rfl rfl).before others

/-- **A strand alone** lives from the first state of the run to the last. -/
theorem Completes.lived {s : Strand β} (plain : s.Asks (·.isPlain)) (h : Completes E (.alone s) w es w' a) :
    ∃ told, s.Lives E w told w' a ∧ es = shown told a :=
  lives_of_single (fun _ => rfl) h plain

end Running

end ChainIndex
