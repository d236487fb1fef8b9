import ChainIndex.Proofs.Running.Stage

/-!
# A strand alone

A plan that runs one strand shows what the strand asks and is answered, question by question, and then its end
(`Completes.alone`). Between its steps the world may change in any way, so nothing is said of the states there.
-/

namespace ChainIndex.Running

variable {σ β : Type} {E : Environment σ} {w w' : σ} {es : List Event} {a b : β}

/-- A task on its own from where it is to its end, and what it gives. -/
inductive Task.Ends (E : Environment σ) : Task β → List Event → β → Prop where
  | ended (b : β) : Ends E (.ready (.done b)) [.ended 0 b] b
  | step {w w' : σ} {t t' : Task β} {es es' : List Event} {b : β} (step : t.Step E 0 w es w' t')
    (rest : Ends E t' es' b) : Ends E t (es ++ es') b

/-- One task is over, and nothing is left to do but to go on. -/
theorem steps_of_finished {next : List (Nat × β) → Plan β} (gives : next [(0, b)] = .done b)
    (h : Steps E w (.going [(.finished : Task β)] [(0, b)] next) es w' (.done a)) : es = [] ∧ a = b := by
  generalize begin_ : Stage.going [(.finished : Task β)] [(0, b)] next = s at h
  generalize end_ : Stage.done a = s' at h
  induction h with
  | refl =>
    subst end_
    cases begin_
  | head step later ih =>
    subst begin_ end_
    cases step with
    | @task _ _ _ _ _ _ i _ _ _ at_ step =>
      cases i with
      | zero => cases Option.some.inj at_; cases step
      | succ i => cases at_
    | @finish _ _ _ _ _ i _ at_ =>
      cases i with
      | zero => cases Option.some.inj at_
      | succ i => cases at_
    | join finished =>
      rw [gives] at later
      obtain ⟨rfl, same⟩ := steps_done later
      exact ⟨rfl, Stage.done.inj same⟩
    | others others => exact ih rfl rfl

theorem steps_of_single {t : Task β} {next : List (Nat × β) → Plan β} (gives : ∀ b, next [(0, b)] = .done b)
    (h : Steps E w (.going [t] [] next) es w' (.done a)) (going : t ≠ .finished) : t.Ends E es a := by
  generalize begin_ : Stage.going [t] [] next = s at h
  generalize end_ : Stage.done a = s' at h
  induction h generalizing t with
  | refl =>
    subst end_
    cases begin_
  | head step later ih =>
    subst begin_ end_
    cases step with
    | @task _ _ _ _ _ _ i _ t' _ at_ step =>
      cases i with
      | zero =>
        cases Option.some.inj at_
        have going' : t' ≠ .finished := by cases step <;> nofun
        exact .step step (ih going' rfl rfl)
      | succ i => cases at_
    | @finish _ _ _ _ _ i b at_ =>
      cases i with
      | zero =>
        cases Option.some.inj at_
        obtain ⟨rfl, rfl⟩ := steps_of_finished (gives b) later
        exact .ended a
      | succ i => cases at_
    | join finished => exact absurd (finished t (List.mem_singleton_self t)) going
    | others others => exact ih going rfl rfl

/-- **A strand alone** shows its own steps and nothing else. -/
theorem Completes.alone {s : Strand β} (h : Completes E (.alone s) w es w' a) : (Task.ready s).Ends E es a :=
  steps_of_single (fun _ => rfl) h nofun

namespace Task.Ends

variable {q : Query} {next : q.Answer → Strand β}

theorem of_done (h : (Task.ready (.done b)).Ends E es a) : a = b ∧ es = [.ended 0 b] := by
  cases h with
  | ended => exact ⟨rfl, rfl⟩
  | step step rest => cases step

theorem of_asking (h : (Task.asking q next).Ends E es a) :
    ∃ x es' w w', E.answers w q x w' ∧ (Task.ready (next x)).Ends E es' a ∧ es = .answered ⟨0, none⟩ q x :: es' := by
  generalize begin_ : Task.asking q next = t at h
  induction h with
  | ended b => cases begin_
  | step step rest ih =>
    subst begin_
    cases step with
    | work works => exact ih rfl
    | answer answers => exact ⟨_, _, _, _, answers, rest, rfl⟩

/-- A question, its answer, and what follows. -/
theorem of_ask (plain : q.isPlain) (h : (Task.ready (.ask q next)).Ends E es a) :
    ∃ x es' w w', E.answers w q x w' ∧ (Task.ready (next x)).Ends E es' a ∧
      es = .asked ⟨0, none⟩ q :: .answered ⟨0, none⟩ q x :: es' := by
  cases h with
  | step step rest =>
    cases step with
    | ask _ =>
      obtain ⟨x, es', w, w', answers, later, rfl⟩ := rest.of_asking
      exact ⟨x, es', w, w', answers, later, rfl⟩
    | part => cases plain

end Task.Ends

end ChainIndex.Running
