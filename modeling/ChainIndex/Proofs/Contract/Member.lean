import ChainIndex.Proofs.Contract.Task
import ChainIndex.Proofs.Running.Lived

/-!
# One member of a crew

What is known of every member of a crew is known of its job as a whole. Of one that is on its way more can be said:
what is left of its strand is a *rest* of the job (`Strand.Rest`), so its text tells which question it waits for and
what it does with the answer. While the others act, it stays at its place, and its rest only gets shorter
(`Crew.Leads.rests_at`).

**A member is followed** from where it is (`Crew.Leads.meets_at`): whatever its rest ensures in addition to the
contract of the job, it has ensured when it comes to its end. So does a member that is begun later
(`Crew.Leads.meets_begun`), and its job may build on what holds by then.
-/

namespace ChainIndex

variable {σ ι α β : Type}

/-! ## Rests of strands -/

/-- The second strand is what is left of the first after some answers. -/
inductive Strand.Rest : Strand β → Strand β → Prop where
  | here (s : Strand β) : Rest s s
  | later {q : Query} {next : q.Answer → Strand β} {a : q.Answer} {s : Strand β} (rest : Rest (next a) s) :
      Rest (.ask q next) s

namespace Strand.Rest

variable {s s' s'' : Strand β} {b : β}

theorem trans (h : s.Rest s') (h' : s'.Rest s'') : s.Rest s'' := by
  induction h with
  | here => exact h'
  | later _ ih => exact .later (ih h')

/-- A rest goes on with a rest. -/
theorem next {q : Query} {next : q.Answer → Strand β} (h : s.Rest (.ask q next)) (a : q.Answer) : s.Rest (next a) :=
  h.trans (.later (.here _))

theorem asks {P : Query → Prop} (h : s.Rest s') (all : s.Asks P) : s'.Asks P := by
  induction h with
  | here => exact all
  | later _ ih => exact ih (all.2 _)

theorem of_pure {a : β} (h : (pure a : Strand β).Rest s) : s = pure a := by
  cases h with
  | here => rfl

theorem of_ask {q : Query} {next : q.Answer → Strand β} (h : (Strand.ask q next).Rest s) :
    s = .ask q next ∨ ∃ a, (next a).Rest s := by
  cases h with
  | here => exact .inl rfl
  | later rest => exact .inr ⟨_, rest⟩

/-- What ends two strands one after the other is an end of the second, behind an end of the first. -/
theorem done_of_bind {p : Strand α} {f : α → Strand β} (h : (p >>= f).Rest (.done b)) :
    ∃ a, p.Rest (.done a) ∧ (f a).Rest (.done b) := by
  change (p.bind f).Rest (.done b) at h
  induction p with
  | done a => exact ⟨a, .here _, h⟩
  | ask q next ih =>
    cases h with
    | later rest =>
      obtain ⟨a, first, second⟩ := ih _ rest
      exact ⟨a, .later first, second⟩

end Strand.Rest

/-! ## Contracts read backwards -/

section

variable {G : Growth σ} {C : Contract G} {post : σ → β → Prop} {w w' : σ}

/-- What two strands ensure one after the other, the second ensures behind the first. -/
theorem Strand.Ensures.of_bind {p : Strand α} {f : α → Strand β} (h : (p >>= f).Ensures C post w) :
    p.Ensures C (fun w₁ a => (f a).Ensures C post w₁) w := by
  change (p.bind f).Ensures C post w at h
  induction p generalizing w with
  | done a => exact fun w₁ later _ => Ensures.later h later
  | ask q next ih =>
    intro w₁ later sound
    obtain ⟨may, rest⟩ := h w₁ later sound
    exact ⟨may, fun a w₂ later' sound' told => ih a (rest a w₂ later' sound' told)⟩

end

namespace Running

variable {E : Environment σ}

/-! ## A strand alone -/

section

variable {G : Growth σ} {C : Contract G} {w w' : σ} {q : Query} {told : List Telling} {b : β}

theorem Environment.Honors.idles (honors : E.Honors C) (sound : G.Sound w) (idle : E.Idles w w') :
    G.Sound w' ∧ G.Later w w' := by
  induction idle with
  | refl => exact ⟨sound, G.refl w⟩
  | tail _ step ih =>
    obtain ⟨sound', later'⟩ := honors.keeps _ _ ih.1 step
    exact ⟨sound', G.trans ih.2 later'⟩

theorem Environment.Honors.drifts (honors : E.Honors C) (may : ∀ w, C.May w q) (sound : G.Sound w)
    (drift : E.Drifts q w w') : G.Sound w' ∧ G.Later w w' := by
  induction drift with
  | refl => exact ⟨sound, G.refl w⟩
  | tail _ step ih =>
    obtain ⟨sound', later'⟩ := step.elim (honors.keeps _ _ ih.1) (honors.works ih.1 (may _))
    exact ⟨sound', G.trans ih.2 later'⟩

theorem Environment.Honors.turn {a : q.Answer} (honors : E.Honors C) (may : ∀ w, C.May w q) (sound : G.Sound w)
    (turn : E.Turn w q a w') : G.Sound w' ∧ G.Later w w' := by
  obtain ⟨w₁, w₂, drift, answers, idle⟩ := turn
  obtain ⟨sound₁, later₁⟩ := honors.drifts may sound drift
  obtain ⟨sound₂, later₂, -⟩ := honors.answers sound₁ (may w₁) answers
  obtain ⟨sound', later'⟩ := honors.idles sound₂ idle
  exact ⟨sound', G.trans later₁ (G.trans later₂ later')⟩

/-- A strand that may put its questions at any time leaves the world sound, and later. -/
theorem Environment.Honors.lives {s : Strand β} (honors : E.Honors C) (may : s.Asks fun q => ∀ w, C.May w q)
    (sound : G.Sound w) (lives : s.Lives E w told w' b) : G.Sound w' ∧ G.Later w w' := by
  induction lives with
  | done idle => exact honors.idles sound idle
  | ask drift answers _ ih =>
    obtain ⟨sound₁, later₁⟩ := honors.drifts may.1 sound drift
    obtain ⟨sound₂, later₂, -⟩ := honors.answers sound₁ (may.1 _) answers
    obtain ⟨sound', later'⟩ := ih (may.2 _) sound₂
    exact ⟨sound', G.trans later₁ (G.trans later₂ later')⟩

end

/-! ## Tasks -/

/-- What is left of the task is a rest of the strand. -/
def Task.Rests (s : Strand β) : Task β → Prop
  | .ready s' => s.Rest s'
  | .asking q next => s.Rest (.ask q next)
  | .storing _ next => ∃ batches, s.Rest (.ask (.insertAll batches) next)
  | .finished => True

theorem Task.Step.rests {i : Nat} {t t' : Task β} {w w' : σ} {es : List Event} {s : Strand β}
    (step : t.Step E i w es w' t') (rests : t.Rests s) : t'.Rests s := by
  cases step with
  | answer answers => exact Strand.Rest.next rests _
  | part => exact ⟨_, rests⟩
  | fail at_ answers =>
    obtain ⟨batches, rest⟩ := rests
    exact rest.next _
  | join stored =>
    obtain ⟨batches, rest⟩ := rests
    exact rest.next _
  | _ => exact rests

/-! ## Members -/

namespace Crew

variable {job : ι → Strand β} {w w' : σ} {crew crew' : Crew ι β} {i : Nat} {k : ι} {t : Task β}

/-- What a step does to the member at a place: nothing, or it is its own, or its end. -/
theorem Step.at_ (h : Crew.Step E job w crew w' crew') (here : crew[i]? = some (k, t)) :
    crew'[i]? = some (k, t) ∨ (∃ t' es, t.Step E i w es w' t' ∧ crew'[i]? = some (k, t')) ∨
      crew'[i]? = some (k, .finished) := by
  have bound : i < crew.length := (List.getElem?_eq_some_iff.1 here).1
  cases h with
  | begin => exact .inl (by rw [List.getElem?_append_left bound, here])
  | @task _ _ j k' t₁ t' es at_ step =>
    by_cases same : j = i
    · subst same
      cases Option.some.inj (here.symm.trans at_)
      exact .inr (.inl ⟨t', es, step, getElem?_set_of_some at_⟩)
    · exact .inl (by rw [List.getElem?_set_ne same, here])
  | @finish _ j k' b at_ =>
    by_cases same : j = i
    · subst same
      cases Option.some.inj (here.symm.trans at_)
      exact .inr (.inr (getElem?_set_of_some at_))
    · exact .inl (by rw [List.getElem?_set_ne same, here])
  | others others => exact .inl here

/-- **A member stays at its place**, and its rest only gets shorter. -/
theorem Leads.rests_at {s : Strand β} (h : Crew.Leads E job w crew w' crew') (here : crew[i]? = some (k, t))
    (rests : t.Rests s) : ∃ t', crew'[i]? = some (k, t') ∧ t'.Rests s := by
  induction h with
  | here => exact ⟨t, here, rests⟩
  | step _ step ih =>
    obtain ⟨t₁, here₁, rests₁⟩ := ih
    rcases step.at_ here₁ with same | ⟨t', es, step, there⟩ | ended
    · exact ⟨t₁, same, rests₁⟩
    · exact ⟨t', there, step.rests rests₁⟩
    · exact ⟨.finished, ended, trivial⟩

/-- Whoever makes a step, what is left of every member is a rest of its job. -/
theorem Step.rests (h : Crew.Step E job w crew w' crew') (rests : ∀ k t, (k, t) ∈ crew → t.Rests (job k)) :
    ∀ k t, (k, t) ∈ crew' → t.Rests (job k) := by
  intro k' t' member
  cases h with
  | begin k =>
    rcases List.mem_append.1 member with present | new
    · exact rests k' t' present
    · obtain ⟨rfl, rfl⟩ : k' = k ∧ t' = .ready (job k) := by simpa using new
      exact .here _
  | task at_ step =>
    rcases List.mem_or_eq_of_mem_set member with present | same
    · exact rests k' t' present
    · cases same
      exact step.rests (rests _ _ (List.mem_of_getElem? at_))
  | finish at_ =>
    rcases List.mem_or_eq_of_mem_set member with present | same
    · exact rests k' t' present
    · cases same
      exact trivial
  | others others => exact rests k' t' member

/-- What is left of a member is a rest of its job. -/
theorem Reaches.rests {w₀ : σ} (h : Crew.Reaches E job w₀ w crew) : ∀ k t, (k, t) ∈ crew → t.Rests (job k) := by
  induction h with
  | start => simp
  | step _ step ih => exact step.rests ih

variable {G : Growth σ} {C : ι → Contract G} {post : ι → σ → β → Prop}

/-- **A member is followed** to what it ensures from where it is. -/
theorem Leads.meets_at {post' : σ → β → Prop} (keeps : E.Keeps G) (honors : ∀ k, E.Honors (C k))
    (ensures : ∀ k w, G.Sound w → (job k).Ensures (C k) (post k) w) (sound : G.Sound w)
    (meets : ∀ k t, (k, t) ∈ crew → t.Meets (C k) (post k) w) (h : Crew.Leads E job w crew w' crew')
    (here : crew[i]? = some (k, t)) (meets_here : t.Meets (C k) post' w) :
    ∃ t', crew'[i]? = some (k, t') ∧ t'.Meets (C k) post' w' := by
  induction h with
  | here => exact ⟨t, here, meets_here⟩
  | step leads step ih =>
    obtain ⟨t₁, here₁, meets₁⟩ := ih
    obtain ⟨sound₁, -, all₁⟩ := leads.meets keeps honors ensures sound meets
    obtain ⟨-, later, -⟩ := step.meets keeps honors ensures sound₁ all₁
    rcases step.at_ here₁ with same | ⟨t', es, own, there⟩ | ended
    · exact ⟨t₁, same, meets₁.later later⟩
    · obtain ⟨-, -, meets', -⟩ := meets₁.step (honors k) sound₁ own
      exact ⟨t', there, meets'⟩
    · exact ⟨.finished, ended, trivial⟩

/-- **A member that is begun later** meets what its job ensures by then. -/
theorem Leads.meets_begun {post' : σ → β → Prop} (keeps : E.Keeps G) (honors : ∀ k, E.Honors (C k))
    (ensures : ∀ k w, G.Sound w → (job k).Ensures (C k) (post k) w) (sound : G.Sound w)
    (meets : ∀ k t, (k, t) ∈ crew → t.Meets (C k) (post k) w) (h : Crew.Leads E job w crew w' crew')
    (begun : G.Always w ((job k).Ensures (C k) post')) (new : crew.length ≤ i) (there : crew'[i]? = some (k, t)) :
    t.Meets (C k) post' w' := by
  induction h generalizing t with
  | here => exact absurd (List.getElem?_eq_some_iff.1 there).1 (Nat.not_lt.2 new)
  | @step w₁ w₂ crew₁ crew₂ leads step ih =>
    obtain ⟨sound₁, later₁, all₁⟩ := leads.meets keeps honors ensures sound meets
    obtain ⟨-, later₂, -⟩ := step.meets keeps honors ensures sound₁ all₁
    by_cases present : i < crew₁.length
    · -- it was there before the step, and the step did nothing to it, or was its own, or its end
      obtain ⟨⟨k₁, t₁⟩, here⟩ : ∃ member, crew₁[i]? = some member := ⟨_, List.getElem?_eq_getElem present⟩
      rcases step.at_ here with same | ⟨t', es, own, same⟩ | same
      · cases Option.some.inj (there.symm.trans same)
        exact (ih here).later later₂
      · cases Option.some.inj (there.symm.trans same)
        obtain ⟨-, -, meets', -⟩ := (ih here).step (honors k) sound₁ own
        exact meets'
      · cases Option.some.inj (there.symm.trans same)
        exact trivial
    · -- the step began it
      cases step with
      | begin k' =>
        rw [List.getElem?_append_right (Nat.not_lt.1 present)] at there
        obtain ⟨rfl, rfl⟩ : k = k' ∧ t = .ready (job k') := by simpa using List.mem_of_getElem? there
        exact begun _ later₁ sound₁
      | task =>
        have bound := (List.getElem?_eq_some_iff.1 there).1
        rw [List.length_set] at bound
        exact absurd bound present
      | finish =>
        have bound := (List.getElem?_eq_some_iff.1 there).1
        rw [List.length_set] at bound
        exact absurd bound present
      | others => exact absurd (List.getElem?_eq_some_iff.1 there).1 present

end Crew

end Running

end ChainIndex
