import ChainIndex.Proofs.Contract.Asks

/-!
# What a run keeps

While somebody waits for an answer the world may do what the question allows, and when the answer comes it has
changed once more. Nothing else changes it but what others do. So if no question of some kind can break a
property of the world, it holds to the end of every run in which only questions of that kind were put, and of
these there is a record in what was seen of the run (`Steps.preserves`).
-/

namespace ChainIndex.Running

variable {σ α β : Type}

/-- No question of the kind breaks the property, and nobody else does. -/
structure Environment.Preserves (E : Environment σ) (P : Query → Prop) (I : σ → Prop) : Prop where
  others : ∀ {w w'}, I w → E.others w w' → I w'
  answers : ∀ {w q a w'}, I w → P q → E.answers w q a w' → I w'
  works : ∀ {w q w'}, I w → P q → E.works w q w' → I w'

/-- The questions that a task waits for. -/
inductive Task.Waits : Task β → Query → Prop
  | asking {q : Query} {next : q.Answer → Strand β} : Waits (.asking q next) q
  | storing {parts : List Part} {next : Except Storage.Error UInt64 → Strand β} {b : Storage.Batch}
    (begun : ⟨b, .begun⟩ ∈ parts) : Waits (.storing parts next) (.call (.insert b))

/-- The questions that a stage waits for. -/
def Stage.Waits : Stage α → Query → Prop
  | .done _, _ => False
  | .going tasks _ _, q => ∃ t ∈ tasks, t.Waits q

variable {E : Environment σ} {P : Query → Prop} {I : σ → Prop} {w w' : σ} {es : List Event} {q : Query}

theorem Task.not_waits_ready {s : Strand β} : ¬(Task.ready s).Waits q := nofun

theorem Task.not_waits_finished : ¬(Task.finished : Task β).Waits q := nofun

namespace Task.Step

variable {i : Nat} {t t' : Task β} (step : t.Step E i w es w' t')

include step

/-- Whoever waits has waited before, or has just asked. -/
theorem waits (waits : t'.Waits q) : t.Waits q ∨ ∃ who, .asked who q ∈ es := by
  cases step with
  | ask plain =>
    cases waits
    exact .inr ⟨_, List.mem_singleton_self _⟩
  | work works => exact .inl waits
  | answer answers => exact absurd waits not_waits_ready
  | part =>
    cases waits with
    | storing begun => simp at begun
  | begin at_ =>
    cases waits with
    | storing begun =>
      rcases List.mem_or_eq_of_mem_set begun with present | same
      · exact .inl (.storing present)
      · cases same
        exact .inr ⟨_, List.mem_singleton_self _⟩
  | workPart at_ works => exact .inl waits
  | store at_ answers =>
    cases waits with
    | storing begun =>
      rcases List.mem_or_eq_of_mem_set begun with present | same
      · exact .inl (.storing present)
      · cases same
  | fail at_ answers => exact absurd waits not_waits_ready
  | join stored => exact absurd waits not_waits_ready

theorem preserves (preserves : E.Preserves P I) (waits : ∀ q, t.Waits q → P q) (holds : I w) : I w' := by
  cases step with
  | ask plain => exact holds
  | work works => exact preserves.works holds (waits _ .asking) works
  | answer answers => exact preserves.answers holds (waits _ .asking) answers
  | part => exact holds
  | begin at_ => exact holds
  | workPart at_ works => exact preserves.works holds (waits _ (.storing (List.mem_of_getElem? at_))) works
  | store at_ answers => exact preserves.answers holds (waits _ (.storing (List.mem_of_getElem? at_))) answers
  | fail at_ answers => exact preserves.answers holds (waits _ (.storing (List.mem_of_getElem? at_))) answers
  | join stored => exact holds

end Task.Step

/-- A plan that begins waits for nothing. -/
theorem not_waits_start (p : Plan α) : ¬(start p).Waits q := by
  cases p with
  | done a => exact id
  | run strand next =>
    rintro ⟨t, member, waits⟩
    obtain rfl := List.mem_singleton.1 member
    exact Task.not_waits_ready waits
  | fork strands next =>
    rintro ⟨t, member, waits⟩
    obtain ⟨s, -, rfl⟩ := List.mem_map.1 member
    exact Task.not_waits_ready waits

theorem Stage.Step.waits {s s' : Stage α} (step : Stage.Step E w s es w' s') (waits : s'.Waits q) :
    s.Waits q ∨ ∃ who, .asked who q ∈ es := by
  cases step with
  | task at_ step =>
    obtain ⟨t, member, waits⟩ := waits
    rcases List.mem_or_eq_of_mem_set member with present | rfl
    · exact .inl ⟨t, present, waits⟩
    · exact (step.waits waits).imp_left fun before => ⟨_, List.mem_of_getElem? at_, before⟩
  | finish at_ =>
    obtain ⟨t, member, waits⟩ := waits
    rcases List.mem_or_eq_of_mem_set member with present | rfl
    · exact .inl ⟨t, present, waits⟩
    · exact absurd waits Task.not_waits_finished
  | join finished => exact absurd waits (not_waits_start _)
  | others others => exact .inl waits

theorem Stage.Step.preserves {s s' : Stage α} (step : Stage.Step E w s es w' s') (preserves : E.Preserves P I)
    (waits : ∀ q, s.Waits q → P q) (holds : I w) : I w' := by
  cases step with
  | task at_ step => exact step.preserves preserves (fun q here => waits q ⟨_, List.mem_of_getElem? at_, here⟩) holds
  | finish at_ => exact holds
  | join finished => exact holds
  | others others => exact preserves.others holds others

/-- **What a run keeps** is what no question breaks that was put in it. -/
theorem Steps.preserves {p : Plan α} {s : Stage α} (run : Steps E w (start p) es w' s) (preserves : E.Preserves P I)
    (asked : Asked P es) (holds : I w) : I w' := by
  have waits : ∀ q, (start p).Waits q → P q := fun q here => absurd here (not_waits_start p)
  generalize start p = b at run waits
  induction run with
  | refl => exact holds
  | head step later ih =>
    have now := fun who q member => asked who q (List.mem_append_left _ member)
    refine ih (fun who q member => asked who q (List.mem_append_right _ member)) ?_ fun q here => ?_
    · exact step.preserves preserves waits holds
    · rcases step.waits here with before | ⟨who, member⟩
      · exact waits q before
      · exact now who q member

end ChainIndex.Running
