import ChainIndex.Proofs.Running.Joined

/-!
# What is seen of one strand among others

A strand puts a question only after the last one was answered. So however many strands run side by side, what is seen
of one of them is a question, its answer, the next question, and so on (`Completes.asked_in_turn`): at the end nothing that
it asked is left open, and it was told nothing that it did not ask for. Batches that a strand stores side by side are
left out; they put questions of their own.

Step by step, what was seen of a strand is what it was told, each answer behind its question, and then the question
that it has open (`Task.Step.exchanges`).
-/

namespace ChainIndex.Running

/-- Whether a question of this asker was put, answered or dropped. -/
def Event.isOf (who : Asker) : Event → Bool
  | .asked who' _ | .answered who' _ _ | .dropped who' _ => who' = who
  | .ended .. => false

/-- What is seen of the questions of the strand at a place. -/
def seenOf (i : Nat) (es : List Event) : List Event := es.filter (Event.isOf ⟨i, none⟩)

/-- Questions, each with its answer behind it. -/
def exchanges (i : Nat) (told : List Telling) : List Event :=
  told.flatMap fun t => [.asked ⟨i, none⟩ t.1, .answered ⟨i, none⟩ t.1 t.2]

variable {σ α β : Type} {E : Environment σ} {w w' : σ} {es : List Event} {i : Nat}

/-- The question that is open at a place. -/
def Task.pending (i : Nat) : Option (Task β) → List Event
  | some (.asking q _) => [.asked ⟨i, none⟩ q]
  | _ => []

theorem seenOf_append (i : Nat) (es es' : List Event) : seenOf i (es ++ es') = seenOf i es ++ seenOf i es' :=
  List.filter_append es es'

theorem exchanges_append (i : Nat) (told told' : List Telling) :
    exchanges i (told ++ told') = exchanges i told ++ exchanges i told' :=
  List.flatMap_append

theorem seenOf_drops (i j k : Nat) (parts : List Part) : seenOf i (drops j k parts) = [] := by
  refine List.filter_eq_nil_iff.2 fun event member => ?_
  simp only [drops, List.mem_filterMap, Prod.exists] at member
  obtain ⟨p, n, -, same⟩ := member
  split at same
  · obtain rfl := Option.some.inj same
    simp [Event.isOf]
  · cases same

/-- A batch that cannot be stored is not a question of the strand itself. -/
theorem seenOf_fail (i j k : Nat) (parts : List Part) (q : Query) (a : q.Answer) :
    seenOf i (.answered ⟨j, some k⟩ q a :: drops j k parts) = [] := by
  rw [← List.singleton_append, seenOf_append, seenOf_drops, List.append_nil]
  simp [seenOf, Event.isOf]

namespace Task.Step

variable {t t' : Task β} (step : t.Step E i w es w' t')

include step

/-- What is seen of one strand is seen of no other. -/
theorem seenOf_of_ne {j : Nat} (other : j ≠ i) : seenOf j es = [] := by
  cases step with
  | fail at_ answers => exact seenOf_fail ..
  | _ => simp [seenOf, Event.isOf, Ne.symm other]

/-- **Step by step** a question is opened, and answered before the next one is. -/
theorem exchanges : pending i (some t) ++ seenOf i es = exchanges i (toldTo i es) ++ pending i (some t') := by
  cases step with
  | @fail _ parts next k b e at_ answers =>
    have unseen : seenOf i (.answered ⟨i, some k⟩ (.call (.insert b)) (.error e) :: drops i k parts) = [] :=
      seenOf_fail ..
    have untold : toldTo i (.answered ⟨i, some k⟩ (.call (.insert b)) (.error e) :: drops i k parts) = [] := by
      rw [← List.singleton_append, toldTo_append, toldTo_drops, List.append_nil]
      rfl
    rw [unseen, untold]
    rfl
  | work works => rfl
  | _ => simp [pending, seenOf, Event.isOf, toldTo, Event.told?, Running.exchanges]

end Task.Step

/-- Strands side by side on the way to the end of their plan. -/
theorem steps_exchanges {tasks : List (Task β)} {results : List (Nat × β)} {f : List (Nat × β) → α} {a : α}
    (h : Steps E w (.going tasks results fun rs => .done (f rs)) es w' (.done a)) :
    Task.pending i tasks[i]? ++ seenOf i es = exchanges i (toldTo i es) ∧ (tasks.length ≤ i → seenOf i es = []) := by
  generalize begin_ : Stage.going tasks results (fun rs => Plan.done (f rs)) = s at h
  generalize end_ : Stage.done a = s' at h
  induction h generalizing tasks results with
  | refl =>
    subst end_
    cases begin_
  | head step later ih =>
    subst begin_ end_
    cases step with
    | @task _ _ _ _ _ _ j t t' es at_ step =>
      obtain ⟨rest, nobody⟩ := ih rfl rfl
      rw [seenOf_append, toldTo_append, exchanges_append]
      by_cases same : i = j
      · subst same
        have inside := (List.getElem?_eq_some_iff.1 at_).1
        rw [getElem?_set_of_some at_] at rest
        refine ⟨?_, fun outside => absurd inside (Nat.not_lt_of_le outside)⟩
        rw [at_, ← List.append_assoc, step.exchanges, List.append_assoc, rest]
      · rw [List.getElem?_set_ne (Ne.symm same)] at rest
        rw [List.length_set] at nobody
        rw [step.seenOf_of_ne same, step.toldTo_of_ne same]
        exact ⟨rest, nobody⟩
    | @finish _ _ _ _ _ j b at_ =>
      obtain ⟨rest, nobody⟩ := ih rfl rfl
      rw [List.length_set] at nobody
      refine ⟨?_, nobody⟩
      by_cases same : i = j
      · subst same
        rw [getElem?_set_of_some at_] at rest
        rw [at_]
        exact rest
      · rw [List.getElem?_set_ne (Ne.symm same)] at rest
        exact rest
    | join finished =>
      obtain ⟨rfl, -⟩ := steps_done later
      refine ⟨?_, fun _ => rfl⟩
      cases at_ : tasks[i]? with
      | none => rfl
      | some t =>
        rw [finished t (List.mem_of_getElem? at_)]
        rfl
    | others others => exact ih rfl rfl

/-- **Each strand asks and is answered in turn**, whatever is seen of the others, and nothing is asked from a place
without a strand. -/
theorem Completes.asked_in_turn {strands : List (Strand β)} {rs : List β}
    (h : Completes E (Plan.unordered strands) w es w' rs) (i : Nat) :
    seenOf i es = exchanges i (toldTo i es) ∧ (strands.length ≤ i → seenOf i es = []) := by
  have run : Steps E w (.going (strands.map .ready) [] fun rs => .done (rs.map (·.2))) es w' (.done rs) := h
  obtain ⟨seen, nobody⟩ := steps_exchanges (i := i) run
  rw [List.length_map] at nobody
  refine ⟨?_, nobody⟩
  have idle : Task.pending i (strands.map Task.ready)[i]? = [] := by
    rw [List.getElem?_map]
    cases strands[i]? <;> rfl
  rw [← seen, idle, List.nil_append]

end ChainIndex.Running
