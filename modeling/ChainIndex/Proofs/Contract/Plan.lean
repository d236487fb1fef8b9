import ChainIndex.Proofs.Contract.Task
import ChainIndex.Proofs.Running.Stage

/-!
# Contracts kept by plans

Strands side by side rely on the same contract, and each ends with a postcondition of its own. When
all are over, all their postconditions hold together, whatever the order in which they ended.

**Soundness** (`Steps.meets`). A run of a plan that `Ensures` a postcondition puts only questions that
may be put, keeps the world sound, and ends with the postcondition.

The rest are rules for the plans that occur: a strand alone, strands whose results are taken in the
order in which they come, and strands whose results are put back in order.
-/

namespace ChainIndex

variable {σ α β γ : Type} {G : Growth σ}

/-- The results of so many strands, one of each, that satisfy their postconditions. -/
def Growth.Given (G : Growth σ) (post : Nat → σ → β → Prop) (count : Nat) (w : σ) (results : List (Nat × β)) : Prop :=
  (results.map (·.1)).Perm (List.range count) ∧ ∀ r ∈ results, G.Always w (post r.1 · r.2)

namespace Plan

/-- Begun at `w` or later, the plan only puts questions that it may put, and gives what satisfies
`post` from then on. -/
def Ensures (C : Contract G) (post : σ → α → Prop) : Plan α → σ → Prop
  | .done a, w => G.Always w (post · a)
  | .run strand next, w => G.Always w fun w₁ => ∃ mid : σ → _ → Prop, strand.Ensures C mid w₁ ∧
      ∀ b, G.Always w₁ fun w₂ => G.Always w₂ (mid · b) → (next b).Ensures C post w₂
  | .fork strands next, w => G.Always w fun w₁ => ∃ mid : Nat → σ → _ → Prop,
      (∀ i s, strands[i]? = some s → Strand.Ensures C (mid i) s w₁) ∧
      ∀ results, G.Always w₁ fun w₂ => G.Given mid strands.length w₂ results → (next results).Ensures C post w₂

variable {C : Contract G} {post : σ → α → Prop} {p : Plan α} {w w' : σ}

theorem Ensures.later (h : p.Ensures C post w) (later : G.Later w w') : p.Ensures C post w' := by
  cases p <;> intro w₁ later' <;> exact h w₁ (G.trans later later')

/-- It is enough to look at sound states. -/
theorem ensures_of_sound (h : G.Always w fun w₁ => p.Ensures C post w₁) : p.Ensures C post w := by
  cases p <;> intro w₁ later sound <;> exact h w₁ later sound w₁ (G.refl w₁) sound

theorem ensures_pure {a : α} (h : G.Always w (post · a)) : (pure a : Plan α).Ensures C post w := h

/-- What holds from then on, weakened where it is known to. -/
theorem Ensures.mono {post' : σ → α → Prop} (h : p.Ensures C post w)
    (imp : ∀ a, G.Always w fun w₁ => G.Always w₁ (post · a) → post' w₁ a) : p.Ensures C post' w := by
  induction p generalizing w with
  | done a =>
    intro w₁ later sound
    exact imp a w₁ later sound (Growth.Always.later h later)
  | run strand next ih =>
    intro w₁ later sound
    obtain ⟨mid, ensures, rest⟩ := h w₁ later sound
    refine ⟨mid, ensures, fun b w₂ later' sound' holds => ?_⟩
    apply ih b (rest b w₂ later' sound' holds)
    intro a
    exact (imp a).later (G.trans later later')
  | fork strands next ih =>
    intro w₁ later sound
    obtain ⟨mid, ensures, rest⟩ := h w₁ later sound
    refine ⟨mid, ensures, fun rs w₂ later' sound' given => ?_⟩
    apply ih rs (rest rs w₂ later' sound' given)
    intro a
    exact (imp a).later (G.trans later later')

/-- **Sequence.** What follows begins at a later state, with what came before. -/
theorem Ensures.bind {post' : σ → β → Prop} {f : α → Plan β} (h : p.Ensures C post w)
    (goOn : ∀ a, G.Always w fun w₁ => G.Always w₁ (post · a) → (f a).Ensures C post' w₁) :
    (p >>= f).Ensures C post' w := by
  change (p.bind f).Ensures C post' w
  induction p generalizing w with
  | done a =>
    apply ensures_of_sound
    intro w₁ later sound
    exact goOn a w₁ later sound (Growth.Always.later h later)
  | run strand next ih =>
    intro w₁ later sound
    obtain ⟨mid, ensures, rest⟩ := h w₁ later sound
    refine ⟨mid, ensures, fun b w₂ later' sound' holds => ?_⟩
    apply ih b (rest b w₂ later' sound' holds)
    intro a
    exact (goOn a).later (G.trans later later')
  | fork strands next ih =>
    intro w₁ later sound
    obtain ⟨mid, ensures, rest⟩ := h w₁ later sound
    refine ⟨mid, ensures, fun rs w₂ later' sound' given => ?_⟩
    apply ih rs (rest rs w₂ later' sound' given)
    intro a
    exact (goOn a).later (G.trans later later')

theorem ensures_alone {s : Strand α} (h : s.Ensures C post w) : (Plan.alone s).Ensures C post w :=
  fun _ later _ => ⟨post, h.later later, fun _ _ _ _ holds => holds⟩

/-- Strands side by side, each with a postcondition of its own. -/
theorem ensures_fork {strands : List (Strand β)} {next : List (Nat × β) → Plan α} (mid : Nat → σ → β → Prop)
    (strand : ∀ (i : Nat) (s : Strand β), strands[i]? = some s → s.Ensures C (mid i) w)
    (goOn : ∀ rs, G.Always w fun w₁ => G.Given mid strands.length w₁ rs → (next rs).Ensures C post w₁) :
    (Plan.fork strands next).Ensures C post w := fun _ later _ =>
  ⟨mid, fun i s at_ => (strand i s at_).later later, fun rs => (goOn rs).later later⟩

end Plan

/-! ## Results by place -/

namespace Growth.Given

variable {mid : Nat → σ → β → Prop} {count : Nat} {w : σ} {results : List (Nat × β)}

theorem length_eq (h : G.Given mid count w results) : results.length = count := by
  simpa using h.1.length_eq

theorem exists_at (h : G.Given mid count w results) {i : Nat} (bound : i < count) : ∃ b, (i, b) ∈ results := by
  obtain ⟨⟨j, b⟩, member, rfl⟩ := List.mem_map.1 (h.1.symm.subset (List.mem_range.2 bound))
  exact ⟨b, member⟩

/-- Put in order by their places, the results stand at them. -/
theorem byPlace (h : G.Given mid count w results) {i : Nat} {b : β} (at_ : (Plan.byPlace results)[i]? = some b) :
    G.Always w (mid i · b) := by
  let sorted := results.mergeSort fun a b => a.1 ≤ b.1
  have perm : sorted.Perm results := List.mergeSort_perm _ _
  have ordered : sorted.Pairwise fun a b => (decide (a.1 ≤ b.1) : Bool) :=
    List.pairwise_mergeSort (by simp only [decide_eq_true_eq]; omega)
      (by simp only [Bool.or_eq_true, decide_eq_true_eq]; omega) _
  have places : sorted.map (·.1) = List.range count := by
    refine List.Perm.eq_of_pairwise ?_ ?_ List.pairwise_le_range ((perm.map _).trans h.1)
    · exact fun a b _ _ => Nat.le_antisymm
    · exact List.pairwise_map.2 (ordered.imp fun le => by simpa using le)
  obtain ⟨⟨j, c⟩, found, rfl⟩ : ∃ r, sorted[i]? = some r ∧ r.2 = b := by
    simpa [Plan.byPlace, sorted, List.getElem?_map] using at_
  have place : (sorted.map (·.1))[i]? = some j := by simp [found]
  obtain rfl : i = j := by
    rw [places, List.getElem?_range (by simpa using (List.getElem?_eq_some_iff.1 place).1)] at place
    simpa using place
  exact h.2 (i, c) (perm.subset (List.mem_of_getElem? found))

theorem length_byPlace (h : G.Given mid count w results) : (Plan.byPlace results).length = count := by
  simpa [Plan.byPlace] using h.length_eq

end Growth.Given

namespace Plan

variable {C : Contract G} {w : σ}

/-- Strands whose results are put back in their order. -/
theorem ensures_joined {strands : List (Strand β)} (mid : Nat → σ → β → Prop)
    (strand : ∀ (i : Nat) (s : Strand β), strands[i]? = some s → s.Ensures C (mid i) w) :
    (Plan.joined strands).Ensures C
      (fun w₁ bs => bs.length = strands.length ∧ ∀ (i : Nat) b, bs[i]? = some b → mid i w₁ b) w :=
  ensures_fork mid strand fun _ _ _ _ given _ later sound =>
    ⟨given.length_byPlace, fun _ _ at_ => given.byPlace at_ _ later sound⟩

/-- Strands that do the same for each item, with their results in whatever order. -/
theorem ensures_unordered {items : List γ} {f : γ → Strand β} (mid : γ → σ → β → Prop)
    (strand : ∀ c ∈ items, (f c).Ensures C (mid c) w) :
    (Plan.unordered (items.map f)).Ensures C
      (fun w₁ bs => (∀ b ∈ bs, ∃ c ∈ items, mid c w₁ b) ∧ ∀ c ∈ items, ∃ b ∈ bs, mid c w₁ b) w := by
  refine ensures_fork (fun i w₁ b => ∃ c, items[i]? = some c ∧ mid c w₁ b) (fun i s at_ => ?_)
    fun results w₁ _ _ given w₂ later sound => ⟨fun b member => ?_, fun c member => ?_⟩
  · rw [List.getElem?_map] at at_
    obtain ⟨c, found, rfl⟩ := Option.map_eq_some_iff.1 at_
    exact (strand c (List.mem_of_getElem? found)).mono fun b w₁ _ sound holds =>
      ⟨c, found, holds w₁ (G.refl w₁) sound⟩
  · obtain ⟨r, present, rfl⟩ := List.mem_map.1 member
    obtain ⟨c, found, holds⟩ := given.2 r present w₂ later sound
    exact ⟨c, List.mem_of_getElem? found, holds⟩
  · obtain ⟨i, found⟩ := List.getElem?_of_mem member
    obtain ⟨b, present⟩ := given.exists_at (i := i) (by simpa using (List.getElem?_eq_some_iff.1 found).1)
    obtain ⟨c', found', holds⟩ := given.2 (i, b) present w₂ later sound
    obtain rfl : c = c' := by simpa [found] using found'
    exact ⟨b, List.mem_map.2 ⟨_, present, rfl⟩, holds⟩

end Plan

namespace Running

variable {E : Environment σ} {C : Contract G} {post : σ → α → Prop} {w w' : σ} {es : List Event}

/-- The places of those that are over are the places of the results. -/
def Ended (tasks : List (Task β)) (results : List (Nat × β)) : Prop :=
  (results.map (·.1)).Nodup ∧ ∀ i, i ∈ results.map (·.1) ↔ tasks[i]? = some .finished

/-- The plan at this stage only puts questions that it may put, and gives what satisfies `post`. -/
def Stage.Meets (C : Contract G) (post : σ → α → Prop) (w : σ) : Stage α → Prop
  | .done a => G.Always w (post · a)
  | .going tasks results next => ∃ mid : Nat → σ → _ → Prop,
      (∀ i t, tasks[i]? = some t → Task.Meets C (mid i) w t) ∧ Ended tasks results ∧
      (∀ r ∈ results, G.Always w (mid r.1 · r.2)) ∧
      ∀ rs, G.Always w fun w₁ => G.Given mid tasks.length w₁ rs → (next rs).Ensures C post w₁

theorem Stage.Meets.later {s : Stage α} (h : s.Meets C post w) (later : G.Later w w') : s.Meets C post w' := by
  cases s with
  | done a => exact Growth.Always.later h later
  | going tasks results next =>
    obtain ⟨mid, meets, ended, given, goOn⟩ := h
    exact ⟨mid, fun i t at_ => (meets i t at_).later later, ended, fun r member => (given r member).later later,
      fun rs => (goOn rs).later later⟩

theorem start_meets {p : Plan α} (sound : G.Sound w) (h : p.Ensures C post w) : (start p).Meets C post w := by
  cases p with
  | done a => exact h
  | run strand next =>
    obtain ⟨mid, ensures, goOn⟩ := h w (G.refl w) sound
    refine ⟨fun _ => mid, fun i t at_ => ?_, ⟨by simp, fun i => ?_⟩, by simp, fun rs w₁ later sound' given => ?_⟩
    · obtain ⟨-, rfl⟩ : i = 0 ∧ t = .ready strand := by
        cases i <;> simp_all
      exact ensures
    · cases i <;> simp
    · obtain ⟨perm, given⟩ := given
      match rs with
      | [] => simp at perm
      | (i, b) :: rs => exact goOn b w₁ later sound' (given (i, b) (by simp))
  | fork strands next =>
    obtain ⟨mid, ensures, goOn⟩ := h w (G.refl w) sound
    refine ⟨mid, fun i t at_ => ?_, ⟨by simp, fun i => ?_⟩, by simp, fun rs => ?_⟩
    · rw [List.getElem?_map] at at_
      obtain ⟨s, found, rfl⟩ := Option.map_eq_some_iff.1 at_
      exact ensures i s found
    · simp [List.getElem?_map]
    · rw [List.length_map]
      exact goOn rs

theorem Ended.perm_range {tasks : List (Task β)} {results : List (Nat × β)} (h : Ended tasks results)
    (finished : ∀ t ∈ tasks, t = .finished) : (results.map (·.1)).Perm (List.range tasks.length) := by
  refine (List.perm_ext_iff_of_nodup h.1 List.nodup_range).2 fun i => ?_
  rw [h.2, List.mem_range]
  constructor
  · intro at_
    exact (List.getElem?_eq_some_iff.1 at_).1
  · intro bound
    rw [List.getElem?_eq_getElem bound, finished _ (List.getElem_mem bound)]

theorem Ended.set {tasks : List (Task β)} {results : List (Nat × β)} (h : Ended tasks results) {i : Nat} {t t' : Task β}
    (at_ : tasks[i]? = some t) (going : t ≠ .finished) (going' : t' ≠ .finished) : Ended (tasks.set i t') results := by
  refine ⟨h.1, fun j => ?_⟩
  rw [h.2]
  by_cases same : i = j
  · subst same
    rw [at_, getElem?_set_of_some at_]
    simp [going, going']
  · rw [List.getElem?_set_ne same]

theorem Ended.finish {tasks : List (Task β)} {results : List (Nat × β)} (h : Ended tasks results) {i : Nat}
    {t : Task β} (at_ : tasks[i]? = some t) (going : t ≠ .finished) (b : β) :
    Ended (tasks.set i .finished) (results ++ [(i, b)]) := by
  have fresh : i ∉ results.map (·.1) := by
    rw [h.2, at_]
    simp [going]
  refine ⟨?_, fun j => ?_⟩
  · rw [List.map_append, List.nodup_append]
    refine ⟨h.1, by simp, fun j member k same => ?_⟩
    obtain rfl : k = i := by simpa using same
    exact fun equal => fresh (equal ▸ member)
  · rw [List.map_append, List.mem_append, h.2]
    by_cases same : i = j
    · subst same
      simp [getElem?_set_of_some at_]
    · simp [List.getElem?_set_ne same, Ne.symm same]

theorem Task.Step.going {i : Nat} {t t' : Task β} (h : t.Step E i w es w' t') : t ≠ .finished ∧ t' ≠ .finished := by
  cases h <;> simp

/-- **Steps keep the contract.** -/
theorem Stage.Meets.step {s s' : Stage α} (honors : E.Honors C) (sound : G.Sound w) (meets : s.Meets C post w)
    (step : Stage.Step E w s es w' s') :
    G.Sound w' ∧ G.Later w w' ∧ s'.Meets C post w' ∧ ∀ who q, .asked who q ∈ es → C.May w q := by
  cases step with
  | @task β _ _ tasks results next i t t' es at_ step =>
    obtain ⟨mid, tasks_meet, ended, given, goOn⟩ := meets
    obtain ⟨sound', later', meets', may⟩ := (tasks_meet i t at_).step honors sound step
    refine ⟨sound', later', ⟨mid, fun j u found => ?_, ended.set at_ step.going.1 step.going.2,
      fun r member => (given r member).later later', fun rs => ?_⟩, may⟩
    · by_cases same : i = j
      · subst same
        obtain rfl : t' = u := by simpa [getElem?_set_of_some at_] using found
        exact meets'
      · rw [List.getElem?_set_ne same] at found
        exact (tasks_meet j u found).later later'
    · rw [List.length_set]
      exact (goOn rs).later later'
  | @finish β _ tasks results next i b at_ =>
    obtain ⟨mid, tasks_meet, ended, given, goOn⟩ := meets
    refine ⟨sound, G.refl w, ⟨mid, fun j u found => ?_, ended.finish at_ (by simp) b, fun r member => ?_,
      fun rs => ?_⟩, by simp⟩
    · by_cases same : i = j
      · subst same
        obtain rfl : .finished = u := by simpa [getElem?_set_of_some at_] using found
        exact trivial
      · rw [List.getElem?_set_ne same] at found
        exact tasks_meet j u found
    · rcases List.mem_append.1 member with present | new
      · exact given r present
      · obtain rfl : r = (i, b) := by simpa using new
        exact tasks_meet i _ at_
    · rw [List.length_set]
      exact goOn rs
  | @join β _ tasks results next finished =>
    obtain ⟨mid, tasks_meet, ended, given, goOn⟩ := meets
    refine ⟨sound, G.refl w, start_meets sound ?_, by simp⟩
    exact goOn results w (G.refl w) sound ⟨ended.perm_range finished, given⟩
  | others others =>
    obtain ⟨sound', later'⟩ := honors.keeps _ _ sound others
    exact ⟨sound', later', meets.later later', by simp⟩

/-- **Soundness.** Along a run the world stays sound, and only questions are put that may be put. -/
theorem Steps.meets {s s' : Stage α} (honors : E.Honors C) (h : Steps E w s es w' s') (sound : G.Sound w)
    (meets : s.Meets C post w) :
    G.Sound w' ∧ G.Later w w' ∧ s'.Meets C post w' ∧
      ∀ who q, .asked who q ∈ es → ∃ w₁, G.Later w w₁ ∧ G.Later w₁ w' ∧ G.Sound w₁ ∧ C.May w₁ q := by
  induction h with
  | refl w s => exact ⟨sound, G.refl w, meets, by simp⟩
  | @head w w₁ w' s s₁ s' es es' step _ ih =>
    obtain ⟨sound₁, later₁, meets₁, may⟩ := meets.step honors sound step
    obtain ⟨sound', later', meets', may'⟩ := ih sound₁ meets₁
    refine ⟨sound', G.trans later₁ later', meets', fun who q member => ?_⟩
    rcases List.mem_append.1 member with now | then_
    · exact ⟨w, G.refl w, G.trans later₁ later', sound, may who q now⟩
    · obtain ⟨w₂, after, before, sound₂, may₂⟩ := may' who q then_
      exact ⟨w₂, G.trans later₁ after, before, sound₂, may₂⟩

/-- A run of a plan to its end brings about what the plan ensures. -/
theorem Completes.ensures {p : Plan α} {a : α} (honors : E.Honors C) (h : Completes E p w es w' a)
    (sound : G.Sound w) (ensures : p.Ensures C post w) : G.Sound w' ∧ G.Later w w' ∧ post w' a := by
  obtain ⟨sound', later', meets', -⟩ := Steps.meets honors h sound (start_meets sound ensures)
  exact ⟨sound', later', meets' w' (G.refl w') sound'⟩

end Running

end ChainIndex
