import ChainIndex.Proofs.Contract.Strand
import ChainIndex.Proofs.Running.Crew

/-!
# Contracts kept by tasks

An environment honours a contract if, as long as only questions are put that may be put, it keeps
sound states sound, moves on only to later states, and answers as the contract says.

**Steps keep the contract** (`Meets.step`). A task that meets its contract puts only questions that it
may put, leaves the world sound, and meets its contract after the step.

**Crews** (`Crew.Reaches.meets`). So in whatever a crew comes to, the world is sound and every task
meets the contract of its job; the jobs may have different contracts over the same states. What it
comes to from there is later (`Crew.Leads.meets`).
-/

namespace ChainIndex.Running

variable {σ ι β : Type} {G : Growth σ}

/-- Others keep sound states sound. -/
def Environment.Keeps (E : Environment σ) (G : Growth σ) : Prop :=
  ∀ w w', G.Sound w → E.others w w' → G.Sound w' ∧ G.Later w w'

/-- Questions that may be put are answered as the contract says, and nothing unsound is done. -/
structure Environment.Honors (E : Environment σ) (C : Contract G) : Prop where
  keeps : E.Keeps G
  answers : ∀ {w q a w'}, G.Sound w → C.May w q → E.answers w q a w' → G.Sound w' ∧ G.Later w w' ∧ C.Told w' q a
  works : ∀ {w q w'}, G.Sound w → C.May w q → E.works w q w' → G.Sound w' ∧ G.Later w w'

/-- The task only puts questions that it may put, and gives what satisfies `post`. -/
def Task.Meets (C : Contract G) (post : σ → β → Prop) (w : σ) : Task β → Prop
  | .ready s => s.Ensures C post w
  | .asking q next => q.isPlain ∧ (Strand.ask q next).Ensures C post w
  | .storing parts next =>
    (∀ p ∈ parts, C.May w (.call (.insert p.batch)) ∧
      ∀ n, p.progress = .stored n → C.Told w (.call (.insert p.batch)) (.ok n)) ∧
    ∀ r, G.Always w fun w₁ => C.Tells w₁ (.insertAll (parts.map (·.batch))) r → (next r).Ensures C post w₁
  | .finished => True

namespace Task.Meets

variable {E : Environment σ} {C : Contract G} {post : σ → β → Prop} {w w' : σ} {t t' : Task β} {i : Nat}
  {es : List Event}

theorem later (h : t.Meets C post w) (later : G.Later w w') : t.Meets C post w' := by
  cases t with
  | ready s => exact Strand.Ensures.later h later
  | asking q next => exact ⟨h.1, Strand.Ensures.later h.2 later⟩
  | storing parts next =>
    refine ⟨fun p member => ?_, fun r => (h.2 r).later later⟩
    obtain ⟨may, told⟩ := h.1 p member
    exact ⟨C.may_later later may, fun n stored => C.stored_later later (told n stored)⟩
  | finished => exact h

theorem map_set_batch {parts : List Part} {k : Nat} {b : Storage.Batch} {g g' : Progress}
    (at_ : parts[k]? = some ⟨b, g⟩) : (parts.set k ⟨b, g'⟩).map (·.batch) = parts.map (·.batch) := by
  rw [List.map_set]
  have : (parts.map (·.batch))[k]? = some b := by simp [at_]
  obtain ⟨bound, rfl⟩ := List.getElem?_eq_some_iff.1 this
  exact List.set_getElem_self bound

/-- **Steps keep the contract.** -/
theorem step (honors : E.Honors C) (sound : G.Sound w) (meets : t.Meets C post w) (step : t.Step E i w es w' t') :
    G.Sound w' ∧ G.Later w w' ∧ t'.Meets C post w' ∧ ∀ who q, .asked who q ∈ es → C.May w q := by
  cases step with
  | @ask q next plain =>
    refine ⟨sound, G.refl w, ⟨plain, meets⟩, fun who q' member => ?_⟩
    obtain ⟨-, rfl⟩ : who = ⟨i, none⟩ ∧ q' = q := by simpa using member
    exact (C.allows_of_plain plain).1 (meets w (G.refl w) sound).1
  | @work _ q next works =>
    obtain ⟨plain, ensures⟩ := meets
    obtain ⟨sound', later'⟩ := honors.works sound ((C.allows_of_plain plain).1 (ensures w (G.refl w) sound).1) works
    exact ⟨sound', later', ⟨plain, ensures.later later'⟩, by simp⟩
  | @answer _ q next a answers =>
    obtain ⟨plain, ensures⟩ := meets
    obtain ⟨may, goOn⟩ := ensures w (G.refl w) sound
    obtain ⟨sound', later', told⟩ := honors.answers sound ((C.allows_of_plain plain).1 may) answers
    exact ⟨sound', later', goOn a w' later' sound' ((C.tells_of_plain plain a).2 told), by simp⟩
  | @part batches next =>
    obtain ⟨may, -⟩ := meets w (G.refl w) sound
    refine ⟨sound, G.refl w, ⟨fun p member => ?_, fun r w₁ later' sound' told => ?_⟩, by simp⟩
    · obtain ⟨b, present, rfl⟩ := List.mem_map.1 member
      exact ⟨may b present, fun n stored => by simp at stored⟩
    · have same : (batches.map (Part.mk · .waiting)).map (·.batch) = batches := by
        rw [List.map_map]
        exact List.map_id batches
      rw [same] at told
      exact (meets w (G.refl w) sound).2 r w₁ later' sound' told
  | @begin parts next k b at_ =>
    obtain ⟨parts_ok, goOn⟩ := meets
    have may := (parts_ok _ (List.mem_of_getElem? at_)).1
    refine ⟨sound, G.refl w, ⟨fun p member => ?_, ?_⟩, fun who q member => ?_⟩
    · rcases List.mem_or_eq_of_mem_set member with present | rfl
      · exact parts_ok p present
      · exact ⟨may, fun n stored => by simp at stored⟩
    · rw [map_set_batch at_]
      exact goOn
    · obtain ⟨-, rfl⟩ : who = ⟨i, some k⟩ ∧ q = .call (.insert b) := by simpa using member
      exact may
  | @workPart _ parts next k b at_ works =>
    obtain ⟨sound', later'⟩ := honors.works sound (meets.1 _ (List.mem_of_getElem? at_)).1 works
    exact ⟨sound', later', Meets.later (t := .storing parts next) meets later', by simp⟩
  | @store _ parts next k b n at_ answers =>
    have may := (meets.1 _ (List.mem_of_getElem? at_)).1
    obtain ⟨sound', later', told⟩ := honors.answers sound may answers
    obtain ⟨parts_ok, goOn⟩ := Meets.later (t := .storing parts next) meets later'
    refine ⟨sound', later', ⟨fun p member => ?_, ?_⟩, by simp⟩
    · rcases List.mem_or_eq_of_mem_set member with present | rfl
      · exact parts_ok p present
      · refine ⟨C.may_later later' may, fun n' stored => ?_⟩
        obtain rfl : n = n' := by simpa using stored
        exact told
    · rw [map_set_batch at_]
      exact goOn
  | @fail _ parts next k b e at_ answers =>
    have may := (meets.1 _ (List.mem_of_getElem? at_)).1
    obtain ⟨sound', later', told⟩ := honors.answers sound may answers
    refine ⟨sound', later', meets.2 (.error e) w' later' sound' ?_, fun who q member => ?_⟩
    · exact ⟨b, List.mem_map.2 ⟨_, List.mem_of_getElem? at_, rfl⟩, told⟩
    · simp [drops] at member
  | @join parts next stored =>
    refine ⟨sound, G.refl w, meets.2 _ w (G.refl w) sound ?_, by simp⟩
    intro b member
    obtain ⟨p, present, rfl⟩ := List.mem_map.1 member
    obtain ⟨n, hn⟩ := stored p present
    exact ⟨n, (meets.1 p present).2 n hn⟩

end Task.Meets

section

variable {E : Environment σ} {C : ι → Contract G} {job : ι → Strand β} {post : ι → σ → β → Prop} {w w' : σ}
  {crew crew' : Crew ι β}

/-- Whoever makes a step, all tasks meet their contracts afterwards. -/
theorem Crew.Step.meets (keeps : E.Keeps G) (honors : ∀ k, E.Honors (C k))
    (ensures : ∀ k w, G.Sound w → (job k).Ensures (C k) (post k) w) (sound : G.Sound w)
    (meets : ∀ k t, (k, t) ∈ crew → t.Meets (C k) (post k) w) (h : Crew.Step E job w crew w' crew') :
    G.Sound w' ∧ G.Later w w' ∧ ∀ k t, (k, t) ∈ crew' → t.Meets (C k) (post k) w' := by
  cases h with
  | begin k =>
    refine ⟨sound, G.refl w, fun k' t member => ?_⟩
    rcases List.mem_append.1 member with present | new
    · exact meets k' t present
    · obtain ⟨rfl, rfl⟩ : k' = k ∧ t = .ready (job k) := by simpa using new
      exact ensures k' _ sound
  | @task _ _ i k t t' es at_ step =>
    obtain ⟨sound', later', meets', -⟩ := (meets k t (List.mem_of_getElem? at_)).step (honors k) sound step
    refine ⟨sound', later', fun k' t₁ member => ?_⟩
    rcases List.mem_or_eq_of_mem_set member with present | same
    · exact (meets k' t₁ present).later later'
    · obtain ⟨rfl, rfl⟩ : k' = k ∧ t₁ = t' := by simpa using same
      exact meets'
  | @finish _ i k b at_ =>
    refine ⟨sound, G.refl w, fun k' t member => ?_⟩
    rcases List.mem_or_eq_of_mem_set member with present | same
    · exact meets k' t present
    · obtain ⟨rfl, rfl⟩ : k' = k ∧ t = .finished := by simpa using same
      exact trivial
  | others others =>
    obtain ⟨sound', later'⟩ := keeps _ _ sound others
    exact ⟨sound', later', fun k t member => (meets k t member).later later'⟩

/-- From where all tasks meet their contracts, a crew only comes to later states, and there they do so too. -/
theorem Crew.Leads.meets (keeps : E.Keeps G) (honors : ∀ k, E.Honors (C k))
    (ensures : ∀ k w, G.Sound w → (job k).Ensures (C k) (post k) w) (sound : G.Sound w)
    (meets : ∀ k t, (k, t) ∈ crew → t.Meets (C k) (post k) w) (h : Crew.Leads E job w crew w' crew') :
    G.Sound w' ∧ G.Later w w' ∧ ∀ k t, (k, t) ∈ crew' → t.Meets (C k) (post k) w' := by
  induction h with
  | here => exact ⟨sound, G.refl w, meets⟩
  | step _ step ih =>
    obtain ⟨sound₁, later₁, meets₁⟩ := ih
    obtain ⟨sound₂, later₂, meets₂⟩ := step.meets keeps honors ensures sound₁ meets₁
    exact ⟨sound₂, G.trans later₁ later₂, meets₂⟩

/-- **Crews.** Whatever a crew comes to is sound, and every task meets the contract of its job. -/
theorem Crew.Reaches.meets (keeps : E.Keeps G) (honors : ∀ k, E.Honors (C k))
    (ensures : ∀ k w, G.Sound w → (job k).Ensures (C k) (post k) w) (sound : G.Sound w)
    (h : Crew.Reaches E job w w' crew) : G.Sound w' ∧ ∀ k t, (k, t) ∈ crew → t.Meets (C k) (post k) w' :=
  have ⟨sound', _, meets⟩ := h.leads.meets keeps honors ensures sound (by simp)
  ⟨sound', meets⟩

end

end ChainIndex.Running
