import ChainIndex.Proofs.Running.Task

/-!
# Contracts

What one strand may rely on while others act is said by a *contract* over the states of the world.
A state is `Sound` or not, and one state may be `Later` than another. Everybody keeps sound states
sound and only moves on to later ones. A contract says which questions may be put (`May`) and what an
answer tells of the state in which it is given (`Told`).

`s.Ensures C post w` says of a strand that begins at `w` or later: it only puts questions that it may
put, and what it gives satisfies `post` in every later state. The claim quantifies over all that
others do between a question and its answer, so it composes by `ensures_bind` alone, and nothing has
to be said about schedules.

A property that a strand brings about has to survive what others do later. It does so here by
construction: a postcondition is claimed of all later states.
-/

namespace ChainIndex

/-- The states of a world that many write to: which are sound, and which are later than others. -/
structure Growth (σ : Type) where
  Sound : σ → Prop
  Later : σ → σ → Prop
  refl : ∀ w, Later w w
  trans : ∀ {w w' w''}, Later w w' → Later w' w'' → Later w w''

/-- From the state on, in whatever sound state. -/
def Growth.Always {σ : Type} (G : Growth σ) (w : σ) (P : σ → Prop) : Prop := ∀ w₁, G.Later w w₁ → G.Sound w₁ → P w₁

theorem Growth.Always.later {σ : Type} {G : Growth σ} {P : σ → Prop} {w w' : σ} (h : G.Always w P)
    (later : G.Later w w') : G.Always w' P := by
  intro w₁ later'
  exact h w₁ (G.trans later later')

/-- Which questions may be put to a world, and what its answers tell. -/
structure Contract {σ : Type} (G : Growth σ) where
  May : σ → Query → Prop
  Told : σ → (q : Query) → q.Answer → Prop
  may_later : ∀ {w w' q}, G.Later w w' → May w q → May w' q
  /-- What is stored stays stored. -/
  stored_later : ∀ {w w' b n}, G.Later w w' → Told w (.call (.insert b)) (.ok n) → Told w' (.call (.insert b)) (.ok n)

namespace Contract

variable {σ : Type} {G : Growth σ} (C : Contract G)

/-- Whether a question may be put; several batches are several questions. -/
def Allows (w : σ) : Query → Prop
  | .insertAll batches => ∀ b ∈ batches, C.May w (.call (.insert b))
  | q => C.May w q

/-- What an answer tells; of several batches all are stored, or one was refused. -/
def Tells (w : σ) : (q : Query) → q.Answer → Prop
  | .insertAll batches, .ok _ => ∀ b ∈ batches, ∃ n, C.Told w (.call (.insert b)) (.ok n)
  | .insertAll batches, .error e => ∃ b ∈ batches, C.Told w (.call (.insert b)) (.error e)
  | q, a => C.Told w q a

theorem allows_of_plain {w : σ} {q : Query} (plain : q.isPlain) : C.Allows w q ↔ C.May w q := by
  cases q with
  | insertAll => simp [Query.isPlain] at plain
  | _ => rfl

theorem tells_of_plain {w : σ} {q : Query} (plain : q.isPlain) (a : q.Answer) : C.Tells w q a ↔ C.Told w q a := by
  cases q with
  | insertAll => simp [Query.isPlain] at plain
  | _ => rfl

end Contract

namespace Strand

variable {σ α β : Type} {G : Growth σ}

/-- Begun at `w` or later, the strand only puts questions that it may put, and gives what satisfies
`post` from then on. -/
def Ensures (C : Contract G) (post : σ → α → Prop) : Strand α → σ → Prop
  | .done a, w => G.Always w (post · a)
  | .ask q next, w => G.Always w fun w₁ => C.Allows w₁ q ∧
      ∀ a, G.Always w₁ fun w₂ => C.Tells w₂ q a → (next a).Ensures C post w₂

variable {C : Contract G} {post : σ → α → Prop} {s : Strand α} {w w' : σ}

theorem Ensures.later (h : s.Ensures C post w) (later : G.Later w w') : s.Ensures C post w' := by
  cases s with
  | done a =>
    intro w₁ later'
    exact h w₁ (G.trans later later')
  | ask q next =>
    intro w₁ later'
    exact h w₁ (G.trans later later')

/-- It is enough to look at sound states. -/
theorem ensures_of_sound (h : G.Always w fun w₁ => s.Ensures C post w₁) : s.Ensures C post w := by
  cases s with
  | done a =>
    intro w₁ later sound
    exact h w₁ later sound w₁ (G.refl w₁) sound
  | ask q next =>
    intro w₁ later sound
    exact h w₁ later sound w₁ (G.refl w₁) sound

theorem ensures_pure {a : α} (h : G.Always w (post · a)) : (pure a : Strand α).Ensures C post w := h

/-- What holds from then on, weakened where it is known to. -/
theorem Ensures.mono {post' : σ → α → Prop} (h : s.Ensures C post w)
    (imp : ∀ a, G.Always w fun w₁ => G.Always w₁ (post · a) → post' w₁ a) : s.Ensures C post' w := by
  induction s generalizing w with
  | done a =>
    intro w₁ later sound
    exact imp a w₁ later sound (Growth.Always.later h later)
  | ask q next ih =>
    intro w₁ later sound
    obtain ⟨may, goOn⟩ := h w₁ later sound
    refine ⟨may, fun a w₂ later' sound' told => ?_⟩
    apply ih a (goOn a w₂ later' sound' told)
    intro b
    exact (imp b).later (G.trans later later')

/-- **Sequence.** What follows begins at a later state, with what came before. -/
theorem Ensures.bind {post' : σ → β → Prop} {f : α → Strand β} (h : s.Ensures C post w)
    (goOn : ∀ a, G.Always w fun w₁ => G.Always w₁ (post · a) → (f a).Ensures C post' w₁) :
    (s >>= f).Ensures C post' w := by
  change (s.bind f).Ensures C post' w
  induction s generalizing w with
  | done a =>
    apply ensures_of_sound
    intro w₁ later sound
    exact goOn a w₁ later sound (Growth.Always.later h later)
  | ask q next ih =>
    intro w₁ later sound
    obtain ⟨may, rest⟩ := h w₁ later sound
    refine ⟨may, fun a w₂ later' sound' told => ?_⟩
    apply ih a (rest a w₂ later' sound' told)
    intro b
    exact (goOn b).later (G.trans later later')

theorem Ensures.map {post' : σ → β → Prop} {f : α → β} (h : s.Ensures C post w)
    (imp : ∀ a, G.Always w fun w₁ => post w₁ a → post' w₁ (f a)) : (f <$> s).Ensures C post' w := by
  apply h.bind
  intro a w₁ later _ holds w₂ later' sound'
  exact imp a w₂ (G.trans later later') sound' (holds w₂ later' sound')

/-- A question, and what follows its answer. -/
theorem ensures_query {post' : σ → β → Prop} {q : Query} {f : q.Answer → Strand β}
    (may : G.Always w (C.Allows · q)) (goOn : ∀ a, G.Always w fun w₁ => C.Tells w₁ q a → (f a).Ensures C post' w₁) :
    (query q >>= f).Ensures C post' w := by
  intro w₁ later sound
  refine ⟨may w₁ later sound, fun a w₂ later' => ?_⟩
  exact goOn a w₂ (G.trans later later')

end Strand

end ChainIndex
