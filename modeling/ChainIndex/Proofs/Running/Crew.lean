import ChainIndex.Proofs.Running.Task

/-!
# Crews

A crew is an open set of tasks: at any time another strand may join it, and nobody waits for anyone.
Every interleaving of any number of operations, begun in any order, is a run of a crew.
-/

namespace ChainIndex.Running

/-- Tasks, each with the job that it does. -/
abbrev Crew (ι β : Type) := List (ι × Task β)

variable {σ ι β : Type}

/-- A step of a crew whose jobs are done by these strands. -/
inductive Crew.Step (E : Environment σ) (job : ι → Strand β) : σ → Crew ι β → σ → Crew ι β → Prop where
  | begin {w : σ} {crew : Crew ι β} (k : ι) : Step E job w crew w (crew ++ [(k, .ready (job k))])
  | task {w w' : σ} {crew : Crew ι β} {i : Nat} {k : ι} {t t' : Task β} {es : List Event}
      (at_ : crew[i]? = some (k, t)) (step : t.Step E i w es w' t') : Step E job w crew w' (crew.set i (k, t'))
  | finish {w : σ} {crew : Crew ι β} {i : Nat} {k : ι} {b : β} (at_ : crew[i]? = some (k, .ready (.done b))) :
      Step E job w crew w (crew.set i (k, .finished))
  | others {w w' : σ} {crew : Crew ι β} (others : E.others w w') : Step E job w crew w' crew

/-- What a crew that nobody belongs to yet can come to. -/
inductive Crew.Reaches (E : Environment σ) (job : ι → Strand β) (w₀ : σ) : σ → Crew ι β → Prop where
  | start : Reaches E job w₀ w₀ []
  | step {w w' : σ} {crew crew' : Crew ι β} (reached : Reaches E job w₀ w crew)
      (step : Crew.Step E job w crew w' crew') : Reaches E job w₀ w' crew'

/-- What a crew can come to from where it is. -/
inductive Crew.Leads (E : Environment σ) (job : ι → Strand β) (w : σ) (crew : Crew ι β) : σ → Crew ι β → Prop where
  | here : Leads E job w crew w crew
  | step {w₁ w₂ : σ} {crew₁ crew₂ : Crew ι β} (leads : Leads E job w crew w₁ crew₁)
      (step : Crew.Step E job w₁ crew₁ w₂ crew₂) : Leads E job w crew w₂ crew₂

section

variable {E : Environment σ} {job : ι → Strand β} {w₀ w w' w'' : σ} {crew crew' crew'' : Crew ι β}

theorem Crew.Leads.trans (h : Crew.Leads E job w crew w' crew') (h' : Crew.Leads E job w' crew' w'' crew'') :
    Crew.Leads E job w crew w'' crew'' := by
  induction h' with
  | here => exact h
  | step _ step ih => exact .step ih step

theorem Crew.Reaches.leads (h : Crew.Reaches E job w₀ w crew) : Crew.Leads E job w₀ [] w crew := by
  induction h with
  | start => exact .here
  | step _ step ih => exact .step ih step

theorem Crew.Reaches.trans (h : Crew.Reaches E job w₀ w crew) (h' : Crew.Leads E job w crew w' crew') :
    Crew.Reaches E job w₀ w' crew' := by
  induction h' with
  | here => exact h
  | step _ step ih => exact .step ih step

end

end ChainIndex.Running
