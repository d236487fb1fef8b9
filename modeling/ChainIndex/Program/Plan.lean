import ChainIndex.Program.Strand

/-!
# Plans

A plan runs strands: one alone, or several side by side. It goes on when all of them are done, and
gets what they gave in the order in which they were done, each with its place among the strands.
-/

namespace ChainIndex

inductive Plan (α : Type) : Type 1 where
  | done (a : α)
  | run {β : Type} (strand : Strand β) (next : β → Plan α)
  | fork {β : Type} (strands : List (Strand β)) (next : List (Nat × β) → Plan α)

namespace Plan

variable {α β γ : Type}

/-- Goes on with what a plan gives. -/
def bind : Plan α → (α → Plan β) → Plan β
  | .done a, f => f a
  | .run strand next, f => .run strand fun b => (next b).bind f
  | .fork strands next, f => .fork strands fun bs => (next bs).bind f

instance : Monad Plan where
  pure := .done
  bind := bind

@[simp] theorem bind_done (a : α) (f : α → Plan β) : (Plan.done a).bind f = f a := rfl

theorem bind_pure (p : Plan α) : p.bind .done = p := by
  induction p with
  | done a => rfl
  | run strand next ih => simp [bind, ih]
  | fork strands next ih => simp [bind, ih]

theorem bind_assoc (p : Plan α) (f : α → Plan β) (g : β → Plan γ) :
    (p.bind f).bind g = p.bind fun a => (f a).bind g := by
  induction p with
  | done a => rfl
  | run strand next ih => simp [bind, ih]
  | fork strands next ih => simp [bind, ih]

/-- Runs one strand. -/
def alone (strand : Strand α) : Plan α := .run strand .done

/-- Runs strands side by side and gives their results in the order in which they were done. -/
def unordered (strands : List (Strand α)) : Plan (List α) :=
  .fork strands fun results => .done (results.map (·.2))

/-- Results in the order of their places. -/
def byPlace (results : List (Nat × α)) : List α :=
  (results.mergeSort fun a b => a.1 ≤ b.1).map (·.2)

/-- Runs strands side by side and gives their results in the order of the strands. -/
def joined (strands : List (Strand α)) : Plan (List α) :=
  .fork strands fun results => .done (byPlace results)

end Plan

end ChainIndex
