import ChainIndex.Program.Query

/-!
# Strands

A strand asks one question after another, and what it asks next hangs on the answers so far.
-/

namespace ChainIndex

inductive Strand (α : Type) where
  | done (a : α)
  | ask (q : Query) (next : q.Answer → Strand α)

namespace Strand

variable {α β γ : Type}

/-- Goes on with what a strand gives. -/
def bind : Strand α → (α → Strand β) → Strand β
  | .done a, f => f a
  | .ask q next, f => .ask q fun answer => (next answer).bind f

instance : Monad Strand where
  pure := .done
  bind := bind

@[simp] theorem bind_done (a : α) (f : α → Strand β) : (Strand.done a).bind f = f a := rfl

@[simp] theorem bind_ask (q : Query) (next : q.Answer → Strand α) (f : α → Strand β) :
    (Strand.ask q next).bind f = .ask q fun answer => (next answer).bind f := rfl

theorem bind_pure (s : Strand α) : s.bind .done = s := by
  induction s with
  | done a => rfl
  | ask q next ih => simp [ih]

theorem bind_assoc (s : Strand α) (f : α → Strand β) (g : β → Strand γ) :
    (s.bind f).bind g = s.bind fun a => (f a).bind g := by
  induction s with
  | done a => rfl
  | ask q next ih => simp [ih]

instance : LawfulMonad Strand :=
  LawfulMonad.mk' Strand bind_pure (fun _ _ => rfl) bind_assoc

/-- Asks one question. -/
def query (q : Query) : Strand q.Answer := .ask q .done

def request (r : Node.Request) : Strand r.Answer := query (.request r)

def call (c : Storage.Call) : Strand c.Answer := query (.call c)

/-- Looks into an address book or writes into it. -/
def book (ref : BookRef) (step : BookStep) : Strand step.Answer := query (.book ref step)

def token : Strand Unit := query .token

def tryToken : Strand Bool := query .tryToken

def sleep (d : Duration) : Strand Unit := query (.sleep d)

def pause (d : Duration) : Strand Unit := query (.pause d)

def stopped : Strand Bool := query .stopped

end Strand

end ChainIndex
