import ChainIndex.Program.Plan

/-!
# Tasks

A strand that runs among others is a *task*. It asks a question, waits for the answer, and goes on;
between the two everyone else may act. A question that stores several batches is not put as a whole:
each batch is a call of its own, the calls are issued in any order and answered in any order, and the
first failure drops those that are still open.

What the world does is left open. An `Environment` says which answers it may give and what they
change, what an open question may do to the world before it is answered, and what others do
meanwhile. A failed call, a call that was half done and a foreign writer are all of this kind.

Each step tells what could be seen of it: a call issued, answered or dropped, a strand at its end.
-/

namespace ChainIndex

/-- Whether the question goes to the node or to storage. -/
def Query.isCall : Query → Bool
  | .request _ | .call _ => true
  | _ => false

/-- Whether the question is put as a whole. -/
def Query.isPlain : Query → Bool
  | .insertAll _ => false
  | _ => true

namespace Running

/-- What a world may do, over its states. -/
structure Environment (σ : Type) where
  /-- It may answer a question, and how that changes it. -/
  answers : σ → (q : Query) → q.Answer → σ → Prop
  /-- What a question may do to it that is not answered yet. -/
  works : σ → Query → σ → Prop
  /-- What others may do to it. -/
  others : σ → σ → Prop

/-- Who puts a question: a strand by its place, or one of the batches that it stores. -/
structure Asker where
  strand : Nat
  batch : Option Nat
  deriving DecidableEq, Repr

/-- What can be seen of a run. -/
inductive Event : Type 1 where
  | asked (who : Asker) (q : Query)
  | answered (who : Asker) (q : Query) (a : q.Answer)
  /-- Nobody waits for the answer any longer. -/
  | dropped (who : Asker) (q : Query)
  | ended {β : Type} (strand : Nat) (result : β)

/-- How far the storing of one batch among several has come. -/
inductive Progress where
  | waiting
  | begun
  | stored (rows : UInt64)

/-- One of the batches that a strand stores side by side. -/
structure Part where
  batch : Storage.Batch
  progress : Progress

namespace Part

/-- The call that stores the batch. -/
def query (p : Part) : Query := .call (.insert p.batch)

def isBegun (p : Part) : Bool :=
  match p.progress with
  | .begun => true
  | _ => false

/-- The rows that were new, as far as they are known. -/
def rows (p : Part) : UInt64 :=
  match p.progress with
  | .stored n => n
  | _ => 0

end Part

/-- A strand on its way. -/
inductive Task (β : Type) where
  | ready (s : Strand β)
  /-- Its question is not answered yet. -/
  | asking (q : Query) (next : q.Answer → Strand β)
  /-- It stores batches side by side. -/
  | storing (parts : List Part) (next : Except Storage.Error UInt64 → Strand β)
  | finished

/-- The drops of those batches that are open, but for one, which is answered. -/
def drops (strand answered : Nat) (parts : List Part) : List Event :=
  parts.zipIdx.filterMap fun (p, k) =>
    if p.isBegun ∧ k ≠ answered then some (.dropped ⟨strand, some k⟩ p.query) else none

variable {σ β : Type}

/-- A step of the task at a place, with what can be seen of it. -/
inductive Task.Step (E : Environment σ) (i : Nat) : σ → Task β → List Event → σ → Task β → Prop where
  | ask {w : σ} {q : Query} {next : q.Answer → Strand β} (plain : q.isPlain) :
      Step E i w (.ready (.ask q next)) [.asked ⟨i, none⟩ q] w (.asking q next)
  | work {w w' : σ} {q : Query} {next : q.Answer → Strand β} (works : E.works w q w') :
      Step E i w (.asking q next) [] w' (.asking q next)
  | answer {w w' : σ} {q : Query} {next : q.Answer → Strand β} {a : q.Answer} (answers : E.answers w q a w') :
      Step E i w (.asking q next) [.answered ⟨i, none⟩ q a] w' (.ready (next a))
  | part {w : σ} {batches : List Storage.Batch} {next : Except Storage.Error UInt64 → Strand β} :
      Step E i w (.ready (.ask (.insertAll batches) next)) [] w (.storing (batches.map (⟨·, .waiting⟩)) next)
  | begin {w : σ} {parts : List Part} {next : Except Storage.Error UInt64 → Strand β} {k : Nat} {b : Storage.Batch}
      (at_ : parts[k]? = some ⟨b, .waiting⟩) :
      Step E i w (.storing parts next) [.asked ⟨i, some k⟩ (.call (.insert b))] w
        (.storing (parts.set k ⟨b, .begun⟩) next)
  | workPart {w w' : σ} {parts : List Part} {next : Except Storage.Error UInt64 → Strand β} {k : Nat}
      {b : Storage.Batch} (at_ : parts[k]? = some ⟨b, .begun⟩) (works : E.works w (.call (.insert b)) w') :
      Step E i w (.storing parts next) [] w' (.storing parts next)
  | store {w w' : σ} {parts : List Part} {next : Except Storage.Error UInt64 → Strand β} {k : Nat}
      {b : Storage.Batch} {n : UInt64} (at_ : parts[k]? = some ⟨b, .begun⟩)
      (answers : E.answers w (.call (.insert b)) (.ok n) w') :
      Step E i w (.storing parts next) [.answered ⟨i, some k⟩ (.call (.insert b)) (.ok n)] w'
        (.storing (parts.set k ⟨b, .stored n⟩) next)
  | fail {w w' : σ} {parts : List Part} {next : Except Storage.Error UInt64 → Strand β} {k : Nat}
      {b : Storage.Batch} {e : Storage.Error} (at_ : parts[k]? = some ⟨b, .begun⟩)
      (answers : E.answers w (.call (.insert b)) (.error e) w') :
      Step E i w (.storing parts next) (.answered ⟨i, some k⟩ (.call (.insert b)) (.error e) :: drops i k parts) w'
        (.ready (next (.error e)))
  | join {w : σ} {parts : List Part} {next : Except Storage.Error UInt64 → Strand β}
      (stored : ∀ p ∈ parts, ∃ n, p.progress = .stored n) :
      Step E i w (.storing parts next) [] w (.ready (next (.ok (parts.foldl (fun n p => n + p.rows) 0))))

end Running

end ChainIndex
