import ChainIndex.Proofs.Running.Lived
import Mathlib.Data.List.Perm.Subperm
import Mathlib.Data.UInt

/-!
# Storing side by side, as it is seen

A strand that stores batches side by side puts each of them in a call of its own, in any order, and waits for all of
them or for the first that is refused (`Task.Ends.of_storing`). So the batches that are put are among those that it was
given, each once. If none is refused, they are all of them, and what the strand is told is the sum of what the calls
were answered.

The invariant is carried by the batches that still wait and by the counts of those that are stored: a call that is
issued takes a batch away from the former, an answer adds its count to the latter.
-/

namespace ChainIndex

/-- Neither a batch nor several are put to storage. -/
def Query.isUnstoring : Query → Bool
  | .call (.insert _) | .insertAll _ => false
  | _ => true

namespace Running

open Storage

/-! ## What is seen of it -/

/-- The batch that a call puts to storage. -/
def Event.batch? : Event → Option Batch
  | .asked _ (.call (.insert b)) => some b
  | _ => none

/-- How many rows of a batch were new. -/
def Event.count? : Event → Option UInt64
  | .answered _ (.call (.insert _)) (.ok n) => some n
  | _ => none

/-- The batches that were put to storage. -/
def inserted (es : List Event) : List Batch := es.filterMap Event.batch?

/-- What storage counted. -/
def counted (es : List Event) : List UInt64 := es.filterMap Event.count?

/-- Storage refused a batch. -/
def Refused (es : List Event) : Prop := ∃ who b e, .answered who (.call (.insert b)) (.error e) ∈ es

variable {σ α β : Type} {E : Environment σ} {es es' : List Event} {b : β}

theorem inserted_append : inserted (es ++ es') = inserted es ++ inserted es' := List.filterMap_append

theorem counted_append : counted (es ++ es') = counted es ++ counted es' := List.filterMap_append

theorem refused_append : Refused (es ++ es') ↔ Refused es ∨ Refused es' := by
  simp only [Refused, List.mem_append, exists_or]

/-- Nothing of it is about batches. -/
structure Unstoring (es : List Event) : Prop where
  inserted : inserted es = []
  counted : counted es = []
  refused : ¬Refused es

theorem unstoring_of_plain {q : Query} {a : q.Answer} (unstoring : q.isUnstoring) {who : Asker} :
    Unstoring [.asked who q, .answered who q a] := by
  refine ⟨?_, ?_, ?_⟩
  · cases q with
    | call c => cases c <;> first | rfl | cases unstoring
    | _ => rfl
  · cases q with
    | call c => cases c <;> first | rfl | cases unstoring
    | _ => rfl
  · rintro ⟨who', b, e, member⟩
    simp only [List.mem_cons, reduceCtorEq, List.not_mem_nil, or_false, false_or] at member
    cases member
    cases unstoring

theorem unstoring_nil : Unstoring [] := ⟨rfl, rfl, fun ⟨_, _, _, member⟩ => by cases member⟩

theorem unstoring_ended {i : Nat} : Unstoring [.ended i b] :=
  ⟨rfl, rfl, fun ⟨_, _, _, member⟩ => by simp at member⟩

theorem Unstoring.append (h : Unstoring es) (h' : Unstoring es') : Unstoring (es ++ es') where
  inserted := by rw [inserted_append, h.inserted, h'.inserted, List.append_nil]
  counted := by rw [counted_append, h.counted, h'.counted, List.append_nil]
  refused := by
    rw [refused_append]
    exact fun either => either.elim h.refused h'.refused

/-! ## One batch after another -/

/-- The batch of a part that waits. -/
def Part.waiting? (p : Part) : Option Batch :=
  match p.progress with
  | .waiting => some p.batch
  | _ => none

/-- The batches that wait. -/
def waiting (parts : List Part) : List Batch := parts.filterMap Part.waiting?

/-- The rows that were new, as far as they are known. -/
def known (parts : List Part) : UInt64 := (parts.map Part.rows).sum

/-- What is seen of storing these parts to the end, and what is told then. -/
def Stores (parts : List Part) (es : List Event) : Except Storage.Error UInt64 → Prop
  | .ok n => (inserted es).Perm (waiting parts) ∧ ¬Refused es ∧ n = known parts + (counted es).sum
  | .error _ => (inserted es).Subperm (waiting parts) ∧ Refused es

/-- A list with one element of it replaced. -/
theorem exists_set {parts : List Part} {k : Nat} {p : Part} (at_ : parts[k]? = some p) :
    ∃ before after, parts = before ++ p :: after ∧ ∀ p', parts.set k p' = before ++ p' :: after := by
  obtain ⟨bound, rfl⟩ := List.getElem?_eq_some_iff.1 at_
  refine ⟨parts.take k, parts.drop (k + 1), by simp, fun p' => ?_⟩
  rw [List.set_eq_take_append_cons_drop, if_pos bound]

theorem known_append_cons {before after : List Part} {p : Part} :
    known (before ++ p :: after) = p.rows + known (before ++ after) := by
  simp only [known, List.map_append, List.map_cons, List.sum_append, List.sum_cons]
  ac_rfl

theorem known_waiting {batches : List Batch} : known (batches.map (⟨·, .waiting⟩)) = 0 := by
  induction batches with
  | nil => rfl
  | cons b batches ih =>
    rw [known, List.map_cons, List.map_cons, List.sum_cons]
    exact (UInt64.zero_add _).trans ih

theorem waiting_append_cons {before after : List Part} {p : Part} :
    (waiting (before ++ p :: after)).Perm (p.waiting?.toList ++ waiting (before ++ after)) := by
  simp only [waiting, List.filterMap_append, List.filterMap_cons]
  cases p.waiting? with
  | none => exact .refl _
  | some b => exact List.perm_middle

namespace Stores

variable {parts : List Part} {k : Nat} {b : Batch} {n : UInt64} {who : Asker} {r : Except Storage.Error UInt64}

/-- A batch is put to storage. -/
theorem begin (at_ : parts[k]? = some ⟨b, .waiting⟩) (h : Stores (parts.set k ⟨b, .begun⟩) es r) :
    Stores parts (.asked who (.call (.insert b)) :: es) r := by
  obtain ⟨before, after, rfl, set⟩ := exists_set at_
  rw [set] at h
  have refused : Refused (.asked who (.call (.insert b)) :: es) ↔ Refused es := by simp [Refused]
  have put : inserted (.asked who (.call (.insert b)) :: es) = b :: inserted es := rfl
  have waits : (waiting (before ++ ⟨b, .waiting⟩ :: after)).Perm (b :: waiting (before ++ after)) :=
    waiting_append_cons
  have begun : (waiting (before ++ ⟨b, .begun⟩ :: after)).Perm (waiting (before ++ after)) := waiting_append_cons
  have left := waits.trans (begun.symm.cons b)
  cases r with
  | error e =>
    obtain ⟨among, bad⟩ := h
    refine ⟨?_, refused.2 bad⟩
    rw [put]
    exact ((List.subperm_cons b).2 among).trans left.symm.subperm
  | ok n =>
    obtain ⟨all, good, total⟩ := h
    refine ⟨?_, mt refused.1 good, ?_⟩
    · rw [put]
      exact (all.cons b).trans left.symm
    · rwa [known_append_cons] at total ⊢

/-- A batch is stored. -/
theorem store (at_ : parts[k]? = some ⟨b, .begun⟩) (h : Stores (parts.set k ⟨b, .stored n⟩) es r) :
    Stores parts (.answered who (.call (.insert b)) (.ok n) :: es) r := by
  obtain ⟨before, after, rfl, set⟩ := exists_set at_
  rw [set] at h
  have refused : Refused (.answered who (.call (.insert b)) (.ok n) :: es) ↔ Refused es := by
    refine ⟨fun ⟨who', b', e, member⟩ => ?_, fun ⟨who', b', e, member⟩ => ⟨who', b', e, .tail _ member⟩⟩
    rcases List.mem_cons.1 member with same | member
    · cases same
    · exact ⟨who', b', e, member⟩
  have begun : (waiting (before ++ ⟨b, .begun⟩ :: after)).Perm (waiting (before ++ after)) := waiting_append_cons
  have stored : (waiting (before ++ ⟨b, .stored n⟩ :: after)).Perm (waiting (before ++ after)) :=
    waiting_append_cons
  have left := begun.trans stored.symm
  cases r with
  | error e => exact ⟨h.1.trans left.symm.subperm, refused.2 h.2⟩
  | ok m =>
    obtain ⟨all, good, total⟩ := h
    refine ⟨all.trans left.symm, mt refused.1 good, ?_⟩
    have sum : (counted (.answered who (.call (.insert b)) (.ok n) :: es)).sum = n + (counted es).sum := rfl
    rw [known_append_cons] at total ⊢
    rw [total, sum]
    simp only [Part.rows]
    ac_rfl

/-- Nothing waits, and all is known. -/
theorem join (stored : ∀ p ∈ parts, ∃ n, p.progress = .stored n) :
    Stores parts [] (.ok (parts.foldl (fun n p => n + p.rows) 0)) := by
  have waits : waiting parts = [] := by
    refine List.filterMap_eq_nil_iff.2 fun p member => ?_
    obtain ⟨n, done⟩ := stored p member
    simp [Part.waiting?, done]
  have sums : ∀ (parts : List Part) (n : UInt64), parts.foldl (fun n p => n + p.rows) n = n + known parts := by
    intro parts
    induction parts with
    | nil => intro n; simp [known]
    | cons p parts ih =>
      intro n
      rw [List.foldl_cons, ih, known, known, List.map_cons, List.sum_cons, UInt64.add_assoc]
  refine ⟨?_, ?_, ?_⟩
  · rw [waits]
    exact .nil
  · rintro ⟨who, b, e, member⟩
    cases member
  · rw [sums]
    simp [counted]

/-- A batch is refused, and those that are open are dropped. -/
theorem fail {i : Nat} {e : Storage.Error} :
    Stores parts (.answered ⟨i, some k⟩ (.call (.insert b)) (.error e) :: drops i k parts) (.error e) := by
  have nothing : inserted (drops i k parts) = [] := by
    refine List.filterMap_eq_nil_iff.2 fun event member => ?_
    simp only [drops, List.mem_filterMap, Prod.exists] at member
    obtain ⟨p, n, -, same⟩ := member
    split at same
    · cases same
      rfl
    · cases same
  refine ⟨?_, _, b, e, List.mem_cons_self⟩
  rw [← List.singleton_append, inserted_append, nothing]
  exact List.nil_subperm

end Stores

namespace Task.Ends

/-- **Storing side by side** up to what is told of it. -/
theorem of_storing {parts : List Part} {next : Except Storage.Error UInt64 → Strand β}
    (h : (Task.storing parts next).Ends E es b) :
    ∃ r storing rest, es = storing ++ rest ∧ (Task.ready (next r)).Ends E rest b ∧ Stores parts storing r := by
  generalize begin_ : Task.storing parts next = t at h
  induction h generalizing parts with
  | ended b => cases begin_
  | step step rest ih =>
    subst begin_
    cases step with
    | begin at_ =>
      obtain ⟨r, storing, later, rfl, goesOn, stores⟩ := ih rfl
      exact ⟨r, _ :: storing, later, rfl, goesOn, stores.begin at_⟩
    | workPart at_ works => exact ih rfl
    | store at_ answers =>
      obtain ⟨r, storing, later, rfl, goesOn, stores⟩ := ih rfl
      exact ⟨r, _ :: storing, later, rfl, goesOn, stores.store at_⟩
    | fail at_ answers => exact ⟨_, _, _, rfl, rest, .fail⟩
    | join stored => exact ⟨_, [], _, rfl, rest, .join stored⟩

/-- What is seen of storing batches, what is told of it, and what follows. -/
theorem of_insertAll {batches : List Batch} {next : Except Storage.Error UInt64 → Strand β}
    (h : (Task.ready (.ask (.insertAll batches) next)).Ends E es b) :
    ∃ r storing rest, es = storing ++ rest ∧ (Task.ready (next r)).Ends E rest b ∧
      match r with
      | .ok n => (inserted storing).Perm batches ∧ ¬Refused storing ∧ n = (counted storing).sum
      | .error _ => (inserted storing).Subperm batches ∧ Refused storing := by
  have all : waiting (batches.map (⟨·, .waiting⟩)) = batches := by
    rw [waiting, List.filterMap_map]
    exact List.filterMap_some
  have nothing : known (batches.map (⟨·, .waiting⟩)) = 0 := known_waiting
  cases h with
  | step step rest =>
    cases step with
    | ask plain => cases plain
    | part =>
      obtain ⟨r, storing, later, rfl, goesOn, stores⟩ := rest.of_storing
      refine ⟨r, storing, later, rfl, goesOn, ?_⟩
      cases r with
      | error e =>
        rw [Stores, all] at stores
        exact stores
      | ok n =>
        rw [Stores, all, nothing, UInt64.zero_add] at stores
        exact stores

/-- What is seen of a strand that puts no batch, and then of what follows it. -/
theorem of_bind {p : Strand α} {f : α → Strand β} (asks : p.Asks fun q => q.isPlain ∧ q.isUnstoring)
    (h : (Task.ready (p >>= f)).Ends E es b) :
    ∃ a first rest, es = first ++ rest ∧ Unstoring first ∧ (Task.ready p).Ends E (first ++ [.ended 0 a]) a ∧
      (Task.ready (f a)).Ends E rest b := by
  change (Task.ready (p.bind f)).Ends E es b at h
  induction p generalizing es with
  | done a => exact ⟨a, [], es, rfl, unstoring_nil, .ended a, h⟩
  | ask q next ih =>
    obtain ⟨⟨plain, unstoring⟩, more⟩ := asks
    obtain ⟨x, es', w, w', answers, later, rfl⟩ := h.of_ask plain
    obtain ⟨a, first, rest, rfl, quiet, begins, goesOn⟩ := ih x (more x) later
    refine ⟨a, [.asked ⟨0, none⟩ q, .answered ⟨0, none⟩ q x] ++ first, rest, rfl,
      (unstoring_of_plain unstoring).append quiet, ?_, goesOn⟩
    exact (Task.Ends.step (w := w) (.ask plain) (.step (.answer answers) begins) :)

end Task.Ends

end Running

end ChainIndex
