import ChainIndex.Proofs.Contract.Asks
import Mathlib.Data.List.Nodup

/-!
# Strands side by side

Strands that run side by side all come to their ends before anything else begins, whatever they give:
none is given up because another failed. What they gave can be seen at their ends, and each gave what it
would have given alone, had it been told what it was told here (`Came`).

**The invariant** (`Heard`). A strand on its way still has to hear something before it gives a result: what
it hears from now on, put after what it was told so far, is what its beginning had to hear. A step of a task
moves one answer from the one to the other and leaves all other strands as they are.
-/

namespace ChainIndex

/-- A question with an answer to it. -/
abbrev Telling : Type := (q : Query) × q.Answer

/-- The strand gives `b` if it is told this, one answer after another. What it is told of batches that it
stores side by side is left out. -/
inductive Strand.Hears {β : Type} : Strand β → List Telling → β → Prop where
  | done (b : β) : Hears (.done b) [] b
  | ask {q : Query} {next : q.Answer → Strand β} {a : q.Answer} {told : List Telling} {b : β} (plain : q.isPlain)
      (rest : Hears (next a) told b) : Hears (.ask q next) (⟨q, a⟩ :: told) b
  | store {batches : List Storage.Batch} {next : Except Storage.Error UInt64 → Strand β}
      {r : Except Storage.Error UInt64} {told : List Telling} {b : β} (rest : Hears (next r) told b) :
      Hears (.ask (.insertAll batches) next) told b

namespace Running

variable {σ α β : Type} {E : Environment σ} {w w' : σ} {es seen : List Event}

/-! ## What a strand is told -/

/-- What an event tells the strand at a place. -/
def Event.told? (i : Nat) : Event → Option Telling
  | .answered ⟨j, none⟩ q a => if j = i then some ⟨q, a⟩ else none
  | _ => none

/-- What the strand at a place is told, one answer after another. -/
def toldTo (i : Nat) (es : List Event) : List Telling := es.filterMap (Event.told? i)

@[simp] theorem toldTo_append (i : Nat) (es es' : List Event) : toldTo i (es ++ es') = toldTo i es ++ toldTo i es' :=
  List.filterMap_append

theorem toldTo_drops (i j k : Nat) (parts : List Part) : toldTo i (drops j k parts) = [] := by
  refine List.filterMap_eq_nil_iff.2 fun event member => ?_
  simp only [drops, List.mem_filterMap, Prod.exists] at member
  obtain ⟨p, n, -, same⟩ := member
  split at same
  · obtain rfl := Option.some.inj same
    rfl
  · cases same

/-- What the task still has to hear is all that is missing for its strand, after what the strand was told. -/
def Task.Owes (s : Strand β) (told : List Telling) : Task β → Prop
  | .ready rest => ∀ later b, rest.Hears later b → s.Hears (told ++ later) b
  | .asking q next => ∀ a later b, (next a).Hears later b → s.Hears (told ++ ⟨q, a⟩ :: later) b
  | .storing _ next => ∀ r later b, (next r).Hears later b → s.Hears (told ++ later) b
  | .finished => True

namespace Task.Step

variable {i : Nat} {t t' : Task β} (step : t.Step E i w es w' t')

include step

/-- What a task is told is told to no other. -/
theorem toldTo_of_ne {j : Nat} (other : j ≠ i) : toldTo j es = [] := by
  cases step with
  | answer answers => simp [toldTo, Event.told?, Ne.symm other]
  | fail at_ answers =>
    rw [← List.singleton_append, toldTo_append, toldTo_drops, List.append_nil]
    rfl
  | _ => rfl

/-- **Step by step** what a task is told is what it has no longer to hear. -/
theorem owes {s : Strand β} {told : List Telling} (owes : t.Owes s told) : t'.Owes s (told ++ toldTo i es) := by
  cases step with
  | @answer _ q next a answers =>
    have one : toldTo i [.answered ⟨i, none⟩ q a] = [⟨q, a⟩] := by simp [toldTo, Event.told?]
    intro later b hears
    rw [one, List.append_assoc]
    exact owes a later b hears
  | @fail _ parts next k b e at_ answers =>
    have nothing : toldTo i (.answered ⟨i, some k⟩ (.call (.insert b)) (.error e) :: drops i k parts) = [] := by
      rw [← List.singleton_append, toldTo_append, toldTo_drops, List.append_nil]
      rfl
    rw [nothing, List.append_nil]
    exact owes (.error e)
  | ask plain =>
    show Owes s (told ++ []) (.asking _ _)
    rw [List.append_nil]
    exact fun a later b hears => owes (⟨_, a⟩ :: later) b (.ask plain hears)
  | part =>
    show Owes s (told ++ []) (.storing _ _)
    rw [List.append_nil]
    exact fun r later b hears => owes later b (.store hears)
  | begin at_ =>
    show Owes s (told ++ []) (.storing _ _)
    rw [List.append_nil]
    exact owes
  | store at_ answers =>
    show Owes s (told ++ []) (.storing _ _)
    rw [List.append_nil]
    exact owes
  | join stored =>
    show Owes s (told ++ []) (.ready _)
    rw [List.append_nil]
    exact owes _
  | work works => simpa [toldTo] using owes
  | workPart at_ works => simpa [toldTo] using owes

/-- A task does not end by a step of its own. -/
theorem not_ended {γ : Type} {j : Nat} {b : γ} : .ended j b ∉ es := by
  cases step with
  | fail at_ answers => simp [drops]
  | _ => simp

end Task.Step

/-! ## Side by side -/

/-- Strands side by side as far as they have come, after what was seen of them. -/
structure Heard (strands : List (Strand β)) (seen : List Event) (tasks : List (Task β)) (results : List (Nat × β)) :
    Prop where
  length : tasks.length = strands.length
  ended : Ended tasks results
  given : ∀ {i b}, (i, b) ∈ results ↔ .ended i b ∈ seen
  owes : ∀ {i s} {t : Task β}, strands[i]? = some s → tasks[i]? = some t → t.Owes s (toldTo i seen)
  hears : ∀ {i} {s : Strand β} {b}, strands[i]? = some s → (i, b) ∈ results → s.Hears (toldTo i seen) b

namespace Heard

variable {strands : List (Strand β)} {tasks : List (Task β)} {results : List (Nat × β)} {i : Nat}

theorem start (strands : List (Strand β)) : Heard strands [] (strands.map .ready) [] where
  length := List.length_map _
  ended := ⟨by simp, fun i => by simp [List.getElem?_map]⟩
  given := by simp
  owes at_ at' := by
    rw [List.getElem?_map, at_] at at'
    obtain rfl := Option.some.inj at'
    exact fun _ _ hears => hears
  hears _ member := by simp at member

theorem task (h : Heard strands seen tasks results) {t t' : Task β} (at_ : tasks[i]? = some t)
    (step : t.Step E i w es w' t') : Heard strands (seen ++ es) (tasks.set i t') results where
  length := by rw [List.length_set, h.length]
  ended := h.ended.set at_ step.going.1 step.going.2
  given := by
    intro j b
    rw [h.given, List.mem_append, or_iff_left step.not_ended]
  owes := by
    intro j s u found found'
    rw [toldTo_append]
    by_cases same : j = i
    · subst same
      rw [getElem?_set_of_some at_] at found'
      obtain rfl := Option.some.inj found'
      exact step.owes (h.owes found at_)
    · rw [List.getElem?_set_ne (Ne.symm same)] at found'
      rw [step.toldTo_of_ne same, List.append_nil]
      exact h.owes found found'
  hears := by
    intro j s b found member
    have other : j ≠ i := by
      rintro rfl
      have finished := (h.ended.2 j).1 (List.mem_map_of_mem member)
      rw [at_] at finished
      exact step.going.1 (Option.some.inj finished)
    rw [toldTo_append, step.toldTo_of_ne other, List.append_nil]
    exact h.hears found member

theorem finish (h : Heard strands seen tasks results) {b : β} (at_ : tasks[i]? = some (.ready (.done b))) :
    Heard strands (seen ++ [.ended i b]) (tasks.set i .finished) (results ++ [(i, b)]) := by
  have told : ∀ j, toldTo j (seen ++ [.ended i b]) = toldTo j seen := fun j => by
    rw [toldTo_append]
    exact List.append_nil _
  refine ⟨by rw [List.length_set, h.length], h.ended.finish at_ (by simp) b, ?_, ?_, ?_⟩
  · intro j c
    rw [List.mem_append, List.mem_append, h.given]
    simp
  · intro j s u found found'
    rw [told]
    by_cases same : j = i
    · subst same
      rw [getElem?_set_of_some at_] at found'
      obtain rfl := Option.some.inj found'
      trivial
    · rw [List.getElem?_set_ne (Ne.symm same)] at found'
      exact h.owes found found'
  · intro j s c found member
    rw [told]
    rcases List.mem_append.1 member with member | member
    · exact h.hears found member
    · obtain ⟨rfl, rfl⟩ := Prod.mk.inj (List.mem_singleton.1 member)
      simpa using h.owes found at_ [] c (.done c)

end Heard

/-- A run of strands side by side has not ended all of them, or has seen each end before it went on. -/
theorem steps_going {strands : List (Strand β)} {tasks : List (Task β)} {results : List (Nat × β)}
    {next : List (Nat × β) → Plan α} {s : Stage α} (heard : Heard strands seen tasks results)
    (h : Steps E w (.going tasks results next) es w' s) :
    (∃ tasks' results', s = .going tasks' results' next) ∨
      ∃ tasks' results' es₁ es₂ w₁, Heard strands (seen ++ es₁) tasks' results' ∧ (∀ t ∈ tasks', t = .finished) ∧
        Steps E w₁ (Running.start (next results')) es₂ w' s ∧ es = es₁ ++ es₂ := by
  generalize begin_ : Stage.going tasks results next = s₀ at h
  induction h generalizing tasks results seen with
  | refl => exact .inl ⟨tasks, results, begin_.symm⟩
  | @head w w₁ w' s₀ s₁ s es es' step later ih =>
    subst begin_
    cases step with
    | task at_ step =>
      rcases ih (heard.task at_ step) rfl with going | ⟨tasks', results', es₁, es₂, w₂, heard', finished, rest, rfl⟩
      · exact .inl going
      · exact .inr ⟨tasks', results', es ++ es₁, es₂, w₂, by rwa [← List.append_assoc], finished, rest, by simp⟩
    | @finish _ _ _ _ _ i b at_ =>
      rcases ih (heard.finish at_) rfl with going | ⟨tasks', results', es₁, es₂, w₂, heard', finished, rest, rfl⟩
      · exact .inl going
      · exact .inr ⟨tasks', results', .ended i b :: es₁, es₂, w₂, by simpa using heard', finished, rest, rfl⟩
    | join finished => exact .inr ⟨tasks, results, [], es', _, by simpa using heard, finished, later, rfl⟩
    | others others => exact ih heard rfl

/-- Strands side by side that have all come to their ends, and what each gave. -/
structure Came (strands : List (Strand β)) (es : List Event) (rs : List β) : Prop where
  length : rs.length = strands.length
  ended : ∀ {i b}, .ended i b ∈ es ↔ rs[i]? = some b
  hears : ∀ {i} {s : Strand β} {b}, strands[i]? = some s → rs[i]? = some b → s.Hears (toldTo i es) b

/-- Put in order by their places, the results stand at them. -/
theorem getElem?_byPlace {results : List (Nat × β)} {count i : Nat} {b : β}
    (perm : (results.map (·.1)).Perm (List.range count)) :
    (Plan.byPlace results)[i]? = some b ↔ (i, b) ∈ results := by
  have given : (Growth.any Unit).Given (fun i _ b => (i, b) ∈ results) count () results :=
    ⟨perm, fun r member _ _ _ => member⟩
  refine ⟨fun at_ => given.byPlace at_ () trivial trivial, fun member => ?_⟩
  have inside : i < count := List.mem_range.1 (perm.subset (List.mem_map_of_mem member))
  have at_ := List.getElem?_eq_getElem (given.length_byPlace.symm ▸ inside)
  have once : (results.map (·.1)).Nodup := perm.nodup_iff.2 List.nodup_range
  rw [at_, Option.some_inj]
  have same := List.inj_on_of_nodup_map once (given.byPlace at_ () trivial trivial) member rfl
  exact (Prod.mk.inj same).2

theorem Heard.came {strands : List (Strand β)} {tasks : List (Task β)} {results : List (Nat × β)}
    (h : Heard strands es tasks results) (finished : ∀ t ∈ tasks, t = .finished) :
    Came strands es (Plan.byPlace results) := by
  have perm : (results.map (·.1)).Perm (List.range strands.length) := h.length ▸ h.ended.perm_range finished
  refine ⟨?_, ?_, fun at_ at' => h.hears at_ ((getElem?_byPlace perm).1 at')⟩
  · simpa [Plan.byPlace] using perm.length_eq
  · intro i b
    rw [getElem?_byPlace perm, h.given]

/-- **All come to their ends.** When strands side by side are done, each has ended with its result. -/
theorem Completes.came_of_joined {strands : List (Strand β)} {rs : List β}
    (h : Completes E (Plan.joined strands) w es w' rs) : Came strands es rs := by
  rcases steps_going (Heard.start strands) h with
    ⟨_, _, same⟩ | ⟨tasks, results, es₁, es₂, w₁, heard, finished, rest, rfl⟩
  · cases same
  · obtain ⟨rfl, same⟩ := steps_done rest
    obtain rfl : rs = Plan.byPlace results := Stage.done.inj same
    rw [List.append_nil]
    exact heard.came finished

/-- In whatever order they end, no result is lost and none is added. -/
theorem Completes.came_of_unordered {strands : List (Strand β)} {rs : List β}
    (h : Completes E (Plan.unordered strands) w es w' rs) : ∃ rs', rs.Perm rs' ∧ Came strands es rs' := by
  rcases steps_going (Heard.start strands) h with
    ⟨_, _, same⟩ | ⟨tasks, results, es₁, es₂, w₁, heard, finished, rest, rfl⟩
  · cases same
  · obtain ⟨rfl, same⟩ := steps_done rest
    obtain rfl : rs = results.map (·.2) := Stage.done.inj same
    rw [List.append_nil]
    exact ⟨Plan.byPlace results, ((List.mergeSort_perm results _).map _).symm, heard.came finished⟩

end Running

end ChainIndex
