import ChainIndex.Proofs.Running.Stage

/-!
# Open calls

From what can be seen of a run one can tell who waits for a call: whoever put one and got no answer yet,
and did not drop it. A stretch of a run is `Settled` if nobody waits at its end, and if what was dropped
was dropped only because another batch of the same strand could not be stored.

**A plan at its end is settled** (`Completes.settled`). Who waits is told by the stage as well, and step
by step the two agree.
-/

namespace ChainIndex.Running

/-- How many calls somebody waits for, after one more event. -/
def Event.track (who : Asker) (n : Nat) : Event → Nat
  | .asked who' q => if who' = who ∧ q.isCall then n + 1 else n
  | .answered who' q _ | .dropped who' q => if who' = who ∧ q.isCall then n - 1 else n
  | .ended .. => n

/-- How many calls somebody waits for at the end. -/
def openCalls (es : List Event) (who : Asker) : Nat := es.foldl (Event.track who) 0

def Event.isDropped : Event → Bool
  | .dropped .. => true
  | _ => false

/-- Calls are dropped only right after a batch of the same strand was refused. -/
def DropsFollowRefusal (es : List Event) : Prop :=
  ∀ pre who q post, es = pre ++ .dropped who q :: post → ∃ before k b e dropped,
    pre = before ++ .answered ⟨who.strand, some k⟩ (.call (.insert b)) (.error e) :: dropped ∧
      ∀ event ∈ dropped, event.isDropped

/-- Every call was answered, or dropped because another batch of the same strand was refused. -/
structure Settled (es : List Event) : Prop where
  closed : ∀ who, openCalls es who = 0
  dropped : DropsFollowRefusal es

variable {σ α β : Type} {E : Environment σ} {w w' : σ} {es es' : List Event} {who : Asker}

/-! ## Drops -/

theorem mem_drops {i k : Nat} {parts : List Part} {event : Event} :
    event ∈ drops i k parts ↔
      ∃ j p, parts[j]? = some p ∧ p.isBegun ∧ j ≠ k ∧ event = .dropped ⟨i, some j⟩ p.query := by
  simp only [drops, List.mem_filterMap, Prod.exists, List.mem_zipIdx_iff_getElem?]
  constructor
  · rintro ⟨p, j, at_, same⟩
    by_cases begun : p.isBegun ∧ j ≠ k
    · rw [if_pos begun] at same
      exact ⟨j, p, at_, begun.1, begun.2, (Option.some.inj same).symm⟩
    · rw [if_neg begun] at same
      cases same
  · rintro ⟨j, p, at_, begun, other, rfl⟩
    exact ⟨p, j, at_, by rw [if_pos ⟨begun, other⟩]⟩

/-- Drops do not make anyone wait. -/
theorem foldl_track_zero (dropped : ∀ event ∈ es, event.isDropped) : es.foldl (Event.track who) 0 = 0 := by
  induction es with
  | nil => rfl
  | cons event es ih =>
    cases event with
    | dropped who' q =>
      rw [List.foldl_cons, show Event.track who 0 (.dropped who' q) = 0 by simp [Event.track]]
      exact ih fun event member => dropped event (List.mem_cons_of_mem _ member)
    | _ => simp [Event.isDropped] at dropped

/-- Whoever waits for a call that is dropped waits no longer. -/
theorem foldl_track_one (dropped : ∀ event ∈ es, event.isDropped) {q : Query} (call : q.isCall)
    (member : .dropped who q ∈ es) : es.foldl (Event.track who) 1 = 0 := by
  induction es with
  | nil => simp at member
  | cons event es ih =>
    have later : ∀ event ∈ es, event.isDropped := fun event member => dropped event (List.mem_cons_of_mem _ member)
    rw [List.foldl_cons]
    rcases List.mem_cons.1 member with rfl | present
    · rw [show Event.track who 1 (.dropped who q) = 0 by simp [Event.track, call]]
      exact foldl_track_zero later
    · cases event with
      | dropped who' q' =>
        by_cases same : who' = who ∧ q'.isCall
        · rw [show Event.track who 1 (.dropped who' q') = 0 by simp [Event.track, same]]
          exact foldl_track_zero later
        · rw [show Event.track who 1 (.dropped who' q') = 1 by simp only [Event.track, if_neg same]]
          exact ih later present
      | _ => simp [Event.isDropped] at dropped

theorem foldl_track_of_unmoved (unmoved : ∀ event ∈ es, ∀ n, Event.track who n event = n) (n : Nat) :
    es.foldl (Event.track who) n = n := by
  induction es with
  | nil => rfl
  | cons event es ih =>
    rw [List.foldl_cons, unmoved event (by simp)]
    exact ih fun event member => unmoved event (List.mem_cons_of_mem _ member)

theorem isDropped_of_mem_drops {i k : Nat} {parts : List Part} {event : Event} (h : event ∈ drops i k parts) :
    event.isDropped := by
  obtain ⟨j, p, -, -, -, rfl⟩ := mem_drops.1 h
  rfl

theorem dropsFollowRefusal_of_none (h : ∀ event ∈ es, event.isDropped = false) : DropsFollowRefusal es := by
  rintro pre who q post rfl
  have := h (.dropped who q) (by simp)
  simp [Event.isDropped] at this

theorem DropsFollowRefusal.append (h : DropsFollowRefusal es) (h' : DropsFollowRefusal es') :
    DropsFollowRefusal (es ++ es') := by
  intro pre who q post same
  rcases List.append_eq_append_iff.1 same with ⟨more, rfl, rfl⟩ | ⟨more, rfl, rest⟩
  · obtain ⟨before, k, b, e, dropped, rfl, only⟩ := h' more who q post rfl
    exact ⟨es ++ before, k, b, e, dropped, by rw [List.append_assoc], only⟩
  · cases more with
    | nil =>
      obtain ⟨before, k, b, e, dropped, impossible, -⟩ := h' [] who q post rest.symm
      simp at impossible
    | cons event more =>
      obtain ⟨rfl, rfl⟩ := List.cons.inj rest
      exact h pre who q more rfl

/-! ## What the stages tell -/

/-- Whether the strand, or one of the batches that it stores, waits for a call. -/
def Task.isOpen : Task β → Option Nat → Bool
  | .asking q _, none => q.isCall
  | .storing parts _, some k => parts[k]?.any (·.isBegun)
  | _, _ => false

@[simp] theorem Task.isOpen_ready (s : Strand β) (batch : Option Nat) : (Task.ready s).isOpen batch = false := rfl

@[simp] theorem Task.isOpen_finished (batch : Option Nat) : (Task.finished : Task β).isOpen batch = false := rfl

def Stage.isOpen (who : Asker) : Stage α → Bool
  | .done _ => false
  | .going tasks _ _ => tasks[who.strand]?.any (·.isOpen who.batch)

namespace Task.Step

variable {i : Nat} {t t' : Task β} (step : t.Step E i w es w' t')

include step

/-- What a task does is of no concern to those of another strand. -/
theorem track_of_ne (other : who.strand ≠ i) (n : Nat) : es.foldl (Event.track who) n = n := by
  have ne : ∀ batch, (⟨i, batch⟩ : Asker) ≠ who := fun batch same => other (same ▸ rfl)
  cases step with
  | ask plain => simp [Event.track, ne]
  | answer answers => simp [Event.track, ne]
  | begin at_ => simp [Event.track, ne]
  | store at_ answers => simp [Event.track, ne]
  | fail at_ answers =>
    rename_i parts next k b e
    have drops : ∀ event ∈ drops i k parts, ∀ n, Event.track who n event = n := by
      intro event member n
      obtain ⟨j, p, -, -, -, rfl⟩ := mem_drops.1 member
      simp [Event.track, ne]
    refine foldl_track_of_unmoved (fun event member => ?_) n
    rcases List.mem_cons.1 member with rfl | member
    · simp [Event.track, ne]
    · exact drops event member
  | _ => rfl

/-- **Step by step** the events tell who waits. -/
theorem track (batch : Option Nat) :
    es.foldl (Event.track ⟨i, batch⟩) (t.isOpen batch).toNat = (t'.isOpen batch).toNat := by
  cases step with
  | @ask q next plain =>
    cases batch with
    | none => cases call : q.isCall <;> simp [Event.track, isOpen, call]
    | some k => simp [Event.track, isOpen]
  | work works => rfl
  | @answer _ q next a answers =>
    cases batch with
    | none => cases call : q.isCall <;> simp [Event.track, isOpen, call]
    | some k => simp [Event.track, isOpen]
  | @part batches next =>
    cases batch with
    | none => rfl
    | some k => cases at_ : batches[k]? <;> simp [isOpen, at_, Part.isBegun]
  | @begin parts next k b at_ =>
    cases batch with
    | none => simp [Event.track, isOpen]
    | some j =>
      by_cases same : k = j
      · subst same
        simp [Event.track, isOpen, at_, getElem?_set_of_some at_, Part.isBegun, Query.isCall]
      · simp [Event.track, isOpen, same]
  | workPart at_ works => rfl
  | @store _ parts next k b n at_ answers =>
    cases batch with
    | none => simp [Event.track, isOpen]
    | some j =>
      by_cases same : k = j
      · subst same
        simp [Event.track, isOpen, at_, getElem?_set_of_some at_, Part.isBegun, Query.isCall]
      · simp [Event.track, isOpen, same]
  | @fail _ parts next k b e at_ answers =>
    have dropped : ∀ event ∈ drops i k parts, event.isDropped := fun event => isDropped_of_mem_drops
    rw [List.foldl_cons]
    cases batch with
    | none => simpa [Event.track, isOpen] using foldl_track_zero dropped
    | some j =>
      by_cases same : k = j
      · subst same
        simpa [Event.track, isOpen, at_, Part.isBegun, Query.isCall] using foldl_track_zero dropped
      · have before : Event.track ⟨i, some j⟩ (isOpen (.storing parts next) (some j)).toNat
            (.answered ⟨i, some k⟩ (.call (.insert b)) (.error e)) = (parts[j]?.any (·.isBegun)).toNat := by
          simp [Event.track, isOpen, same]
        rw [before]
        cases begun : parts[j]?.any (·.isBegun) with
        | false => exact foldl_track_zero dropped
        | true =>
          obtain ⟨p, at', begun⟩ := (Option.any_eq_true ..).1 begun
          exact foldl_track_one dropped rfl (mem_drops.2 ⟨j, p, at', begun, Ne.symm same, rfl⟩)
  | @join parts next stored =>
    cases batch with
    | none => rfl
    | some k =>
      cases at_ : parts[k]? with
      | none => simp [isOpen, at_]
      | some p =>
        obtain ⟨n, progress⟩ := stored p (List.mem_of_getElem? at_)
        simp [isOpen, at_, Part.isBegun, progress]

theorem dropsFollowRefusal : DropsFollowRefusal es := by
  cases step with
  | fail at_ answers =>
    rename_i parts next k b e
    intro pre who q post same
    cases pre with
    | nil => simp at same
    | cons event pre =>
      obtain ⟨rfl, rest⟩ := List.cons.inj same
      have member : ∀ event ∈ pre ++ .dropped who q :: post, event ∈ drops i k parts := fun event present =>
        rest ▸ present
      obtain ⟨j, p, -, -, -, here⟩ := mem_drops.1 (member (.dropped who q) (by simp))
      cases here
      exact ⟨[], k, b, e, pre, rfl, fun event present => isDropped_of_mem_drops (member event (by simp [present]))⟩
  | _ => exact dropsFollowRefusal_of_none (by simp [Event.isDropped])

end Task.Step

theorem isOpen_start (p : Plan α) (who : Asker) : (start p).isOpen who = false := by
  cases p with
  | done a => rfl
  | run strand next => cases at_ : who.strand <;> simp [start, Stage.isOpen, at_]
  | fork strands next => cases at_ : strands[who.strand]? <;> simp [start, Stage.isOpen, at_]

/-- **Step by step** the events tell who waits. -/
theorem Stage.Step.track {s s' : Stage α} (step : Stage.Step E w s es w' s') (who : Asker) :
    es.foldl (Event.track who) (s.isOpen who).toNat = (s'.isOpen who).toNat := by
  cases step with
  | @task _ _ _ tasks results next i t t' _ at_ step =>
    by_cases same : who.strand = i
    · obtain ⟨strand, batch⟩ := who
      subst same
      simpa [isOpen, at_, getElem?_set_of_some at_] using step.track batch
    · rw [step.track_of_ne same]
      simp [isOpen, List.getElem?_set_ne (Ne.symm same)]
  | @finish _ _ tasks results next i b at_ =>
    by_cases same : who.strand = i
    · simp [isOpen, Event.track, same, at_, getElem?_set_of_some at_]
    · simp [isOpen, Event.track, List.getElem?_set_ne (Ne.symm same)]
  | @join _ _ tasks results next finished =>
    rw [isOpen_start]
    cases at_ : tasks[who.strand]? with
    | none => simp [isOpen, at_]
    | some t =>
      obtain rfl := finished t (List.mem_of_getElem? at_)
      simp [isOpen, at_]
  | others others => rfl

theorem Stage.Step.dropsFollowRefusal {s s' : Stage α} (step : Stage.Step E w s es w' s') : DropsFollowRefusal es := by
  cases step with
  | task at_ step => exact step.dropsFollowRefusal
  | _ => exact dropsFollowRefusal_of_none (by simp [Event.isDropped])

theorem Steps.track {s s' : Stage α} (h : Steps E w s es w' s') (who : Asker) :
    es.foldl (Event.track who) (s.isOpen who).toNat = (s'.isOpen who).toNat := by
  induction h with
  | refl => rfl
  | head step _ ih => rw [List.foldl_append, step.track, ih]

theorem Steps.dropsFollowRefusal {s s' : Stage α} (h : Steps E w s es w' s') : DropsFollowRefusal es := by
  induction h with
  | refl => exact dropsFollowRefusal_of_none (by simp)
  | head step _ ih => exact step.dropsFollowRefusal.append ih

/-- **A plan at its end is settled.** -/
theorem Completes.settled {p : Plan α} {a : α} (h : Completes E p w es w' a) : Settled es where
  closed who := by
    have := Steps.track h who
    rwa [isOpen_start] at this
  dropped := Steps.dropsFollowRefusal h

end ChainIndex.Running
