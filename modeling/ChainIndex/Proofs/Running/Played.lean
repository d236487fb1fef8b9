import ChainIndex.Proofs.Running.Crew
import ChainIndex.Proofs.Running.Stage

/-!
# Runs that can be computed

A rule answers every question and says what becomes of the world. Under a rule a plan is played strand by
strand, each to its end before the next is begun, and what it gives is a matter of computation. If a world may
answer as the rule does, what is played is a run in that world (`exists_completes_play`): one schedule out of
many, and a way to show that something can happen.
-/

namespace ChainIndex

/-- An answer to every question, and what becomes of the world. -/
abbrev Rule (σ : Type) := σ → (q : Query) → q.Answer × σ

namespace Rule

variable {σ α β : Type}

/-- Stores batches one after another, up to the first that is refused. -/
def storeAll (rule : Rule σ) : List Storage.Batch → (stored : UInt64) → σ → Except Storage.Error UInt64 × σ
  | [], stored, w => (.ok stored, w)
  | b :: batches, stored, w =>
    match rule w (.call (.insert b)) with
    | ((.ok n : Except Storage.Error UInt64), w') => storeAll rule batches (stored + n) w'
    | (.error e, w') => (.error e, w')

/-- Plays a strand to its end. -/
def play (rule : Rule σ) : Strand β → σ → β × σ
  | .done b, w => (b, w)
  | .ask q next, w =>
    match q with
    | .insertAll batches =>
      let (r, w') := rule.storeAll batches 0 w
      play rule (next r) w'
    | q =>
      let (a, w') := rule w q
      play rule (next a) w'

/-- Plays strands one after another, and numbers what they give. -/
def playEach (rule : Rule σ) : List (Strand β) → (place : Nat) → σ → List (Nat × β) × σ
  | [], _, w => ([], w)
  | s :: strands, place, w =>
    let (b, w') := rule.play s w
    let (bs, w'') := playEach rule strands (place + 1) w'
    ((place, b) :: bs, w'')

/-- Plays a plan to its end. -/
def playPlan (rule : Rule σ) : Plan α → σ → α × σ
  | .done a, w => (a, w)
  | .run s next, w =>
    let (b, w') := rule.play s w
    playPlan rule (next b) w'
  | .fork strands next, w =>
    let (bs, w') := rule.playEach strands 0 w
    playPlan rule (next bs) w'

end Rule

namespace Running

variable {σ α β : Type} {E : Environment σ} {rule : Rule σ}

/-- The world may answer as the rule does. -/
def Environment.Follows (E : Environment σ) (rule : Rule σ) : Prop :=
  ∀ w q, E.answers w q (rule w q).1 (rule w q).2

/-- The batches that are left are stored one after another. -/
theorem exists_steps_storeAll (follows : E.Follows rule) {i : Nat} (next : Except Storage.Error UInt64 → Strand β)
    (batches : List Storage.Batch) {before : List Part} (stored : ∀ p ∈ before, ∃ n, p.progress = .stored n) (w : σ) :
    let played := rule.storeAll batches (before.foldl (fun n p => n + p.rows) 0) w
    ∃ es, Task.Steps E i w (.storing (before ++ batches.map (⟨·, .waiting⟩)) next) es played.2
      (.ready (next played.1)) := by
  induction batches generalizing before w with
  | nil =>
    rw [List.map_nil, List.append_nil]
    exact ⟨_, .single (.join stored)⟩
  | cons b batches ih =>
    have waiting : (before ++ ⟨b, .waiting⟩ :: batches.map (Part.mk · .waiting))[before.length]? = some ⟨b, .waiting⟩ :=
      by simp
    have begun : (before ++ ⟨b, .begun⟩ :: batches.map (Part.mk · .waiting))[before.length]? = some ⟨b, .begun⟩ :=
      by simp
    have begin_ : Task.Step E i w (.storing _ next) _ w _ := .begin waiting
    rw [List.set_append_right _ _ (Nat.le_refl _), Nat.sub_self, List.set_cons_zero] at begin_
    have answers := follows w (.call (.insert b))
    rw [List.map_cons, Rule.storeAll]
    cases h : rule w (.call (.insert b)) with
    | mk r w' =>
    rw [h] at answers
    cases r with
    | error e => exact ⟨_, .head begin_ (.single (.fail begun answers))⟩
    | ok n =>
      have store : Task.Step E i w (.storing _ next) _ w' _ := .store begun answers
      rw [List.set_append_right _ _ (Nat.le_refl _), Nat.sub_self, List.set_cons_zero] at store
      have stored' : ∀ p ∈ before ++ [⟨b, .stored n⟩], ∃ n, p.progress = .stored n := by
        intro p member
        rcases List.mem_append.1 member with old | new
        · exact stored p old
        · obtain rfl := List.mem_singleton.1 new
          exact ⟨n, rfl⟩
      obtain ⟨es, rest⟩ := ih stored' w'
      rw [List.foldl_append, List.append_assoc] at rest
      exact ⟨_, .head begin_ (.head store rest)⟩

/-- A strand is played in a run of its task. -/
theorem exists_steps_play (follows : E.Follows rule) {i : Nat} (s : Strand β) (w : σ) :
    ∃ es, Task.Steps E i w (.ready s) es (rule.play s w).2 (.ready (.done (rule.play s w).1)) := by
  induction s generalizing w with
  | done b => exact ⟨[], .refl _ _⟩
  | ask q next ih =>
    by_cases plain : q.isPlain
    · have played : rule.play (.ask q next) w = rule.play (next (rule w q).1) (rule w q).2 := by
        cases q with
        | insertAll batches => cases plain
        | _ => rfl
      obtain ⟨es, rest⟩ := ih (rule w q).1 (rule w q).2
      rw [played]
      exact ⟨_, .head (.ask plain) (.head (.answer (follows w q)) rest)⟩
    · cases q with
      | insertAll batches =>
        have nothing : ∀ p ∈ ([] : List Part), ∃ n, p.progress = .stored n := by simp
        obtain ⟨es, stored⟩ := exists_steps_storeAll (i := i) follows next batches nothing w
        obtain ⟨es', rest⟩ := ih (rule.storeAll batches 0 w).1 (rule.storeAll batches 0 w).2
        exact ⟨_, .head .part (stored.trans rest)⟩
      | _ => exact absurd rfl plain

/-- The steps of one task, while the rest of its crew waits. -/
theorem Task.Steps.leads {ι : Type} {job : ι → Strand β} {crew : Crew ι β} {i : Nat} {k : ι} {t t' : Task β} {w w' : σ}
    {es : List Event} (h : Task.Steps E i w t es w' t') (at_ : crew[i]? = some (k, t)) :
    Crew.Leads E job w crew w' (crew.set i (k, t')) := by
  induction h generalizing crew with
  | refl =>
    obtain ⟨bound, same⟩ := List.getElem?_eq_some_iff.1 at_
    rw [← same, List.set_getElem_self]
    exact .here
  | head step _ ih =>
    have first : Crew.Leads E job _ crew _ (crew.set i (k, _)) := .step .here (.task at_ step)
    simpa only [List.set_set] using first.trans (ih (getElem?_set_of_some at_))

/-- A member of a crew may be played to its end. -/
theorem Crew.leads_play {ι : Type} {job : ι → Strand β} (follows : E.Follows rule) {crew : Crew ι β} {i : Nat} {k : ι}
    {s : Strand β} (at_ : crew[i]? = some (k, .ready s)) (w : σ) :
    Crew.Leads E job w crew (rule.play s w).2 (crew.set i (k, .ready (.done (rule.play s w).1))) := by
  obtain ⟨es, run⟩ := exists_steps_play (i := i) follows s w
  exact run.leads at_

/-- A strand may join a crew and be played to its end. -/
theorem Crew.leads_begin_play {ι : Type} {job : ι → Strand β} (follows : E.Follows rule) (crew : Crew ι β) (k : ι)
    (w : σ) :
    Crew.Leads E job w crew (rule.play (job k) w).2 (crew ++ [(k, .ready (.done (rule.play (job k) w).1))]) := by
  have begun : Crew.Leads E job w crew w (crew ++ [(k, .ready (job k))]) := .step .here (.begin k)
  have placed : (crew ++ [(k, Task.ready (job k))])[crew.length]? = some (k, .ready (job k)) := by simp
  have played := begun.trans (Crew.leads_play follows placed w)
  rwa [List.set_append_right _ _ (Nat.le_refl _), Nat.sub_self, List.set_cons_zero] at played

/-- Strands are played one after another while the others wait. -/
theorem exists_steps_playEach (follows : E.Follows rule) (next : List (Nat × β) → Plan α) (strands : List (Strand β))
    (place : Nat) (results : List (Nat × β)) (w : σ) :
    let played := rule.playEach strands place w
    ∃ es, Steps E w (.going (List.replicate place .finished ++ strands.map .ready) results next) es played.2
      (.going (List.replicate (place + strands.length) .finished) (results ++ played.1) next) := by
  induction strands generalizing place results w with
  | nil => exact ⟨[], by simpa [Rule.playEach] using .refl _ _⟩
  | cons s strands ih =>
    let b := (rule.play s w).1
    let w₁ := (rule.play s w).2
    let tasks : List (Task β) := List.replicate place .finished ++ (s :: strands).map .ready
    have ready : tasks[place]? = some (.ready s) := by simp [tasks]
    obtain ⟨es, run⟩ := exists_steps_play (i := place) follows s w
    have placed : (tasks.set place (.ready (.done b))).set place .finished =
        List.replicate (place + 1) .finished ++ strands.map .ready := by
      rw [List.set_set, List.set_append_right _ _ (by simp)]
      simp [List.replicate_succ']
    have finish : Steps E w₁ (.going (tasks.set place (.ready (.done b))) results next) [.ended place b] w₁
        (.going ((tasks.set place (.ready (.done b))).set place .finished) (results ++ [(place, b)]) next) :=
      .single (.finish (getElem?_set_of_some ready))
    obtain ⟨es', rest⟩ := ih (place + 1) (results ++ [(place, b)]) w₁
    rw [← placed, List.append_assoc, Nat.add_assoc, Nat.add_comm 1] at rest
    exact ⟨_, (run.lift ready).trans (finish.trans rest)⟩

/-- **What is played is a run.** -/
theorem exists_completes_play (follows : E.Follows rule) (p : Plan α) (w : σ) :
    ∃ es, Completes E p w es (rule.playPlan p w).2 (rule.playPlan p w).1 := by
  induction p generalizing w with
  | done a => exact ⟨[], .refl _ _⟩
  | run s next ih =>
    obtain ⟨es, alone⟩ : ∃ es, Steps E w (start (.run s next)) es _ _ := exists_steps_playEach follows _ [s] 0 [] w
    obtain ⟨es', rest⟩ := ih (rule.play s w).1 (rule.play s w).2
    exact ⟨_, alone.trans (.head (.join (by simp)) rest)⟩
  | fork strands next ih =>
    obtain ⟨es, each⟩ := exists_steps_playEach follows next strands 0 [] w
    obtain ⟨es', rest⟩ := ih (rule.playEach strands 0 w).1 (rule.playEach strands 0 w).2
    exact ⟨_, each.trans (.head (.join (by simp)) rest)⟩

end Running

/-! ## Runs one after another -/

namespace Running

variable {σ α β : Type} {E : Environment σ} {w w' w₁ : σ} {es es' : List Event}

theorem Stage.Step.bind {s s' : Stage α} (f : α → Plan β) (step : Stage.Step E w s es w' s') :
    Stage.Step E w (s.bind f) es w' (s'.bind f) := by
  cases step with
  | task at_ step => exact .task at_ step
  | finish at_ => exact .finish at_
  | join finished =>
    rw [← start_bind]
    exact .join finished
  | others others => exact .others others

theorem Steps.bind {s s' : Stage α} (f : α → Plan β) (h : Steps E w s es w' s') :
    Steps E w (s.bind f) es w' (s'.bind f) := by
  induction h with
  | refl => exact .refl _ _
  | head step _ ih => exact .head (step.bind f) ih

/-- What follows a plan goes on where the plan ended. -/
theorem Completes.bind {p : Plan α} {f : α → Plan β} {a : α} {c : Stage β} (first : Completes E p w es w₁ a)
    (rest : Steps E w₁ (start (f a)) es' w' c) : Steps E w (start (p >>= f)) (es ++ es') w' c := by
  have followed := Steps.bind f first
  rw [← start_bind] at followed
  exact followed.trans rest

end Running

/-! ## Playing plans piece by piece -/

namespace Rule

variable {σ α β : Type} {rule : Rule σ} {w w' w₁ w₂ : σ} {a : α} {b : β}

/-- Under the rule the plan gives this and leaves the world like that. -/
def Gives (rule : Rule σ) (p : Plan α) (w : σ) (a : α) (w' : σ) : Prop := rule.playPlan p w = (a, w')

/-- What a rule gives, a world that follows it may give. -/
theorem Gives.exists_completes {E : Running.Environment σ} {p : Plan α} (follows : E.Follows rule)
    (gives : rule.Gives p w a w') : ∃ es, Running.Completes E p w es w' a := by
  obtain ⟨es, run⟩ := Running.exists_completes_play follows p w
  rw [show rule.playPlan p w = (a, w') from gives] at run
  exact ⟨es, run⟩

theorem Gives.pure (a : α) (w : σ) : rule.Gives (Pure.pure a) w a w := rfl

theorem Gives.bind {p : Plan α} {f : α → Plan β} (first : rule.Gives p w a w₁) (second : rule.Gives (f a) w₁ b w₂) :
    rule.Gives (p >>= f) w b w₂ := by
  change rule.playPlan (p.bind f) w = (b, w₂)
  induction p generalizing w with
  | done a' =>
    obtain ⟨rfl, rfl⟩ := Prod.mk.inj first
    exact second
  | run s next ih => exact ih _ first
  | fork strands next ih => exact ih _ first

theorem Gives.alone {s : Strand α} (played : (rule.play s w).1 = a) :
    rule.Gives (Plan.alone s) w a (rule.play s w).2 :=
  Prod.ext played rfl

/-- A call, and what follows its answer. -/
theorem Gives.call {c : Storage.Call} {r : c.Answer} {f : c.Answer → Strand α} (reply : rule w (.call c) = (r, w₁))
    (rest : rule.Gives (.alone (f r)) w₁ a w₂) : rule.Gives (.alone (Strand.call c >>= f)) w a w₂ := by
  change rule.play (f (rule w (.call c)).1) (rule w (.call c)).2 = (a, w₂)
  rw [reply]
  exact rest

theorem Gives.unordered {strands : List (Strand α)} {as : List α}
    (played : (rule.playEach strands 0 w).1.map (·.2) = as) :
    rule.Gives (Plan.unordered strands) w as (rule.playEach strands 0 w).2 :=
  Prod.ext played rfl

theorem map_fst_playEach (rule : Rule σ) (strands : List (Strand β)) (place : Nat) (w : σ) :
    (rule.playEach strands place w).1.map (·.1) = List.range' place strands.length := by
  induction strands generalizing place w with
  | nil => rfl
  | cons s strands ih =>
    rw [playEach, List.map_cons, ih, List.length_cons, List.range'_succ]

/-- Strands that are played one after another are in their places. -/
theorem Gives.joined {strands : List (Strand α)} {as : List α}
    (played : (rule.playEach strands 0 w).1.map (·.2) = as) :
    rule.Gives (Plan.joined strands) w as (rule.playEach strands 0 w).2 := by
  have places : (rule.playEach strands 0 w).1.Pairwise fun a b => (decide (a.1 ≤ b.1) : Bool) := by
    have ordered : ((rule.playEach strands 0 w).1.map (·.1)).Pairwise (· ≤ ·) := by
      rw [map_fst_playEach]
      exact List.pairwise_le_range'
    exact (List.pairwise_map.1 ordered).imp fun le => by simpa using le
  refine Prod.ext ?_ rfl
  change Plan.byPlace _ = as
  rw [Plan.byPlace, List.mergeSort_of_pairwise places, played]

end Rule

end ChainIndex
