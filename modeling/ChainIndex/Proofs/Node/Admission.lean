import ChainIndex.Proofs.Node.Paced
import ChainIndex.Proofs.Node.Turnstile
import ChainIndex.Proofs.RateLimit.Budget
import ChainIndex.Proofs.Running.Alone
import ChainIndex.Proofs.Running.Calls

/-!
# No request without its token

Any number of callers send their requests through one turnstile: each runs a plan that is paced, and all strands of all
callers, the limiter's ticks and its closing interleave in any way. Nothing is said of the node and of storage, which
may answer in any way.

A step of a fleet is a move of one place at the turnstile, or no move at all (`Fleet.Step.moves`). So the account of the
turnstile is kept along every run (`Fleet.Reaches.account`).

**Requests are one to one with tokens** (`requests_paced`): at every place a token is taken, then its request is sent,
then the next token is taken. Every token that the limiter granted to a place has had its request, but for one that the
place holds or waits for. So there were never more requests than the bucket held and the ticks due so far put back.
Who does not want to wait is turned away only by an empty bucket, and takes and sends nothing.
-/

namespace ChainIndex

open Running RateLimit

variable {σ α β : Type}

/-! ## Standing -/

/-- Whether the next question is a request. -/
def Strand.sends : Strand α → Bool
  | .ask q _ => q.isRequest
  | .done _ => false

theorem Strand.Paced.sends {s : Strand α} {holding : Bool} (h : s.Paced holding) : s.sends = holding := by
  cases s with
  | done a => exact Eq.symm h
  | ask q next => exact h.1.symm

namespace Running

def Task.standing : Task β → Standing
  | .ready s => if s.sends then .holding else .idle
  | .asking .token _ => .awaiting
  | _ => .idle

def Stage.standing (i : Nat) : Stage α → Standing
  | .done _ => .idle
  | .going tasks _ _ => (tasks[i]?.map (·.standing)).getD .idle

/-- How the strand at a place stands towards the turnstile; one that is not there stands idle. -/
def Fleet.standing (fleet : Fleet) (p : Place) : Standing :=
  (fleet[p.caller]?.map (·.stage.standing p.strand)).getD .idle

theorem Task.standing_ready {s : Strand β} {holding : Bool} (h : s.Paced holding) :
    (Task.ready s).standing = if holding then .holding else .idle := by
  rw [standing, h.sends]

def Task.Paced : Task β → Prop
  | .ready s => ∃ holding, s.Paced holding
  | .asking q next => ∀ a, (next a).Paced (q.brings a)
  | .storing _ next => ∀ r, (next r).Paced false
  | .finished => True

def Stage.Paced : Stage α → Prop
  | .done _ => True
  | .going tasks _ next => (∀ t ∈ tasks, t.Paced) ∧ ∀ results, (next results).Paced

def Fleet.Paced (fleet : Fleet) : Prop := ∀ c ∈ fleet, c.stage.Paced

/-! ## Turnstiles in the world -/

/-- How a turnstile answers, and the world what has nothing to do with tokens. -/
inductive Turnstile.Answers (E : Environment σ) (c : Nat) :
    σ × Turnstile → (q : Query) → q.Answer → σ × Turnstile → Prop where
  | token {w : σ} {u : Turnstile} (granted : u.passed.count c < u.shared.granted.count c) :
    Answers E c (w, u) .token () (w, u.pass c)
  | tryToken {w : σ} {u : Turnstile} : Answers E c (w, u) .tryToken (u.allow c).1 (w, (u.allow c).2)
  | other {w w' : σ} {u : Turnstile} {q : Query} {a : q.Answer} (waits : q ≠ .token) (tries : q ≠ .tryToken)
    (answers : E.answers w q a w') : Answers E c (w, u) q a (w', u)

/-- Who waits for a token asks for it once. -/
inductive Turnstile.Works (E : Environment σ) (c : Nat) : σ × Turnstile → Query → σ × Turnstile → Prop where
  | wait {w : σ} {u : Turnstile} (fresh : u.shared.arrived.count c = u.passed.count c) :
    Works E c (w, u) .token (w, u.wait c)
  | other {w w' : σ} {u : Turnstile} {q : Query} (waits : q ≠ .token) (works : E.works w q w') :
    Works E c (w, u) q (w', u)

inductive Turnstile.Others (E : Environment σ) : σ × Turnstile → σ × Turnstile → Prop where
  | world {w w' : σ} {u : Turnstile} (others : E.others w w') : Others E (w, u) (w', u)
  | drift {w : σ} {u : Turnstile} {s : Shared} (drifts : u.shared.Drifts s) :
    Others E (w, u) (w, { u with shared := s })

/-- A world in which tokens come from a turnstile. -/
def Environment.limited (E : Environment σ) (p : Place) : Environment (σ × Turnstile) where
  answers := Turnstile.Answers E p.id
  works := Turnstile.Works E p.id
  others := Turnstile.Others E

/-! ## What can be seen -/

/-- What an event tells of tokens and requests, and of which strand. -/
def Event.mark? : Event → Option (Nat × Mark)
  | .asked who q => if q.isRequest then some (who.strand, .sent) else none
  | .answered who q a => if q.brings a then some (who.strand, .took) else none
  | .dropped .. | .ended .. => none

def marks (es : List (Nat × Event)) : List (Place × Mark) :=
  es.filterMap fun (k, e) => e.mark?.map fun (i, m) => (⟨k, i⟩, m)

theorem marks_append (es es' : List (Nat × Event)) : marks (es ++ es') = marks es ++ marks es' := List.filterMap_append

/-! ## Steps of a task -/

/-- What a task does at its place, as the turnstile sees it. -/
structure Task.Effect (p : Place) (u : Turnstile) (t : Task β) (es : List Event) (u' : Turnstile) (t' : Task β) :
    Prop where
  paced : t'.Paced
  moves : ∃ more, marks (es.map (p.caller, ·)) = more.map (p, ·) ∧ u.Moves p.id t.standing more u' t'.standing

theorem marks_nil_of_drops {k i n : Nat} {parts : List Part} : marks ((drops i n parts).map (k, ·)) = [] := by
  rw [marks, List.filterMap_map, List.filterMap_eq_nil_iff]
  intro event member
  obtain ⟨j, p, -, -, -, rfl⟩ := mem_drops.1 member
  rfl

/-- A step that shows no mark and leaves the turnstile alone, and before and after which the task stands idle. -/
theorem Task.Effect.quiet {p : Place} {u : Turnstile} {t t' : Task β} {es : List Event} (paced : t'.Paced)
    (unmarked : marks (es.map (p.caller, ·)) = []) (same : t'.standing = t.standing) : t.Effect p u es u t' :=
  ⟨paced, [], unmarked, same ▸ .stay⟩

/-- **What a step does**: it moves the task's place at the turnstile. -/
theorem Task.Step.effect {E : Environment σ} {p : Place} {w w' : σ × Turnstile} {t t' : Task β} {es : List Event}
    (paced : t.Paced) (step : t.Step (E.limited p) p.strand w es w' t') : t.Effect p w.2 es w'.2 t' := by
  cases step with
  | @ask q next plain =>
    obtain ⟨holding, same, rest⟩ := paced
    cases q with
    | request r => exact ⟨rest, [.sent], rfl, .send⟩
    | token => exact ⟨rest, [], rfl, .ask⟩
    | _ => exact .quiet rest rfl rfl
  | work works =>
    cases works with
    | wait fresh => exact ⟨paced, [], rfl, .wait fresh⟩
    | other waits works => exact .quiet paced rfl rfl
  | @answer _ q next a answers =>
    have rest := paced a
    have stands := Task.standing_ready rest
    cases answers with
    | token granted => exact ⟨⟨true, rest⟩, [.took], rfl, stands ▸ .pass granted⟩
    | @tryToken w u =>
      rcases Nat.eq_zero_or_pos u.shared.bucket.available with empty | filled
      · have turned : u.allow p.id = (false, u) := Turnstile.allow_of_zero empty
        generalize u.allow p.id = taken at rest stands turned ⊢
        subst turned
        exact .quiet ⟨false, rest⟩ rfl stands
      · have took : (u.allow p.id).1 = true := Turnstile.allow_fst.2 filled
        have moves := Turnstile.Moves.takeAtOnce (c := p.id) filled
        generalize u.allow p.id = taken at rest stands took moves ⊢
        obtain ⟨taken, u'⟩ := taken
        subst took
        exact ⟨⟨true, rest⟩, [.took], rfl, stands ▸ moves⟩
    | other waits tries answers =>
      have brings : q.brings a = false := by
        cases q with
        | token => exact absurd rfl waits
        | tryToken => exact absurd rfl tries
        | _ => rfl
      have idle : (Task.asking q next).standing = .idle := by
        cases q with
        | token => exact absurd rfl waits
        | _ => rfl
      rw [brings] at rest stands
      refine .quiet ⟨false, rest⟩ ?_ (stands.trans idle.symm)
      simp [marks, Event.mark?, brings]
  | part =>
    obtain ⟨holding, same, rest⟩ := paced
    exact .quiet rest rfl rfl
  | begin at_ => exact .quiet paced rfl rfl
  | workPart at_ works =>
    cases works with
    | other waits works => exact .quiet paced rfl rfl
  | store at_ answers =>
    cases answers with
    | other waits tries answers => exact .quiet paced rfl rfl
  | fail at_ answers =>
    cases answers with
    | other waits tries answers =>
      exact .quiet ⟨false, paced _⟩ (marks_nil_of_drops) (Task.standing_ready (paced _))
  | join stored => exact .quiet ⟨false, paced _⟩ rfl (Task.standing_ready (paced _))

/-! ## Steps of a fleet -/

theorem Stage.standing_start {p : Plan α} (paced : p.Paced) (i : Nat) : (start p).standing i = .idle := by
  have idle : ∀ {β : Type} {s : Strand β}, s.Paced false → (Task.ready s).standing = .idle := Task.standing_ready
  cases p with
  | done a => rfl
  | run strand next =>
    cases i with
    | zero => exact idle paced.1
    | succ i => rfl
  | fork strands next =>
    simp only [start, standing, List.getElem?_map]
    cases at_ : strands[i]? with
    | none => rfl
    | some s => exact idle (paced.1 s (List.mem_of_getElem? at_))

theorem Stage.paced_start {p : Plan α} (paced : p.Paced) : (start p).Paced := by
  cases p with
  | done a => trivial
  | run strand next =>
    refine ⟨fun t member => ?_, fun results => ?_⟩
    · obtain rfl := List.mem_singleton.1 member
      exact ⟨false, paced.1⟩
    · match results with
      | [] => exact paced
      | (i, b) :: _ => exact paced.2 b
  | fork strands next =>
    refine ⟨fun t member => ?_, paced.2⟩
    obtain ⟨s, present, rfl⟩ := List.mem_map.1 member
    exact ⟨false, paced.1 s present⟩

namespace Fleet

variable {fleet : Fleet} {k : Nat} {c : Caller} {p : Place}

theorem standing_of (here : fleet[p.caller]? = some c) : fleet.standing p = c.stage.standing p.strand := by
  rw [standing, here]
  rfl

theorem standing_set_self (here : fleet[p.caller]? = some c) (c' : Caller) :
    standing (fleet.set p.caller c') p = c'.stage.standing p.strand :=
  standing_of (List.getElem?_set_self (List.getElem?_eq_some_iff.1 here).1)

theorem standing_set_of_ne (other : p.caller ≠ k) (c' : Caller) :
    standing (fleet.set k c') p = fleet.standing p := by
  rw [standing, standing, List.getElem?_set_ne (Ne.symm other)]

/-- If a caller goes on to where its strands stand as before, all do. -/
theorem standing_set (here : fleet[k]? = some c) {c' : Caller}
    (same : ∀ i, c'.stage.standing i = c.stage.standing i) : standing (fleet.set k c') = fleet.standing := by
  funext p
  by_cases caller : p.caller = k
  · subst caller
    rw [standing_set_self here, standing_of here, same]
  · exact standing_set_of_ne caller c'

theorem standing_append (idle : ∀ i, c.stage.standing i = .idle) : standing (fleet ++ [c]) = fleet.standing := by
  funext p
  rcases Nat.lt_trichotomy p.caller fleet.length with inside | last | outside
  · rw [standing, standing, List.getElem?_append_left inside]
  · have before : fleet.standing p = .idle := by rw [standing, List.getElem?_eq_none (Nat.le_of_eq last.symm)]; rfl
    rw [before]
    refine (standing_of (c := c) ?_).trans (idle _)
    rw [last, List.getElem?_concat_length]
  · rw [standing, standing, List.getElem?_eq_none (Nat.le_of_lt outside), List.getElem?_eq_none]
    rw [List.length_append]
    exact outside

theorem Paced.set (paced : fleet.Paced) {c' : Caller} (here : c'.stage.Paced) : Fleet.Paced (fleet.set k c') := by
  intro s member
  rcases List.mem_or_eq_of_mem_set member with present | rfl
  · exact paced s present
  · exact here

/-- The standing of the tasks of one caller after one of them went on. -/
theorem standing_task {plan : Plan α} {tasks : List (Task β)} {results results' : List (Nat × β)}
    {next : List (Nat × β) → Plan α} {t : Task β} (here : fleet[p.caller]? = some ⟨plan, .going tasks results next⟩)
    (at_ : tasks[p.strand]? = some t) (t' : Task β) :
    standing (fleet.set p.caller ⟨plan, .going (tasks.set p.strand t') results' next⟩) =
      Function.update fleet.standing p t'.standing := by
  funext q
  by_cases same : q = p
  · subst same
    rw [standing_set_self here, Function.update_self, Stage.standing, getElem?_set_of_some at_]
    rfl
  · rw [Function.update_of_ne same]
    by_cases caller : q.caller = p.caller
    · have strand : p.strand ≠ q.strand := fun equal => same (by cases p; cases q; simp_all)
      rw [← caller] at here ⊢
      rw [standing_set_self here, standing_of here, Stage.standing, Stage.standing, List.getElem?_set_ne strand]
    · exact standing_set_of_ne caller _

/-- **One step, one move.** -/
theorem Step.moves {E : Environment σ} {Job : (α : Type) → Plan α → Prop} (jobs : ∀ {α p}, Job α p → p.Paced)
    {w w' : σ × Turnstile} {fleet' : Fleet} {es : List (Nat × Event)} (paced : fleet.Paced)
    (step : Fleet.Step E.limited Job w fleet es w' fleet') :
    fleet'.Paced ∧ w.2.Change fleet.standing (marks es) w'.2 fleet'.standing := by
  cases step with
  | begin job =>
    have begun := jobs job
    refine ⟨fun s member => ?_, ?_⟩
    · rcases List.mem_append.1 member with present | new
      · exact paced s present
      · obtain rfl := List.mem_singleton.1 new
        exact Stage.paced_start begun
    · rw [standing_append (Stage.standing_start begun)]
      exact .none
  | @task _ _ _ _ _ _ k i tasks results next t t' es here at_ step =>
    obtain ⟨each, rest⟩ := paced _ (List.mem_of_getElem? here)
    obtain ⟨paced', more, marked, moves⟩ := step.effect (each t (List.mem_of_getElem? at_))
    refine ⟨paced.set ⟨fun u member => ?_, rest⟩, ?_⟩
    · rcases List.mem_or_eq_of_mem_set member with present | rfl
      · exact each u present
      · exact paced'
    · have stands : fleet.standing ⟨k, i⟩ = t.standing := by
        rw [standing_of here, Stage.standing, at_]
        rfl
      rw [← stands] at moves
      rw [standing_task (p := ⟨k, i⟩) here at_, marked]
      exact .move moves
  | @finish _ _ _ _ _ k i tasks results next b here at_ =>
    obtain ⟨each, rest⟩ := paced _ (List.mem_of_getElem? here)
    refine ⟨paced.set ⟨fun u member => ?_, rest⟩, ?_⟩
    · rcases List.mem_or_eq_of_mem_set member with present | rfl
      · exact each u present
      · trivial
    · have stands : fleet.standing ⟨k, i⟩ = .idle := by
        rw [standing_of here, Stage.standing, at_]
        rfl
      rw [standing_task (p := ⟨k, i⟩) here at_, show (Task.finished : Task _).standing = .idle from rfl, ← stands,
        Function.update_eq_self]
      exact .none
  | @join _ _ _ _ _ k tasks results next here finished =>
    obtain ⟨-, rest⟩ := paced _ (List.mem_of_getElem? here)
    refine ⟨paced.set (Stage.paced_start (rest results)), ?_⟩
    rw [standing_set here fun i => ?_]
    · exact .none
    · rw [Stage.standing_start (rest results), Stage.standing]
      cases at_ : tasks[i]? with
      | none => rfl
      | some t =>
        rw [finished t (List.mem_of_getElem? at_)]
        rfl
  | others others =>
    refine ⟨paced, ?_⟩
    cases others with
    | world others => exact .none
    | drift drifts => exact .drift drifts

/-- **Every run keeps the account.** -/
theorem Reaches.account {E : Environment σ} {Job : (α : Type) → Plan α → Prop} (jobs : ∀ {α p}, Job α p → p.Paced)
    {capacity : Nat} {window : Duration} {w₀ : σ} {w : σ × Turnstile} {es : List (Nat × Event)}
    (run : Fleet.Reaches E.limited Job (w₀, .new capacity window) es w fleet) :
    fleet.Paced ∧ Account (.of capacity window) w.2 fleet.standing (marks es) := by
  have positive := Pace.period_pos capacity window
  induction run with
  | start => exact ⟨by simp [Fleet.Paced], .new capacity window⟩
  | step _ step ih =>
    obtain ⟨paced, account⟩ := ih
    obtain ⟨paced', change⟩ := step.moves jobs paced
    rw [marks_append]
    exact ⟨paced', account.change positive change⟩

end Fleet

/-! ## Requests that do not wait -/

/-- A strand that does not wait is answered at once, and turned away exactly if there is no token; then it changes
nothing. -/
theorem answers_tryToken {E : Environment σ} {p : Place} {w w' : σ × Turnstile} {taken : Bool}
    (answers : (E.limited p).answers w .tryToken taken w') :
    (taken ↔ 0 < w.2.shared.bucket.available) ∧ (taken = false → w' = w) := by
  cases answers with
  | @tryToken w u =>
    refine ⟨Turnstile.allow_fst, fun turned => ?_⟩
    have empty : u.shared.bucket.available = 0 := by
      refine Nat.eq_zero_of_not_pos fun filled => ?_
      rw [Turnstile.allow_of_pos filled] at turned
      cases turned
    rw [Turnstile.allow_of_zero empty]
  | other waits tries => exact absurd rfl tries

/-- All that can be seen of a request that does not wait. -/
theorem Completes.trySend {E : Environment σ} {w w' : σ} {r : Node.Request} {es : List Event} {a : r.Answer}
    (h : Completes E (.alone r.trySend) w es w' a) :
    es = [.asked ⟨0, none⟩ .tryToken, .answered ⟨0, none⟩ .tryToken true, .asked ⟨0, none⟩ (.request r),
      .answered ⟨0, none⟩ (.request r) a, .ended 0 a] ∨
    es = [.asked ⟨0, none⟩ .tryToken, .answered ⟨0, none⟩ .tryToken false, .ended 0 a] ∧
      a = .error ⟨r.target, .rateLimitExhausted⟩ := by
  obtain ⟨taken, es', -, -, -, rest, rfl⟩ := h.alone.of_ask rfl
  cases taken with
  | true =>
    obtain ⟨x, es'', -, -, -, later, rfl⟩ := Task.Ends.of_ask rfl rest
    obtain ⟨rfl, rfl⟩ := Task.Ends.of_done later
    exact .inl rfl
  | false =>
    obtain ⟨rfl, rfl⟩ := Task.Ends.of_done rest
    exact .inr ⟨rfl, rfl⟩

/-- The marks of a place can be seen of its caller. -/
theorem marksOf_marks (p : Place) (es : List (Nat × Event)) : marksOf p (marks es) =
    (eventsOf p.caller es).filterMap fun e => e.mark?.bind fun (i, m) => if i = p.strand then some m else none := by
  induction es with
  | nil => rfl
  | cons seen es ih =>
    obtain ⟨k, e⟩ := seen
    have one : marksOf p (marks [(k, e)]) = (eventsOf p.caller [(k, e)]).filterMap fun e =>
        e.mark?.bind fun (i, m) => if i = p.strand then some m else none := by
      by_cases caller : k = p.caller
      · cases told : e.mark? with
        | none => simp [marks, marksOf, eventsOf, caller, told]
        | some mark =>
          obtain ⟨i, m⟩ := mark
          by_cases strand : i = p.strand <;> simp [marks, marksOf, eventsOf, caller, told, strand, Place.ext_iff]
      · cases told : e.mark? <;> simp [marks, marksOf, eventsOf, caller, told, Place.ext_iff]
    have split : marks ((k, e) :: es) = marks [(k, e)] ++ marks es := marks_append [(k, e)] es
    have split' : eventsOf p.caller ((k, e) :: es) = eventsOf p.caller [(k, e)] ++ eventsOf p.caller es :=
      eventsOf_append p.caller [(k, e)] es
    rw [split, split', List.filterMap_append, ← one, ← ih, marksOf, List.filter_append, List.map_append]
    rfl

/-- **Requests are one to one with tokens**, whoever calls. At each place a token is taken, then its request is sent,
and so on. Of the tokens that the limiter granted to a place each has had its request, but for one that the place holds
or is about to get; so there were never more requests than tokens. A request that does not wait asks the limiter once:
it is turned away if and only if there is no token, and then it changes nothing, sends nothing, gets no token, and says
what it would have asked for. -/
theorem requests_paced {E : Environment σ} {capacity : Nat} {window : Duration} (positive : 1 ≤ capacity) {w₀ : σ}
    {w : σ × Turnstile} {es : List (Nat × Event)} {fleet : Fleet}
    (run : Fleet.Reaches E.limited (fun _ => Calling) (w₀, .new capacity window) es w fleet) :
    let limiter := w.2.shared
    let pace := Pace.of capacity window
    let sent := placesOf .sent (marks es)
    (∀ p, Paired (marksOf p (marks es)) (fleet.standing p).isHolding ∧
      sent.count p.id ≤ limiter.granted.count p.id ∧ limiter.granted.count p.id ≤ sent.count p.id + 1 ∧
      (fleet.standing p = .idle → limiter.granted.count p.id = sent.count p.id)) ∧
    sent.length ≤ limiter.granted.length ∧
    sent.length ≤ capacity + pace.amount * pace.ticksBy limiter.now ∧
    (∀ {p w₁ w₂} {taken : Bool}, (E.limited p).answers w₁ .tryToken taken w₂ →
      (taken ↔ 0 < w₁.2.shared.bucket.available) ∧ (taken = false → w₂ = w₁)) ∧
    ∀ {k r a}, fleet[k]? = some ⟨.alone r.trySend, .done a⟩ →
      eventsOf k es = [.asked ⟨0, none⟩ .tryToken, .answered ⟨0, none⟩ .tryToken true, .asked ⟨0, none⟩ (.request r),
        .answered ⟨0, none⟩ (.request r) a, .ended 0 a] ∨
      eventsOf k es = [.asked ⟨0, none⟩ .tryToken, .answered ⟨0, none⟩ .tryToken false, .ended 0 a] ∧
        limiter.granted.count (Place.mk k 0).id = 0 ∧ a = .error ⟨r.target, .rateLimitExhausted⟩ := by
  intro limiter pace sent
  obtain ⟨-, account⟩ := run.account Calling.paced
  have size : pace.capacity = capacity := Nat.max_eq_left positive
  have fewer : sent.length ≤ limiter.granted.length := account.sent_le
  have granted : limiter.granted.length ≤ pace.capacity + pace.ticksBy limiter.now * pace.amount :=
    account.sound.granted_le
  rw [size, Nat.mul_comm] at granted
  refine ⟨fun p => ?_, fewer, Nat.le_trans fewer granted, answers_tryToken, fun {k r a} here => ?_⟩
  · obtain ⟨sent_le, idle, -, granted_le⟩ := account.granted_eq p
    exact ⟨account.paired p, sent_le, granted_le, idle⟩
  · obtain ⟨-, w₁, seen⟩ := run.seen here
    rcases Completes.trySend seen with shown | ⟨shown, same⟩
    · exact .inl shown
    · have idle : fleet.standing ⟨k, 0⟩ = .idle := (Fleet.standing_of (p := ⟨k, 0⟩) here).trans rfl
      have unsent : sent.count (Place.mk k 0).id = 0 := by
        rw [count_placesOf, marksOf_marks, shown]
        rfl
      exact .inr ⟨shown, ((account.granted_eq ⟨k, 0⟩).2.1 idle).trans unsent, same⟩

namespace TwoCallers

/-- A node that answers whatever it likes. -/
def node : Environment Unit := ⟨fun _ _ _ _ => True, fun _ _ _ => True, fun _ _ => True⟩

def plan : Plan (Node.Request.Answer .health) := .alone Node.Request.health.trySend

def exhausted : Node.Request.Answer .health := .error ⟨.health, .rateLimitExhausted⟩

/-- Two callers that do not wait, and one token: the second comes while the request of the first is out. -/
theorem exists_turned : ∃ es w fleet,
    Fleet.Reaches node.limited (fun _ => Calling) ((), .new 1 (.ofMillis 1000)) es w fleet ∧
      fleet[1]? = some ⟨plan, .done exhausted⟩ ∧ (placesOf .sent (marks es)).length = 1 := by
  have nobody : Fleet.Reaches node.limited (fun _ => Calling) ((), .new 1 (.ofMillis 1000)) [] _ [] := .start
  have both := nobody.step (.begin (.trySend .health)) |>.step (.begin (.trySend .health))
  have first := both.step (.task (k := 0) (i := 0) rfl rfl (.ask rfl))
    |>.step (.task (k := 0) (i := 0) rfl rfl (.answer .tryToken))
    |>.step (.task (k := 0) (i := 0) rfl rfl (.ask rfl))
  have second := first.step (.task (k := 1) (i := 0) rfl rfl (.ask rfl))
    |>.step (.task (k := 1) (i := 0) rfl rfl (.answer .tryToken))
    |>.step (.finish (k := 1) (i := 0) rfl rfl)
    |>.step (.join (k := 1) rfl (by simp))
  exact ⟨_, _, _, second, rfl, rfl⟩

/-- The one request that was sent had the one token. -/
theorem one_request_one_token : ∃ es w fleet,
    Fleet.Reaches node.limited (fun _ => Calling) ((), .new 1 (.ofMillis 1000)) es w fleet ∧
      fleet[1]? = some ⟨plan, .done exhausted⟩ ∧ (placesOf .sent (marks es)).length = 1 ∧
      1 ≤ w.2.shared.granted.length ∧ ∀ p, Paired (marksOf p (marks es)) (fleet.standing p).isHolding := by
  obtain ⟨es, w, fleet, run, turned, one⟩ := exists_turned
  obtain ⟨each, fewer, -⟩ := requests_paced (Nat.le_refl 1) run
  exact ⟨es, w, fleet, run, turned, one, one ▸ fewer, fun p => (each p).1⟩

end TwoCallers

end Running

end ChainIndex
