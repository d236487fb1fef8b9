import ChainIndex.Proofs.Indexing.Restart
import ChainIndex.Proofs.Running.Kept
import ChainIndex.Shutdown

/-!
# Being told to stop

A run that follows the head asks before each round whether it was told to stop, and at no other time. It can be told
at any moment: while it waits for a token, reads the head, runs a chunk or rests. Once it was told it stays told.

**How a run stops** (`live_stops`). Before it knows where to begin a run may fail, and afterwards it does not. It ends
of itself only when it was told to stop. Every chunk that it began is over by then, and at most one began after it was
told: no round begins any more, so only the round that was under way can still come to its chunk. A run that was told
before it began puts no question but those that it needs to know where to begin.

A run is given up here after some number of rounds, and then it gives the height to go on with. That is no end of its
own, and the number is arbitrary.
-/

namespace ChainIndex

variable {σ : Type}

/-! ## A world that tells a run to stop -/

namespace StopToken

/-- Whether the run was told to stop is what the token says, and the world answers the rest. -/
inductive Answers (E : Running.Environment σ) : σ × StopToken → (q : Query) → q.Answer → σ × StopToken → Prop where
  | stopped {w : σ} {t : StopToken} : Answers E (w, t) .stopped t.stopped (w, t)
  | other {w w' : σ} {t : StopToken} {q : Query} {a : q.Answer} (other : q ≠ .stopped) (answers : E.answers w q a w') :
    Answers E (w, t) q a (w', t)

/-- Others act on the world, or somebody tells the run to stop. -/
inductive Others (E : Running.Environment σ) : σ × StopToken → σ × StopToken → Prop where
  | world {w w' : σ} {t : StopToken} (others : E.others w w') : Others E (w, t) (w', t)
  | stop {w : σ} {t : StopToken} (cause : ShutdownCause) : Others E (w, t) (w, t.stop cause)

theorem stopped_stop (t : StopToken) (cause : ShutdownCause) : (t.stop cause).stopped := by
  obtain ⟨_ | told⟩ := t <;> rfl

end StopToken

namespace Running

/-- A world in which the run can be told to stop at any moment. -/
def Environment.stoppable (E : Environment σ) : Environment (σ × StopToken) where
  answers := StopToken.Answers E
  works w q w' := E.works w.1 q w'.1 ∧ w'.2 = w.2
  others := StopToken.Others E

/-- Once told, a run stays told. -/
def stopGrowth (σ : Type) : Growth (σ × StopToken) where
  Sound _ := True
  Later w w' := w.2.stopped → w'.2.stopped
  refl _ := id
  trans first second := second ∘ first

/-- Anything may be asked, and the token says whether the run was told to stop. -/
def stopContract (σ : Type) : Contract (stopGrowth σ) where
  May _ _ := True
  Told w q a :=
    match q, a with
    | .stopped, (told : Bool) => told = w.2.stopped
    | _, _ => True
  may_later _ _ := trivial
  stored_later _ _ := trivial

variable {E : Environment σ} {ix : Indexer} {w w' : σ × StopToken} {es : List Event}

theorem stoppable_keeps : E.stoppable.Preserves (fun _ => True) (·.2.stopped) where
  others told others := by
    cases others with
    | world => exact told
    | stop cause => exact StopToken.stopped_stop _ cause
  answers told _ answers := by
    cases answers <;> exact told
  works told _ works := by
    rw [works.2]
    exact told

theorem honors_stopContract : E.stoppable.Honors (stopContract σ) where
  keeps _ _ _ others := ⟨trivial, fun told => stoppable_keeps.others told others⟩
  works _ _ works := ⟨trivial, fun told => stoppable_keeps.works told trivial works⟩
  answers {w q a w'} _ _ answers := by
    refine ⟨trivial, fun told => stoppable_keeps.answers told trivial answers, ?_⟩
    cases answers with
    | stopped => rfl
    | other other answers =>
      cases q with
      | stopped => exact absurd rfl other
      | _ => exact trivial

theorem headsBelow_stoppable (below : E.HeadsBelow) : E.stoppable.HeadsBelow := by
  intro w w' head answers
  cases answers with
  | other _ answers => exact below answers

/-- Whatever a run does, once told it stays told. -/
theorem Steps.stays {α : Type} {p : Plan α} {s : Stage α} (run : Steps E.stoppable w (start p) es w' s)
    (told : w.2.stopped) : w'.2.stopped :=
  run.preserves stoppable_keeps (fun _ _ _ => trivial) told

theorem Lull.stays (lull : Lull E.stoppable w es w') (told : w.2.stopped) : w'.2.stopped := by
  induction lull with
  | nothing => exact told
  | run asks run later ih => exact ih (run.stays told)

/-- What a run hears when it asks. -/
theorem Completes.told {told : Bool} (run : Completes E.stoppable (.alone Strand.stopped) w es w' told) :
    (told = true → w'.2.stopped) ∧ (told = false → ¬w.2.stopped) := by
  have asks : Strand.stopped.Ensures (stopContract σ)
      (fun w₁ told => (told = true → w₁.2.stopped) ∧ (told = false → ¬w.2.stopped)) w := by
    intro w₁ later₁ _
    refine ⟨trivial, fun answer w₂ later₂ _ heard w₃ later₃ _ => ⟨fun yes => ?_, fun no before => ?_⟩⟩
    · exact later₃ (heard.symm.trans yes)
    · have now : w₂.2.stopped = true := later₂ (later₁ before)
      exact nomatch no.symm.trans (heard.trans now)
  exact (run.ensures honors_stopContract trivial (Plan.ensures_alone asks)).2.2

end Running

/-! ## Rules that can be told -/

namespace Rule

variable {α β : Type} {rule : Rule σ} {t : StopToken}

/-- Whether the run was told to stop is what the token says, and the rule answers the rest. -/
def stoppable (rule : Rule σ) : Rule (σ × StopToken) := fun w q =>
  match q with
  | .stopped => (w.2.stopped, w)
  | q => ((rule w.1 q).1, ((rule w.1 q).2, w.2))

theorem follows_stoppable {E : Running.Environment σ} (follows : E.Follows rule) :
    E.stoppable.Follows rule.stoppable := by
  intro w q
  cases q with
  | stopped => exact .stopped
  | _ => exact .other nofun (follows w.1 _)

section Agreeing

variable (agree : ∀ w, rule w .stopped = (t.stopped, w))

include agree

theorem stoppable_of_agree (w : σ) (q : Query) : rule.stoppable (w, t) q = ((rule w q).1, ((rule w q).2, t)) := by
  cases q with
  | stopped => rw [agree]; rfl
  | _ => rfl

theorem storeAll_stoppable (batches : List Storage.Batch) (stored : UInt64) (w : σ) :
    rule.stoppable.storeAll batches stored (w, t) =
      ((rule.storeAll batches stored w).1, ((rule.storeAll batches stored w).2, t)) := by
  induction batches generalizing stored w with
  | nil => rfl
  | cons b batches ih =>
    rw [storeAll, storeAll, stoppable_of_agree agree]
    cases rule w (.call (.insert b)) with
    | mk r w' =>
    cases r with
    | ok n => exact ih _ _
    | error e => rfl

theorem play_stoppable (s : Strand β) (w : σ) :
    rule.stoppable.play s (w, t) = ((rule.play s w).1, ((rule.play s w).2, t)) := by
  induction s generalizing w with
  | done b => rfl
  | ask q next ih =>
    cases q with
    | insertAll batches =>
      rw [play, play, storeAll_stoppable agree]
      exact ih _ _
    | _ =>
      rw [play, play, stoppable_of_agree agree]
      · exact ih _ _
      all_goals nofun

theorem playEach_stoppable (strands : List (Strand β)) (place : Nat) (w : σ) :
    rule.stoppable.playEach strands place (w, t) =
      ((rule.playEach strands place w).1, ((rule.playEach strands place w).2, t)) := by
  induction strands generalizing place w with
  | nil => rfl
  | cons s strands ih =>
    rw [playEach, playEach, play_stoppable agree]
    simp only [ih]

/-- What a rule gives it gives as well while the token says the same as the rule. -/
theorem Gives.stoppable {p : Plan α} {w w' : σ} {a : α} (gives : rule.Gives p w a w') :
    rule.stoppable.Gives p (w, t) a (w', t) := by
  have played : rule.stoppable.playPlan p (w, t) = ((rule.playPlan p w).1, ((rule.playPlan p w).2, t)) := by
    clear gives
    induction p generalizing w with
    | done a => rfl
    | run s next ih =>
      rw [playPlan, playPlan, play_stoppable agree]
      exact ih _
    | fork strands next ih =>
      rw [playPlan, playPlan, playEach_stoppable agree]
      exact ih _
  rw [Gives, played, show rule.playPlan p w = (a, w') from gives]

end Agreeing

end Rule

namespace Running

variable {E : Environment σ} {ix : Indexer} {w w' : σ × StopToken} {es : List Event}

/-! ## Rounds and where their chunks begin -/

/-- A round with the state in which its chunk began, if it came to one. -/
inductive Begun (ix : Indexer) (E : Environment σ) (cursor : UInt64) :
    σ → Turn → Option σ → List Event → σ → Prop where
  | nothing {w w' : σ} {t : Turn} {es : List Event} (here : Round ix E cursor w t es w') (idle : t.range? = none) :
    Begun ix E cursor w t none es w'
  | chunk {w w₁ w₂ w₃ w' : σ} {es es₁ es₂ es₃ : List Event} {head : UInt64}
      {s : Stage (Except IndexError ChunkReport)} (looked : Lull E w es w₁)
      (read : Completes E (.alone (fetchLatest ix.fetchRetry)) w₁ es₁ w₂ (.ok head)) (ready : cursor ≤ head)
      (ran : Steps E w₂ (start (ix.chunk ⟨cursor, chunkEnd cursor head ix.blockChunk⟩)) es₂ w₃ s)
      (rested : Lull E w₃ es₃ w') :
      Begun ix E cursor w (.chunk head ⟨cursor, chunkEnd cursor head ix.blockChunk⟩ s.result?) (some w₂)
        (es ++ (es₁ ++ (es₂ ++ es₃))) w'

theorem Round.begun {E : Environment σ} {cursor : UInt64} {w w' : σ} {t : Turn} (round : Round ix E cursor w t es w') :
    ∃ b, Begun ix E cursor w t b es w' := by
  cases round with
  | unread looked read rested => exact ⟨none, .nothing (.unread looked read rested) rfl⟩
  | caughtUp looked read ahead rested => exact ⟨none, .nothing (.caughtUp looked read ahead rested) rfl⟩
  | chunk looked read ready ran rested => exact ⟨_, .chunk looked read ready ran rested⟩

theorem Begun.round {E : Environment σ} {cursor : UInt64} {w w' : σ} {t : Turn} {b : Option σ}
    (begun : Begun ix E cursor w t b es w') : Round ix E cursor w t es w' := by
  cases begun with
  | nothing here => exact here
  | chunk looked read ready ran rested => exact .chunk looked read ready ran rested

/-- A chunk is begun exactly in those turns that have one. -/
theorem Begun.isSome {E : Environment σ} {cursor : UInt64} {w w' : σ} {t : Turn} {b : Option σ}
    (begun : Begun ix E cursor w t b es w') : b.isSome = t.range?.isSome := by
  cases begun with
  | nothing here idle => rw [idle]; rfl
  | chunk => rfl

/-- What is true of a round's chunk when it begins is true at the end of the round. -/
theorem Begun.stays {cursor : UInt64} {t : Turn} {v : σ × StopToken}
    (begun : Begun ix E.stoppable cursor w t (some v) es w') (told : v.2.stopped) : w'.2.stopped := by
  cases begun with
  | chunk _ _ _ ran rested => exact rested.stays (ran.stays told)

/-- The rounds of a run that can be told to stop, with the states in which their chunks began. No round begins once
the run was told, or when there is no height to go on with. -/
inductive Follows (ix : Indexer) (E : Environment (σ × StopToken)) : UInt64 → σ × StopToken → List Turn →
    List (σ × StopToken) → List Event → UInt64 → σ × StopToken → Prop where
  | rest {cursor : UInt64} {w w' : σ × StopToken} {es : List Event} (lull : Lull E w es w') :
    Follows ix E cursor w [] [] es cursor w'
  | turn {cursor next last : UInt64} {w w₁ w' : σ × StopToken} {t : Turn} {ts : List Turn} {b : Option (σ × StopToken)}
      {bs : List (σ × StopToken)} {es es' : List Event} (untold : ¬w.2.stopped) (here : Begun ix E cursor w t b es w₁)
      (settled : t.isOver) (goesOn : t.next cursor = .ok next) (later : Follows ix E next w₁ ts bs es' last w') :
      Follows ix E cursor w (t :: ts) (b.toList ++ bs) (es ++ es') last w'
  | amid {cursor : UInt64} {w w' : σ × StopToken} {t : Turn} {b : Option (σ × StopToken)} {es : List Event}
      (untold : ¬w.2.stopped) (here : Begun ix E cursor w t b es w') (going : t.isOver = false) :
      Follows ix E cursor w [t] b.toList es cursor w'
  | halted {cursor : UInt64} {w w₁ w' : σ × StopToken} {t : Turn} {b : Option (σ × StopToken)} {es es' : List Event}
      {e : Halt} (untold : ¬w.2.stopped) (here : Begun ix E cursor w t b es w₁) (beyond : t.next cursor = .error e)
      (lull : Lull E w₁ es' w') : Follows ix E cursor w [t] b.toList (es ++ es') cursor w'

namespace Follows

variable {E : Environment (σ × StopToken)} {cursor last : UInt64} {ts : List Turn} {bs : List (σ × StopToken)}

theorem rounds (follows : Follows ix E cursor w ts bs es last w') : Rounds ix E cursor w ts es last w' := by
  induction follows with
  | rest lull => exact .rest lull
  | turn untold here settled goesOn later ih => exact .turn here.round settled goesOn ih
  | amid untold here going => exact .amid here.round going
  | halted untold here beyond lull => exact .halted here.round beyond lull

theorem length_begun (follows : Follows ix E cursor w ts bs es last w') :
    bs.length = ts.countP (·.range?.isSome) := by
  have one : ∀ {t : Turn} {b : Option (σ × StopToken)}, b.isSome = t.range?.isSome →
      b.toList.length = [t].countP (·.range?.isSome) := by
    intro t b same
    cases b <;> simp_all
  induction follows with
  | rest lull => rfl
  | @turn _ _ _ _ _ _ t ts b bs _ _ untold here settled goesOn later ih =>
    rw [List.length_append, ih, one here.isSome, ← List.countP_append]
    rfl
  | amid untold here going => exact one here.isSome
  | halted untold here beyond lull => exact one here.isSome

/-- A run that was told to stop makes no turn any more. -/
theorem nothing_of_told (follows : Follows ix E cursor w ts bs es last w') (told : w.2.stopped) :
    ts = [] ∧ bs = [] ∧ Lull E w es w' := by
  cases follows with
  | rest lull => exact ⟨rfl, rfl, lull⟩
  | turn untold => exact absurd told untold
  | amid untold => exact absurd told untold
  | halted untold => exact absurd told untold

end Follows

/-- **At most one chunk** begins after a run was told to stop. -/
theorem Follows.late {cursor last : UInt64} {ts : List Turn} {bs : List (σ × StopToken)}
    (follows : Follows ix E.stoppable cursor w ts bs es last w') : bs.countP (·.2.stopped) ≤ 1 := by
  have one : ∀ b : Option (σ × StopToken), b.toList.countP (·.2.stopped) ≤ 1 := fun b =>
    Nat.le_trans List.countP_le_length (by cases b <;> simp)
  induction follows with
  | rest lull => exact Nat.zero_le _
  | @turn _ _ _ _ w₁ _ _ _ b _ _ _ untold here settled goesOn later ih =>
    rw [List.countP_append]
    by_cases told : w₁.2.stopped
    · obtain ⟨-, rfl, -⟩ := later.nothing_of_told told
      exact one b
    · have early : b.toList.countP (·.2.stopped) = 0 := by
        cases b with
        | none => rfl
        | some v =>
          have before : ¬v.2.stopped := fun now => told (here.stays now)
          simpa using before
      omega
  | amid untold here going => exact one _
  | halted untold here beyond lull => exact one _

/-! ## Runs -/

/-- A round of a run that can be told to stop: it was told, or it was not when the round began. -/
theorem Steps.round_stoppable {cursor : UInt64} {c : Stage (Except Halt (Option UInt64))}
    (h : Steps E.stoppable w (start (ix.round cursor)) es w' c) :
    (Lull E.stoppable w es w' ∧ ∀ {a}, c = .done a → a = .ok none ∧ w'.2.stopped) ∨
      ¬w.2.stopped ∧ ∃ t, Round ix E.stoppable cursor w t es w' ∧ t.Gives ((t.next cursor).map some) c := by
  rcases steps_start_bind h with ⟨s, asking, going, rfl⟩ | ⟨told, es₀, es₁, w₁, asking, rest, rfl⟩
  · exact .inl ⟨.single asks_stopped asking, fun same => absurd same (Stage.bind_ne_done going)⟩
  have looked : Lull E.stoppable w es₀ w₁ := .single asks_stopped asking
  cases told with
  | true =>
    obtain ⟨rfl, rfl, idle⟩ := Lull.of_done rest
    exact .inl ⟨looked.append idle, fun same => ⟨(Stage.done.inj same).symm, idle.stays (asking.told.1 rfl)⟩⟩
  | false =>
    rcases Steps.turn looked rest with ⟨lull, going⟩ | turned
    · refine .inl ⟨looked.append lull, fun same => ?_⟩
      rw [same] at going
      cases going
    · exact .inr ⟨asking.told.2 rfl, turned⟩

/-- What follows once a run knows where to begin. -/
theorem Steps.follows {rounds : Nat} {cursor : UInt64} {c : Stage (Except Halt (Option UInt64))}
    (h : Steps E.stoppable w (start (ix.roundsFrom rounds cursor)) es w' c) :
    ∃ ts bs last, Follows ix E.stoppable cursor w ts bs es last w' ∧ (c.isDone → ∀ t ∈ ts, t.isOver) ∧
      (c = .done (.ok none) → w'.2.stopped) ∧ (∀ {e}, c = .done (.error e) → ¬EndsBelow ts) := by
  induction rounds generalizing cursor w es with
  | zero =>
    obtain ⟨rfl, rfl, idle⟩ := Lull.of_done h
    exact ⟨[], [], cursor, .rest idle, fun _ t member => absurd member List.not_mem_nil, nofun, nofun⟩
  | succ rounds ih =>
    rcases steps_start_bind h with ⟨s, run, going, rfl⟩ | ⟨a, es₁, es₂, w₁, run, rest, rfl⟩
    · -- Amid a round, which may have made its turn.
      suffices ∃ ts bs last, Follows ix E.stoppable cursor w ts bs es last w' by
        obtain ⟨ts, bs, last, follows⟩ := this
        refine ⟨ts, bs, last, follows, fun done => ?_, fun same => ?_, fun same => ?_⟩
        · rw [Stage.isDone_bind going] at done
          cases done
        · exact absurd same (Stage.bind_ne_done going)
        · exact absurd same (Stage.bind_ne_done going)
      rcases run.round_stoppable with ⟨lull, -⟩ | ⟨untold, t, here, gives⟩
      · exact ⟨[], [], cursor, .rest lull⟩
      · obtain ⟨b, begun⟩ := here.begun
        rcases gives.of_going going with amid | ⟨settled, next, moved⟩
        · exact ⟨[t], _, _, .amid untold begun amid⟩
        · exact ⟨[t], _, _, by simpa using Follows.turn untold begun settled moved (.rest .nothing)⟩
    · rcases run.round_stoppable with ⟨lull, ends⟩ | ⟨untold, t, here, gives⟩
      · obtain ⟨rfl, told⟩ := ends rfl
        obtain ⟨rfl, rfl, idle⟩ := Lull.of_done rest
        refine ⟨[], [], cursor, .rest (lull.append idle), fun _ t member => absurd member List.not_mem_nil, ?_, nofun⟩
        exact fun _ => idle.stays told
      · obtain ⟨b, begun⟩ := here.begun
        obtain ⟨settled, ⟨next, moved, rfl⟩ | ⟨beyond, rfl, top⟩⟩ := gives.of_done
        · obtain ⟨ts, bs, last, later, settled', told, broken⟩ := ih rest
          refine ⟨t :: ts, _, last, .turn untold begun settled moved later, fun done u member => ?_, told,
            fun same below => broken same below.tail⟩
          rcases List.mem_cons.1 member with rfl | member
          · exact settled
          · exact settled' done u member
        · obtain ⟨rfl, rfl, idle⟩ := Lull.of_done rest
          refine ⟨[t], _, cursor, .halted untold begun beyond idle, fun _ u member => ?_, nofun, fun _ => top⟩
          obtain rfl := List.mem_singleton.1 member
          exact settled

/-- **How a run stops.** A run has not found out where to begin, and fails only if it cannot. Or it has; then it never
fails, it ends of itself only when it was told to stop, all its chunks are over when it ends, at most one of them began
after it was told, and behind each of them there is a height to go on with. A run that was told before it began fetches
no block and stores nothing. -/
theorem live_stops {ix : Indexer} {E : Environment σ} (below : E.HeadsBelow) {w w' : σ × StopToken} {rounds : Nat}
    {skipStorage : Bool} {es : List Event} {c : Stage (Except Halt (Option UInt64))}
    (run : Steps E.stoppable w (start (ix.live rounds skipStorage)) es w' c) :
    (w.2.stopped → Asked (·.isBetween) es) ∧
    (Lull E.stoppable w es w' ∧ (∀ {r}, c = .done r → ∃ e, r = .error e ∧
        Completes E.stoppable (.alone (ix.startingHeight skipStorage)) w es w' (.error e)) ∨
      ∃ first es₁ es₂ w₁ ts bs cursor, es = es₁ ++ es₂ ∧
        Completes E.stoppable (.alone (ix.startingHeight skipStorage)) w es₁ w₁ (.ok first) ∧
        Follows ix E.stoppable first w₁ ts bs es₂ cursor w' ∧
        (∀ {e}, c ≠ .done (.error e)) ∧ (c = .done (.ok none) → w'.2.stopped) ∧
        bs.length = ts.countP (·.range?.isSome) ∧ bs.countP (·.2.stopped) ≤ 1 ∧
        (c.isDone → ∀ t ∈ ts, t.isOver) ∧ (∀ t ∈ ts, ∀ r, t.range? = some r → r.last.toNat + 1 < UInt64.size) ∧
        (w.2.stopped → ts = [])) := by
  rcases steps_start_bind run with ⟨s, began, going, rfl⟩ | ⟨r, es₁, es₂, w₁, began, rest, rfl⟩
  · have lull : Lull E.stoppable w es w' := .first began
    exact ⟨fun _ => lull.asked, .inl ⟨lull, fun same => absurd same (Stage.bind_ne_done going)⟩⟩
  have lull : Lull E.stoppable w es₁ w₁ := .first began
  cases r with
  | error e =>
    have waited := steps_done_of_done rest (.error e : Except Halt UInt64)
    obtain ⟨rfl, rfl, idle⟩ := Lull.of_done rest
    refine ⟨fun _ => (lull.append idle).asked, .inl ⟨lull.append idle, fun same => ⟨e, ?_, began.trans waited⟩⟩⟩
    exact (Stage.done.inj same).symm
  | ok first =>
    obtain ⟨ts, bs, cursor, follows, settled, told, broken⟩ := Steps.follows rest
    have heads := follows.rounds.headsBelow (headsBelow_stoppable below)
    have fresh : w.2.stopped → ts = [] ∧ bs = [] ∧ Lull E.stoppable w₁ es₂ w' := fun before =>
      follows.nothing_of_told (lull.stays before)
    refine ⟨fun before => (lull.append (fresh before).2.2).asked, .inr ⟨first, es₁, es₂, w₁, ts, bs, cursor, rfl, began,
      follows, fun failed => ?_, told, follows.length_begun, follows.late, settled,
      fun t member r begun => ?_, fun before => (fresh before).1⟩⟩
    · exact broken failed (follows.rounds.walk.endsBelow heads)
    · obtain ⟨_, here⟩ := follows.rounds.walk.bounded member
      obtain ⟨-, -, -, head, read, upper⟩ := here.bounds begun
      have low := heads t member head read
      rw [UInt64.le_iff_toNat_le] at upper
      omega

/-- The block is indexed, and then the run is told to stop. -/
theorem exists_told_later : ∃ es, Completes honestSite.stoppable ((OneBlock.indexer 1 1).live 2 false)
    (.empty, .running) es (OneBlock.indexed true, StopToken.running.stop .terminate) (.ok none) := by
  have follows := Rule.follows_stoppable (OneBlock.rule_follows true)
  have agree : ∀ w, OneBlock.rule true w .stopped = (StopToken.running.stopped, w) := fun _ => rfl
  obtain ⟨es₁, began⟩ := ((OneBlock.gives_startingHeight rfl).stoppable agree).exists_completes follows
  obtain ⟨es₂, indexed⟩ := ((OneBlock.gives_round_empty OneBlock.gives_advance_signed).stoppable agree).exists_completes
    follows
  have ends : (OneBlock.rule true).stoppable.Gives ((OneBlock.indexer 1 1).roundsFrom 1 2)
      (OneBlock.indexed true, StopToken.running.stop .terminate) (.ok none) _ := rfl
  obtain ⟨es₃, stopped⟩ := ends.exists_completes follows
  have told : Steps honestSite.stoppable (OneBlock.indexed true, .running)
      (start ((OneBlock.indexer 1 1).roundsFrom 1 2)) ([] ++ es₃)
      (OneBlock.indexed true, StopToken.running.stop .terminate) (.done (.ok none)) :=
    .head (.others (.stop .terminate)) stopped
  have rounds : Completes honestSite.stoppable ((OneBlock.indexer 1 1).roundsFrom 2 1) (.empty, .running) _
      (OneBlock.indexed true, StopToken.running.stop .terminate) (.ok none) := indexed.bind told
  exact ⟨_, began.bind rounds⟩

/-- The run was told to stop before it began. -/
theorem exists_told_before : ∃ es, Completes honestSite.stoppable ((OneBlock.indexer 1 1).live 1 false)
    (.empty, StopToken.running.stop .interrupt) es (.empty, StopToken.running.stop .interrupt) (.ok none) := by
  have gives : (OneBlock.rule true).stoppable.Gives ((OneBlock.indexer 1 1).live 1 false)
      (.empty, StopToken.running.stop .interrupt) (.ok none) (.empty, StopToken.running.stop .interrupt) := rfl
  exact gives.exists_completes (Rule.follows_stoppable (OneBlock.rule_follows true))

/-- A run that was told once it had indexed the block has ended all its chunks, and one that was told before it began
has put no question but those between chunks. -/
theorem one_block_stops :
    (∃ first es₁ es₂ w₁ ts bs cursor,
      Completes honestSite.stoppable ((OneBlock.indexer 1 1).live 2 false) (.empty, .running) (es₁ ++ es₂)
        (OneBlock.indexed true, StopToken.running.stop .terminate) (.ok none) ∧
      Follows (OneBlock.indexer 1 1) honestSite.stoppable first w₁ ts bs es₂ cursor
        (OneBlock.indexed true, StopToken.running.stop .terminate) ∧
      bs.countP (·.2.stopped) ≤ 1 ∧ ∀ t ∈ ts, t.isOver) ∧
    ∃ es, Completes honestSite.stoppable ((OneBlock.indexer 1 1).live 1 false)
      (.empty, StopToken.running.stop .interrupt) es (.empty, StopToken.running.stop .interrupt) (.ok none) ∧
      Asked (·.isBetween) es := by
  constructor
  · obtain ⟨es, run⟩ := exists_told_later
    rcases (live_stops honestSite_headsBelow run).2 with
      ⟨-, fails⟩ | ⟨first, es₁, es₂, w₁, ts, bs, cursor, rfl, -, follows, -, -, -, late, settled, -, -⟩
    · obtain ⟨_, same, -⟩ := fails rfl
      cases same
    · exact ⟨first, es₁, es₂, w₁, ts, bs, cursor, run, follows, late, settled rfl⟩
  · obtain ⟨es, run⟩ := exists_told_before
    exact ⟨es, run, (live_stops honestSite_headsBelow run).1 rfl⟩

end Running

end ChainIndex
