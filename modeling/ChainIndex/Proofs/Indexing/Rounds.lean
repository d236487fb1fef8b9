import ChainIndex.Indexing.Live
import ChainIndex.Proofs.Indexing.Turns
import ChainIndex.Proofs.Indexing.Walk

/-!
# The rounds of a run

A run that follows the head is taken apart here into what it consists of: how it found out where to begin, and
then round after round the head that was read and the chunk that was run, each as a run of its own from one
state of the world to the next (`Steps.live`). Whatever is known of runs of a chunk is so known of every chunk
of a run that follows the head, and what is seen between the chunks are lulls: the run only looks where the head
is and whether it was told to stop, rests, and picks up addresses.

The turns of a run are a walk (`Rounds.walk`), so its chunks leave no gap and do not overlap.
-/

namespace ChainIndex

/-- What a round does if it is not told to stop. -/
def Indexer.turn (ix : Indexer) (next : UInt64) : Plan (Except Halt (Option UInt64)) := do
  match ← Plan.alone (fetchLatest ix.fetchRetry) with
  | .error _ =>
    ix.rest
    pure (.ok (some next))
  | .ok head =>
    if head < next then
      ix.rest
      pure (.ok (some next))
    else
      let after ← ix.advance next head
      pure (after.map some)

/-- What a turn comes to that is to give something: it is amid its chunk, or it is made, and then that is given once all
is over. All is over at once if there is no height to go on with. -/
def Turn.Gives {α : Type} (t : Turn) (after : Except Halt α) (c : Running.Stage (Except Halt α)) : Prop :=
  t.isOver ∧ (∀ {a}, c = .done a → a = after) ∧ (∀ {e}, after = .error e → c.isDone) ∨
    t.isOver = false ∧ c.isDone = false

theorem eq_error_of_map {ε α β : Type} {f : α → β} {e : ε} {r : Except ε α} (h : r.map f = .error e) :
    r = .error e := by
  cases r with
  | ok a => cases h
  | error e' => exact congrArg Except.error (Except.error.inj h)

namespace Turn

variable {t : Turn}

/-- A round that is over has made its turn. It gives the cursor after it, or there is no height to go on with. -/
theorem Gives.of_done {cursor : UInt64} {a : Except Halt (Option UInt64)}
    (gives : t.Gives ((t.next cursor).map some) (.done a)) :
    t.isOver ∧ ((∃ next, t.next cursor = .ok next ∧ a = .ok (some next)) ∨
      t.next cursor = .error .overflow ∧ a = .error .overflow ∧ ¬EndsBelow [t]) := by
  rcases gives with ⟨settled, given, -⟩ | ⟨-, going⟩
  · refine ⟨settled, ?_⟩
    have same := given rfl
    cases moved : t.next cursor with
    | ok next => exact .inl ⟨next, rfl, by rw [same, moved]; rfl⟩
    | error e =>
      obtain ⟨rfl, top⟩ := next_eq_error moved
      exact .inr ⟨rfl, by rw [same, moved]; rfl, top⟩
  · cases going

/-- A round that goes on is amid its chunk, or there is a height to go on with. -/
theorem Gives.of_going {cursor : UInt64} {c : Running.Stage (Except Halt (Option UInt64))}
    (gives : t.Gives ((t.next cursor).map some) c) (going : c.isDone = false) :
    t.isOver = false ∨ t.isOver ∧ ∃ next, t.next cursor = .ok next := by
  rcases gives with ⟨settled, -, ended⟩ | ⟨amid, -⟩
  · refine .inr ⟨settled, ?_⟩
    cases moved : t.next cursor with
    | ok next => exact ⟨next, rfl⟩
    | error e =>
      have done : c.isDone = true := ended (by rw [moved]; rfl)
      rw [going] at done
      cases done
  · exact .inl amid

/-- A chunk that is not over was not processed. -/
theorem endsBelow_of_not_isOver (going : t.isOver = false) : EndsBelow [t] := by
  intro u member processed
  obtain rfl := List.mem_singleton.1 member
  rw [not_isProcessed_of_not_isOver going] at processed
  cases processed

end Turn

namespace Running

variable {σ α : Type}

/-- What was seen while no chunk was run: runs of plans that put only questions between chunks. -/
inductive Lull (E : Environment σ) : σ → List Event → σ → Prop where
  | nothing {w : σ} : Lull E w [] w
  | run {α : Type} {p : Plan α} {s : Stage α} {w w₁ w₂ : σ} {es es' : List Event}
      (asks : ∀ w, p.Ensures (.only σ (·.isBetween)) (fun _ _ => True) w) (run : Steps E w (start p) es w₁ s)
      (later : Lull E w₁ es' w₂) : Lull E w (es ++ es') w₂

variable {ix : Indexer} {E : Environment σ} {w w' : σ} {es : List Event}

theorem Lull.single {p : Plan α} {s : Stage α} (asks : ∀ w, p.Ensures (.only σ (·.isBetween)) (fun _ _ => True) w)
    (run : Steps E w (start p) es w' s) : Lull E w es w' := by
  simpa using Lull.run asks run .nothing

theorem Lull.asked (h : Lull E w es w') : Asked (·.isBetween) es := by
  induction h with
  | nothing => exact fun who q member => absurd member List.not_mem_nil
  | run asks run later ih => exact (run.asks (asks _)).append ih

theorem Lull.append {w₁ w₂ : σ} {es' : List Event} (h : Lull E w es w₁) (h' : Lull E w₁ es' w₂) :
    Lull E w (es ++ es') w₂ := by
  induction h with
  | nothing => exact h'
  | run asks run later ih =>
    rw [List.append_assoc]
    exact .run asks run (ih h')

/-- Where nothing is left to do, nothing is seen. -/
theorem Lull.of_done {a : α} {c : Stage α} (run : Steps E w (.done a) es w' c) :
    es = [] ∧ c = .done a ∧ Lull E w [] w' := by
  have idle : Lull E w es w' := .single (fun _ => Plan.asks_pure a) run
  obtain ⟨rfl, rfl⟩ := steps_done run
  exact ⟨rfl, rfl, idle⟩

theorem Lull.head {retry : Retry.Params} {s : Stage (Except Node.Error UInt64)}
    (run : Steps E w (start (.alone (fetchLatest retry))) es w' s) : Lull E w es w' :=
  .single (fun _ => Plan.ensures_alone asks_fetchLatest) run

theorem Lull.first {skipStorage : Bool} {s : Stage (Except Halt UInt64)}
    (run : Steps E w (start (.alone (ix.startingHeight skipStorage))) es w' s) : Lull E w es w' :=
  .single (fun _ => Plan.ensures_alone (asks_startingHeight ix skipStorage)) run

/-- What a plan gave, if it is at its end. -/
def Stage.result? : Stage α → Option α
  | .done a => some a
  | .going .. => none

/-- A round that begins at a cursor, and the turn that it made. -/
inductive Round (ix : Indexer) (E : Environment σ) (cursor : UInt64) : σ → Turn → List Event → σ → Prop where
  | unread {w w₁ w₂ w' : σ} {es es₁ es₂ : List Event} {e : Node.Error} (looked : Lull E w es w₁)
      (read : Completes E (.alone (fetchLatest ix.fetchRetry)) w₁ es₁ w₂ (.error e)) (rested : Lull E w₂ es₂ w') :
      Round ix E cursor w .unread (es ++ (es₁ ++ es₂)) w'
  | caughtUp {w w₁ w₂ w' : σ} {es es₁ es₂ : List Event} {head : UInt64} (looked : Lull E w es w₁)
      (read : Completes E (.alone (fetchLatest ix.fetchRetry)) w₁ es₁ w₂ (.ok head)) (ahead : head < cursor)
      (rested : Lull E w₂ es₂ w') : Round ix E cursor w (.caughtUp head) (es ++ (es₁ ++ es₂)) w'
  | chunk {w w₁ w₂ w₃ w' : σ} {es es₁ es₂ es₃ : List Event} {head : UInt64}
      {s : Stage (Except IndexError ChunkReport)} (looked : Lull E w es w₁)
      (read : Completes E (.alone (fetchLatest ix.fetchRetry)) w₁ es₁ w₂ (.ok head)) (ready : cursor ≤ head)
      (ran : Steps E w₂ (start (ix.chunk ⟨cursor, chunkEnd cursor head ix.blockChunk⟩)) es₂ w₃ s)
      (rested : Lull E w₃ es₃ w') :
      Round ix E cursor w (.chunk head ⟨cursor, chunkEnd cursor head ix.blockChunk⟩ s.result?)
        (es ++ (es₁ ++ (es₂ ++ es₃))) w'

/-- Rounds one after another, each from the cursor that the one before left. If there is no height to go on with, the
round is the last. -/
inductive Rounds (ix : Indexer) (E : Environment σ) : UInt64 → σ → List Turn → List Event → UInt64 → σ → Prop where
  | rest {cursor : UInt64} {w w' : σ} {es : List Event} (lull : Lull E w es w') : Rounds ix E cursor w [] es cursor w'
  | turn {cursor next last : UInt64} {w w₁ w' : σ} {t : Turn} {ts : List Turn} {es es' : List Event}
      (here : Round ix E cursor w t es w₁) (settled : t.isOver) (goesOn : t.next cursor = .ok next)
      (later : Rounds ix E next w₁ ts es' last w') : Rounds ix E cursor w (t :: ts) (es ++ es') last w'
  | amid {cursor : UInt64} {w w' : σ} {t : Turn} {es : List Event} (here : Round ix E cursor w t es w')
      (going : t.isOver = false) : Rounds ix E cursor w [t] es cursor w'
  | halted {cursor : UInt64} {w w₁ w' : σ} {t : Turn} {es es' : List Event} {e : Halt}
      (here : Round ix E cursor w t es w₁) (beyond : t.next cursor = .error e) (lull : Lull E w₁ es' w') :
      Rounds ix E cursor w [t] (es ++ es') cursor w'

theorem Round.from {cursor : UInt64} {t : Turn} (h : Round ix E cursor w t es w') : t.From ix.blockChunk cursor := by
  cases h with
  | unread => exact .unread
  | caughtUp _ _ ahead => exact .caughtUp ahead
  | chunk _ _ ready => exact .chunk ready

/-- The turns of rounds are a walk. -/
theorem Rounds.walk {cursor last : UInt64} {ts : List Turn} (h : Rounds ix E cursor w ts es last w') :
    Walk ix.blockChunk cursor ts last := by
  induction h with
  | rest => exact .rest
  | turn here settled goesOn later ih => exact .turn here.from settled goesOn ih
  | amid here going => exact .amid here.from going
  | halted here beyond lull => exact .halted here.from beyond

/-! ## Heads -/

/-- The node never tells that the head is at the highest height there is. -/
def Environment.HeadsBelow (E : Environment σ) : Prop :=
  ∀ {w w'} {head : UInt64}, E.answers w (.request .latest) (.ok head) w' → head.toNat < UInt64.size - 1

/-- Anything may be asked, and heads are below the highest height. -/
def headContract (σ : Type) : Contract (Growth.any σ) where
  May _ _ := True
  Told _ q r :=
    match q, r with
    | .request .latest, .ok (head : UInt64) => head.toNat < UInt64.size - 1
    | _, _ => True
  may_later _ _ := trivial
  stored_later _ _ := trivial

theorem honors_headContract (below : E.HeadsBelow) : E.Honors (headContract σ) where
  keeps _ _ _ _ := ⟨trivial, trivial⟩
  works _ _ _ := ⟨trivial, trivial⟩
  answers {w q r w'} _ _ answers := by
    refine ⟨trivial, trivial, ?_⟩
    match q, r, answers with
    | .request .latest, .ok head, answers => exact below answers
    | .request .latest, .error e, _ => exact trivial
    | .request (.block _), _, _ | .request (.execution _), _, _ | .request .health, _, _ | .call _, _, _
    | .insertAll _, _, _ | .book _ _, _, _ | .token, _, _ | .tryToken, _, _ | .sleep _, _, _ | .pause _, _, _
    | .stopped, _, _ => exact trivial

theorem Completes.head_below (below : E.HeadsBelow) {retry : Retry.Params} {head : UInt64}
    (read : Completes E (.alone (fetchLatest retry)) w es w' (.ok head)) : head.toNat < UInt64.size - 1 := by
  have fetch : (fetchLatest retry).Ensures (headContract σ) (fun _ r => ∀ head, r = .ok head →
      UInt64.toNat head < UInt64.size - 1) w := by
    refine Node.Request.ensures_fetch (r := .latest) ?_ (fun _ _ _ => trivial) (fun _ _ _ => trivial) ?_
    · exact fun _ _ _ _ => trivial
    · rintro a w₁ - - told w₂ - - head rfl
      exact told
  obtain ⟨-, -, told⟩ := read.ensures (honors_headContract below) trivial (Plan.ensures_alone fetch)
  exact told head rfl

theorem Round.headsBelow (below : E.HeadsBelow) {cursor : UInt64} {t : Turn} (h : Round ix E cursor w t es w') :
    HeadsBelow [t] := by
  intro t' member head told
  obtain rfl := List.mem_singleton.1 member
  cases h with
  | unread => cases told
  | caughtUp _ read =>
    cases told
    exact read.head_below below
  | chunk _ read =>
    cases told
    exact read.head_below below

/-- Heads that are read are among those that the node tells. -/
theorem Rounds.headsBelow (below : E.HeadsBelow) {cursor last : UInt64} {ts : List Turn}
    (h : Rounds ix E cursor w ts es last w') : HeadsBelow ts := by
  induction h with
  | rest => exact fun t member => absurd member List.not_mem_nil
  | @turn cursor next last w w₁ w' t ts es es' here settled goesOn later ih =>
    intro u member
    rcases List.mem_cons.1 member with rfl | member
    · exact here.headsBelow below u (List.mem_singleton_self u)
    · exact ih u member
  | amid here going => exact here.headsBelow below
  | halted here beyond lull => exact here.headsBelow below

/-! ## One round -/

theorem Lull.idle {next : α} {c : Stage α} (run : Steps E w (start (ix.rest >>= fun _ => pure next)) es w' c) :
    Lull E w es w' ∧ ∀ {a}, c = .done a → a = next := by
  obtain ⟨s, rested, -, ends⟩ := steps_start_bind_pure (fun _ => rfl) run
  refine ⟨.single (fun _ => asks_rest ix) rested, fun same => ?_⟩
  obtain ⟨-, -, same⟩ := ends same
  exact same

/-- What follows a chunk that was reported is a lull, and the height to go on with is the cursor after the turn. -/
theorem Lull.afterReport {cursor head : UInt64} {report : ChunkReport} {c : Stage (Except Halt UInt64)}
    (run : Steps E w (start (if report.outcome = .processed then
      pure (heightAfter (chunkEnd cursor head ix.blockChunk))
      else ix.rest >>= fun _ => pure (.ok cursor))) es w' c) :
    Lull E w es w' ∧
      let t := Turn.chunk head ⟨cursor, chunkEnd cursor head ix.blockChunk⟩ (some (.ok report))
      t.Gives (t.next cursor) c := by
  by_cases processed : report.outcome = .processed
  · simp only [if_pos processed] at run
    obtain ⟨rfl, rfl, idle⟩ := Lull.of_done run
    refine ⟨idle, .inl ⟨rfl, fun same => ?_, fun _ => rfl⟩⟩
    rw [← Stage.done.inj same, Turn.next, if_pos (by simpa [Turn.isProcessed] using processed)]
  · simp only [if_neg processed] at run
    obtain ⟨lull, ends⟩ := Lull.idle run
    have stays : (Turn.chunk head ⟨cursor, chunkEnd cursor head ix.blockChunk⟩ (some (.ok report))).next cursor =
        .ok cursor := by
      rw [Turn.next, if_neg (by simpa [Turn.isProcessed] using processed)]
    refine ⟨lull, .inl ⟨rfl, fun same => (ends same).trans stays.symm, fun beyond => ?_⟩⟩
    cases stays.symm.trans beyond

/-- What follows a chunk that failed is a lull, and the cursor stays. -/
theorem Lull.afterFailure {cursor head : UInt64} {e : IndexError} {c : Stage (Except Halt UInt64)}
    (run : Steps E w (start (ix.refreshBooks >>= fun _ => ix.rest >>= fun _ => pure (.ok cursor))) es w' c) :
    Lull E w es w' ∧
      let t := Turn.chunk head ⟨cursor, chunkEnd cursor head ix.blockChunk⟩ (some (.error e))
      t.Gives (t.next cursor) c := by
  rcases steps_start_bind run with ⟨s, refreshed, going, rfl⟩ | ⟨_, es₁, es₂, w₁, refreshed, rest, rfl⟩
  · refine ⟨.single (fun _ => asks_refreshBooks ix) refreshed, .inl ⟨rfl, fun same => ?_, nofun⟩⟩
    exact absurd same (Stage.bind_ne_done going)
  · obtain ⟨lull, ends⟩ := Lull.idle rest
    exact ⟨.run (fun _ => asks_refreshBooks ix) refreshed lull, .inl ⟨rfl, fun same => ends same, nofun⟩⟩

/-- A run of a chunk, and what follows it. -/
theorem Steps.advance {cursor head : UInt64} {c : Stage (Except Halt UInt64)}
    (h : Steps E w (start (ix.advance cursor head)) es w' c) :
    ∃ s es₁ es₂ w₁, es = es₁ ++ es₂ ∧
      Steps E w (start (ix.chunk ⟨cursor, chunkEnd cursor head ix.blockChunk⟩)) es₁ w₁ s ∧ Lull E w₁ es₂ w' ∧
      let t := Turn.chunk head ⟨cursor, chunkEnd cursor head ix.blockChunk⟩ s.result?
      t.Gives (t.next cursor) c := by
  rcases steps_start_bind h with ⟨s, ran, going, rfl⟩ | ⟨r, es₁, es₂, w₁, ran, rest, rfl⟩
  · refine ⟨s, es, [], w', (List.append_nil es).symm, ran, .nothing, .inr ⟨?_, Stage.isDone_bind going _⟩⟩
    cases s with
    | done r => cases going
    | going tasks results next => rfl
  cases r with
  | ok report =>
    obtain ⟨lull, gives⟩ := Lull.afterReport rest
    exact ⟨.done (.ok report), es₁, es₂, w₁, rfl, ran, lull, gives⟩
  | error e =>
    obtain ⟨lull, gives⟩ := Lull.afterFailure rest
    exact ⟨.done (.error e), es₁, es₂, w₁, rfl, ran, lull, gives⟩

/-- A run of what a round does that is not told to stop has not come to a turn; or it is amid the chunk of its turn; or
the turn is made, and the cursor after it is given once all is over. -/
theorem Steps.turn {cursor : UInt64} {c : Stage (Except Halt (Option UInt64))} {w₀ : σ} {es₀ : List Event}
    (looked : Lull E w₀ es₀ w) (h : Steps E w (start (ix.turn cursor)) es w' c) :
    (Lull E w es w' ∧ c.isDone = false) ∨
      ∃ t, Round ix E cursor w₀ t (es₀ ++ es) w' ∧ t.Gives ((t.next cursor).map some) c := by
  rcases steps_start_bind h with ⟨s, read, going, rfl⟩ | ⟨r, es₁, es₂, w₁, read, rest, rfl⟩
  · exact .inl ⟨.head read, Stage.isDone_bind going _⟩
  cases r with
  | error e =>
    obtain ⟨rested, ends⟩ := Lull.idle rest
    exact .inr ⟨.unread, .unread looked read rested, .inl ⟨rfl, ends, nofun⟩⟩
  | ok head =>
  change Steps E w₁ (start (if head < cursor then _ else _)) es₂ w' c at rest
  by_cases ahead : head < cursor
  · rw [if_pos ahead] at rest
    obtain ⟨rested, ends⟩ := Lull.idle rest
    exact .inr ⟨.caughtUp head, .caughtUp looked read ahead rested, .inl ⟨rfl, ends, nofun⟩⟩
  · rw [if_neg ahead] at rest
    obtain ⟨c', advanced, same, ends⟩ := steps_start_bind_pure (fun _ => rfl) rest
    obtain ⟨s, es₂, es₃, w₂, rfl, ran, rested, outcome⟩ := advanced.advance
    refine .inr ⟨_, .chunk looked read (UInt64.not_lt.1 ahead) ran rested, ?_⟩
    rcases outcome with ⟨settled, next, beyond⟩ | ⟨amid, going⟩
    · refine .inl ⟨settled, fun done => ?_, fun none_ => same.trans (beyond (eq_error_of_map none_))⟩
      obtain ⟨_, rfl, rfl⟩ := ends done
      rw [next rfl]
    · exact .inr ⟨amid, same.trans going⟩

theorem asks_stopped (w : σ) : (Plan.alone Strand.stopped).Ensures (.only σ (·.isBetween)) (fun _ _ => True) w :=
  Plan.ensures_alone (Strand.asks_query rfl rfl)

/-- A run of a round has not come to a turn, and then it either goes on or was told to stop; or it is amid the
chunk of its turn; or the turn is made, and the round gives the cursor after it once it is over. -/
theorem Steps.round {cursor : UInt64} {c : Stage (Except Halt (Option UInt64))}
    (h : Steps E w (start (ix.round cursor)) es w' c) :
    (Lull E w es w' ∧ ∀ {a}, c = .done a → a = .ok none) ∨
      ∃ t, Round ix E cursor w t es w' ∧ t.Gives ((t.next cursor).map some) c := by
  rcases steps_start_bind h with ⟨s, stopping, going, rfl⟩ | ⟨stop, es₀, es₁, w₁, stopping, rest, rfl⟩
  · exact .inl ⟨.single asks_stopped stopping, fun same => absurd same (Stage.bind_ne_done going)⟩
  have looked : Lull E w es₀ w₁ := .single asks_stopped stopping
  cases stop with
  | true =>
    obtain ⟨rfl, rfl, idle⟩ := Lull.of_done rest
    exact .inl ⟨looked.append idle, fun same => (Stage.done.inj same).symm⟩
  | false =>
    rcases Steps.turn looked rest with ⟨lull, going⟩ | turned
    · refine .inl ⟨looked.append lull, fun same => ?_⟩
      rw [same] at going
      cases going
    · exact .inr turned

/-! ## Many rounds -/

/-- Rounds end with the cursor, or break off because a chunk was processed that ends at the highest height, and only
then. -/
theorem Steps.rounds {rounds : Nat} {cursor : UInt64} {c : Stage (Except Halt (Option UInt64))}
    (h : Steps E w (start (ix.roundsFrom rounds cursor)) es w' c) :
    ∃ ts last, Rounds ix E cursor w ts es last w' ∧ (∀ {n}, c = .done (.ok (some n)) → n = last) ∧
      (∀ {e}, c = .done (.error e) ↔ e = .overflow ∧ ¬EndsBelow ts) := by
  induction rounds generalizing cursor w es with
  | zero =>
    obtain ⟨rfl, rfl, idle⟩ := Lull.of_done h
    refine ⟨[], cursor, .rest idle, fun same => ?_, ⟨nofun, fun broken => ?_⟩⟩
    · exact (Option.some.inj (Except.ok.inj (Stage.done.inj same))).symm
    · exact absurd endsBelow_nil broken.2
  | succ rounds ih =>
    rcases steps_start_bind h with ⟨s, run, going, rfl⟩ | ⟨a, es₁, es₂, w₁, run, rest, rfl⟩
    · -- Amid a round, which may have made its turn, but not at the highest height.
      suffices ∃ ts last, Rounds ix E cursor w ts es last w' ∧ EndsBelow ts by
        obtain ⟨ts, last, rounds, below⟩ := this
        refine ⟨ts, last, rounds, fun same => absurd same (Stage.bind_ne_done going), fun same => ?_, fun broken => ?_⟩
        · exact absurd same (Stage.bind_ne_done going)
        · exact absurd below broken.2
      rcases run.round with ⟨lull, -⟩ | ⟨t, here, gives⟩
      · exact ⟨[], cursor, .rest lull, endsBelow_nil⟩
      · rcases gives.of_going going with amid | ⟨settled, next, moved⟩
        · exact ⟨[t], cursor, .amid here amid, Turn.endsBelow_of_not_isOver amid⟩
        · have made : Rounds ix E cursor w [t] es next w' := by
            simpa using Rounds.turn here settled moved (.rest .nothing)
          exact ⟨[t], next, made, Turn.endsBelow_of_next moved⟩
    · rcases run.round with ⟨lull, ends⟩ | ⟨t, here, gives⟩
      · obtain rfl := ends rfl
        obtain ⟨rfl, rfl, idle⟩ := Lull.of_done rest
        refine ⟨[], cursor, .rest (lull.append idle), nofun, ⟨nofun, fun broken => absurd endsBelow_nil broken.2⟩⟩
      · obtain ⟨settled, ⟨next, moved, rfl⟩ | ⟨beyond, rfl, top⟩⟩ := gives.of_done
        · obtain ⟨ts, last, later, ends, breaks⟩ := ih rest
          refine ⟨t :: ts, last, .turn here settled moved later, ends, fun {e} => breaks.trans ?_⟩
          rw [endsBelow_cons, and_iff_right (Turn.endsBelow_of_next moved)]
        · obtain ⟨rfl, rfl, idle⟩ := Lull.of_done rest
          refine ⟨[t], cursor, .halted here beyond idle, nofun, ⟨fun same => ⟨?_, top⟩, fun broken => ?_⟩⟩
          · exact (Except.error.inj (Stage.done.inj same)).symm
          · rw [broken.1]

/-- **A run that follows the head** has not found out where to begin, and then nothing was seen but a lull, or it
has, and goes on in rounds. When the rounds are used up it gives the cursor. -/
theorem Steps.live {rounds : Nat} {skipStorage : Bool} {c : Stage (Except Halt (Option UInt64))}
    (h : Steps E w (start (ix.live rounds skipStorage)) es w' c) :
    Lull E w es w' ∧ (∀ {n}, c ≠ .done (.ok n)) ∧
        (∀ {e}, c = .done (.error e) → Completes E (.alone (ix.startingHeight skipStorage)) w es w' (.error e)) ∨
      ∃ first es₁ es₂ w₁ ts last, es = es₁ ++ es₂ ∧
        Completes E (.alone (ix.startingHeight skipStorage)) w es₁ w₁ (.ok first) ∧
        Rounds ix E first w₁ ts es₂ last w' ∧ (∀ {n}, c = .done (.ok (some n)) → n = last) ∧
        (∀ {e}, c = .done (.error e) ↔ e = .overflow ∧ ¬EndsBelow ts) := by
  rcases steps_start_bind h with ⟨s, run, going, rfl⟩ | ⟨r, es₁, es₂, w₁, run, rest, rfl⟩
  · exact .inl ⟨.first run, fun {n} => Stage.bind_ne_done going, fun same => absurd same (Stage.bind_ne_done going)⟩
  cases r with
  | error e =>
    have waited := steps_done_of_done rest (.error e : Except Halt UInt64)
    obtain ⟨rfl, rfl, idle⟩ := Lull.of_done rest
    refine .inl ⟨(Lull.first run).append idle, nofun, fun same => ?_⟩
    obtain rfl := Except.error.inj (Stage.done.inj same)
    exact run.trans waited
  | ok first =>
    obtain ⟨ts, last, rounds, given, breaks⟩ := Steps.rounds rest
    exact .inr ⟨first, es₁, es₂, w₁, ts, last, rfl, run, rounds, given, breaks⟩

end Running

end ChainIndex
