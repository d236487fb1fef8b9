import ChainIndex.Proofs.Indexing.Cutting
import ChainIndex.Proofs.Node.Fetched
import ChainIndex.Proofs.Node.Paced
import ChainIndex.Proofs.Retry.Attempts
import ChainIndex.Proofs.Running.Exchanges

/-!
# Items fetched side by side

Every item that is to be fetched has a strand of its own, and each strand tries until its request is answered or not
worth repeating. **No item is lost, and none gets another's answer** (`fetched_item_by_item`): there is one result for
each place, and it is the last of the answers that the node gave to the request of this place, which was sent once for
each of them. The node may answer whatever it likes, in any order, and as it likes by what it was asked before.

If it answers each request by a script of its own, an item comes to what its script says, whatever else is fetched
(`FetchedAt.scripted`). An item that is listed twice has its script read by two strands, so what they get is up to the
order in which the two ask, unless the script says always the same; but neither is told anything else
(`FetchedAt.own`).
-/

namespace ChainIndex

open Running Strand

/-- Whether this is an answer to the request. -/
def Node.Request.answeredBy (r : Node.Request) (t : Telling) : Bool :=
  match t.1 with
  | .request r' => r' = r
  | _ => false

theorem Node.Request.answeredBy_iff {r : Node.Request} {t : Telling} : r.answeredBy t ↔ t.1 = .request r := by
  obtain ⟨q, a⟩ := t
  cases q <;> simp [answeredBy]

/-! ## What a fetch is told -/

namespace Node.Request

variable {r : Node.Request} {retry : Retry.Params} {told : List Telling}

/-- The node answers the request. -/
def telling (r : Request) (a : r.Answer) : Telling := ⟨.request r, a⟩

/-- All that the strand was told by the node is one answer to the request for each attempt, and it gave the last. -/
def Told (r : Request) (most : Nat) (told : List Telling) (a : r.Answer) : Prop :=
  ∃ answers : List r.Answer, told.filter (·.1.isRequest) = answers.map r.telling ∧
    Retry.Attempted Error.retryable most answers a

theorem told_of_send {a : r.Answer} (h : r.send.Hears told a) : told = [⟨.token, ()⟩, r.telling a] := by
  obtain ⟨u, first, rest, token, request, rfl⟩ := Hears.of_bind h
  rw [Hears.of_query rfl token, Hears.of_query rfl request]
  rfl

/-- The one attempt that there is. -/
theorem Told.one {most : Nat} {a : r.Answer} (some_ : 1 ≤ most) (last : most = 1 ∨ Retry.Settled Error.retryable a) :
    r.Told most [⟨.token, ()⟩, r.telling a] a :=
  ⟨[a], rfl, .one some_ last⟩

/-- An attempt that failed, the sleep after it, and the other attempts. -/
theorem Told.again {most : Nat} {e : Error} {d : Duration} {a : r.Answer} (mends : e.retryable = true)
    (h : r.Told most told a) :
    r.Told (most + 1) ([⟨.token, ()⟩, r.telling (.error e)] ++ ([⟨.sleep d, ()⟩] ++ told)) a := by
  obtain ⟨answers, requests, attempted⟩ := h
  exact ⟨.error e :: answers, congrArg (r.telling (.error e) :: ·) requests, attempted.again mends⟩

theorem told_of_attemptFrom {more : Nat} {n : UInt32} {o : Retry.Outcome Node.Error r.Payload}
    (h : (Retry.attemptFrom Strand.sleep retry Error.retryable (fun _ => r.send) more n).Hears told o) :
    r.Told (more + 1) told o.toExcept := by
  induction more generalizing n told with
  | zero =>
    obtain ⟨a, first, rest, sent, later, rfl⟩ := Hears.of_bind h
    obtain rfl := told_of_send sent
    cases a with
    | ok value =>
      obtain ⟨rfl, rfl⟩ := Hears.of_pure later
      exact .one (Nat.le_refl 1) (.inl rfl)
    | error e =>
      obtain ⟨rfl, rfl⟩ := Hears.of_pure later
      exact .one (Nat.le_refl 1) (.inl rfl)
  | succ more ih =>
    obtain ⟨a, first, rest, sent, later, rfl⟩ := Hears.of_bind h
    obtain rfl := told_of_send sent
    cases a with
    | ok value =>
      obtain ⟨rfl, rfl⟩ := Hears.of_pure later
      exact .one (Nat.le_add_left 1 _) (.inr trivial)
    | error e =>
      simp only at later
      by_cases again : e.retryable
      · rw [if_pos again] at later
        obtain ⟨u, slept, rest, sleep, attempts, rfl⟩ := Hears.of_bind later
        rw [Hears.of_query rfl sleep]
        exact (ih attempts).again again
      · rw [if_neg again] at later
        obtain ⟨rfl, rfl⟩ := Hears.of_pure later
        exact .one (Nat.le_add_left 1 _) (.inr (Bool.eq_false_iff.2 again))

theorem told_of_fetch {a : r.Answer} (h : (r.fetch retry).Hears told a) : r.Told retry.most told a := by
  obtain ⟨o, first, rest, attempts, later, rfl⟩ := Hears.of_bind h
  obtain ⟨rfl, rfl⟩ := Hears.of_pure later
  have most : retry.attempts.toNat - 1 + 1 = retry.most := by
    rw [retry.toNat_attempts]
    exact Nat.sub_add_cancel (Nat.le_max_left _ _)
  rw [List.append_nil, ← most]
  exact told_of_attemptFrom attempts

/-- A fetch sends its request, and no other. -/
theorem Told.eq_of_isRequest {most : Nat} {a : r.Answer} (h : r.Told most told a) {t : Telling} (member : t ∈ told)
    (request : t.1.isRequest) : t.1 = .request r := by
  obtain ⟨answers, requests, -⟩ := h
  have among : t ∈ told.filter (·.1.isRequest) := List.mem_filter.2 ⟨member, request⟩
  rw [requests] at among
  obtain ⟨b, -, rfl⟩ := List.mem_map.1 among
  rfl

end Node.Request

namespace Running

variable {σ γ β : Type} {E : Environment σ} {w w' : σ} {es : List Event} {r : Node.Request} {retry : Retry.Params}
  {i : Nat}

/-! ## Answers by a script -/

/-- What the event tells some strand. -/
def Event.telling? : Event → Option Telling
  | .answered ⟨_, none⟩ q a => some ⟨q, a⟩
  | _ => none

/-- All answers to a request, one after another, whoever sent it. -/
def toldAbout (r : Node.Request) (es : List Event) : List Telling :=
  (es.filterMap Event.telling?).filter r.answeredBy

/-- The node answers each request by a script of its own, whatever else it is asked: the first time as the script says
first, then as it says second, and so on. -/
def AnswersBy (script : (r : Node.Request) → Nat → r.Answer) (es : List Event) : Prop :=
  ∀ r, toldAbout r es = (List.range' 1 (toldAbout r es).length).map fun n => r.telling (script r n)

/-- What a fetch comes to if the node answers by a script: the answer to the first attempt that may be the last. -/
def Scripted (retry : Retry.Params) (r : Node.Request) (script : Nat → r.Answer) (a : r.Answer) : Prop :=
  ∃ k, IsLeast {k | 1 ≤ k ∧ Retry.Closes retry Node.Error.retryable script k} k ∧ a = script k

/-- What an event tells a strand, it tells nobody else. -/
theorem Event.telling?_eq (e : Event) : e.telling? = none ∧ (∀ i, e.told? i = none) ∨
    ∃ j t, e.telling? = some t ∧ e.told? j = some t ∧ ∀ i ≠ j, e.told? i = none := by
  cases e with
  | answered who q a =>
    obtain ⟨j, batch⟩ := who
    cases batch with
    | none => exact .inr ⟨j, ⟨q, a⟩, rfl, by simp [told?], fun i other => by simp [told?, Ne.symm other]⟩
    | some k => exact .inl ⟨rfl, fun i => rfl⟩
  | _ => exact .inl ⟨rfl, fun i => rfl⟩

/-- What a strand is told is told to someone. -/
theorem toldTo_sublist (i : Nat) (es : List Event) : (toldTo i es).Sublist (es.filterMap Event.telling?) := by
  induction es with
  | nil => exact .slnil
  | cons e es ih =>
    rw [toldTo]
    rcases e.telling?_eq with ⟨nothing, nobody⟩ | ⟨j, t, told, here, nobody⟩
    · rwa [List.filterMap_cons_none nothing, List.filterMap_cons_none (nobody i)]
    · rw [List.filterMap_cons_some told]
      by_cases same : i = j
      · subst same
        rw [List.filterMap_cons_some here]
        exact ih.cons_cons t
      · rw [List.filterMap_cons_none (nobody i same)]
        exact ih.cons t

/-- If no other strand asks for the request, all that is said about it is said to the one. -/
theorem toldAbout_eq_of_alone (alone : ∀ j ≠ i, ∀ t ∈ toldTo j es, ¬r.answeredBy t) :
    toldAbout r es = (toldTo i es).filter r.answeredBy := by
  induction es with
  | nil => rfl
  | cons e es ih =>
    have later : ∀ j ≠ i, ∀ t ∈ toldTo j es, ¬r.answeredBy t := by
      intro j other t member
      refine alone j other t ?_
      rw [← List.singleton_append, toldTo_append]
      exact List.mem_append_right _ member
    have ih := ih later
    rw [toldAbout, toldTo] at ih ⊢
    rcases e.telling?_eq with ⟨nothing, nobody⟩ | ⟨j, t, told, here, nobody⟩
    · rw [List.filterMap_cons_none nothing, List.filterMap_cons_none (nobody i), ih]
    · by_cases same : i = j
      · subst same
        rw [List.filterMap_cons_some told, List.filterMap_cons_some here, List.filter_cons, List.filter_cons, ih]
      · have other : ¬r.answeredBy t := by
          refine alone j (Ne.symm same) t ?_
          rw [toldTo, List.filterMap_cons_some here]
          exact List.mem_cons_self
        rw [List.filterMap_cons_some told, List.filterMap_cons_none (nobody i same), List.filter_cons_of_neg other, ih]

/-- Among all answers the strand was told those to its own request. -/
theorem filter_answeredBy {told : List Telling} {answers : List r.Answer}
    (requests : told.filter (·.1.isRequest) = answers.map r.telling) :
    told.filter r.answeredBy = answers.map r.telling := by
  have own : ∀ t ∈ answers.map r.telling, r.answeredBy t := by
    intro t member
    obtain ⟨a, -, rfl⟩ := List.mem_map.1 member
    simp [Node.Request.answeredBy, Node.Request.telling]
  have among : ∀ t ∈ told, r.answeredBy t = (r.answeredBy t && t.1.isRequest) := by
    intro t _
    obtain ⟨q, a⟩ := t
    cases q <;> simp [Node.Request.answeredBy, Query.isRequest]
  rw [List.filter_congr among, ← List.filter_filter, requests, List.filter_eq_self.2 own]

theorem telling_injective (r : Node.Request) : Function.Injective r.telling :=
  fun _ _ same => eq_of_heq (Sigma.mk.inj same).2

namespace AnswersBy

variable {script : (r : Node.Request) → Nat → r.Answer} {answers : List r.Answer} (scripted : AnswersBy script es)
  (requests : (toldTo i es).filter (·.1.isRequest) = answers.map r.telling)

include scripted requests

/-- A strand is told nothing that is not in the script of its own item. -/
theorem sublist : answers.Sublist ((List.range' 1 (toldAbout r es).length).map (script r)) := by
  have own : (answers.map r.telling).Sublist (toldAbout r es) := by
    rw [← filter_answeredBy requests]
    exact (toldTo_sublist i es).filter _
  rw [scripted r] at own
  obtain ⟨numbers, among, same⟩ := List.sublist_map_iff.1 own
  have said : answers = numbers.map (script r) := by
    refine List.map_injective_iff.2 (telling_injective r) ?_
    rw [same, List.map_map]
    rfl
  rw [said]
  exact among.map _

/-- It is told the beginning of the script if nobody else asks for the item, or if the script says always the same. -/
theorem beginning (fixed : (∀ j ≠ i, ∀ t ∈ toldTo j es, ¬r.answeredBy t) ∨ ∀ n, script r n = script r 1) :
    answers = (List.range' 1 answers.length).map (script r) := by
  rcases fixed with alone | constant
  · have about := scripted r
    rw [toldAbout_eq_of_alone alone, filter_answeredBy requests, List.length_map] at about
    refine List.map_injective_iff.2 (telling_injective r) ?_
    rw [about, List.map_map]
    rfl
  · have always : ∀ a ∈ answers, a = script r 1 := by
      intro a member
      obtain ⟨n, -, same⟩ := List.mem_map.1 ((scripted.sublist requests).subset member)
      rw [← same, constant]
    refine List.ext_getElem (by simp) fun n inside _ => ?_
    rw [always _ (List.getElem_mem inside), List.getElem_map]
    exact (constant _).symm

end AnswersBy

/-! ## Strands side by side -/

/-- Whether the event is about a question to the node. -/
def Event.isRequest : Event → Bool
  | .asked _ q | .answered _ q _ | .dropped _ q => q.isRequest
  | .ended .. => false

theorem filter_exchanges (i : Nat) (told : List Telling) :
    (exchanges i told).filter Event.isRequest = exchanges i (told.filter (·.1.isRequest)) := by
  induction told with
  | nil => rfl
  | cons t told ih =>
    by_cases request : t.1.isRequest
    · simpa [exchanges, Event.isRequest, request] using ih
    · simpa [exchanges, Event.isRequest, request] using ih

/-- What became of the request of the strand at a place, with all answers to it. -/
structure FetchedAt (retry : Retry.Params) (r : Node.Request) (alone : Prop) (i : Nat) (es : List Event)
    (answers : List r.Answer) (a : r.Answer) : Prop where
  /-- The request was sent for each of the answers, behind the one before, and nothing else was asked of the node. -/
  requests : (seenOf i es).filter Event.isRequest = exchanges i (answers.map r.telling)
  attempted : Retry.Attempted Node.Error.retryable retry.most answers a
  /-- If the node answers by a script, these answers are in it. -/
  own : ∀ script, AnswersBy script es →
    answers.Sublist ((List.range' 1 (toldAbout r es).length).map (script r))
  /-- They are its beginning if no other strand asks for the same, or if it says always the same. -/
  scripted : ∀ script, AnswersBy script es → alone ∨ (∀ n, script r n = script r 1) → Scripted retry r (script r) a

/-- One result for each of the items, in whatever order they came, and nothing was asked from elsewhere. -/
structure OneEach (items : List γ) (fetched : Nat → γ → β → Prop) (es : List Event) (results placed : List β) :
    Prop where
  perm : results.Perm placed
  length : placed.length = items.length
  fetched : ∀ {i c}, items[i]? = some c → ∃ b, placed[i]? = some b ∧ fetched i c b
  others : ∀ {i}, items.length ≤ i → seenOf i es = []

theorem FetchedAt.of_told {alone : Prop} {a : r.Answer} (told : r.Told retry.most (toldTo i es) a)
    (seen : seenOf i es = exchanges i (toldTo i es))
    (others : alone → ∀ j ≠ i, ∀ t ∈ toldTo j es, ¬r.answeredBy t) :
    ∃ answers, FetchedAt retry r alone i es answers a := by
  obtain ⟨answers, requests, attempted⟩ := told
  refine ⟨answers, ?_, attempted, fun script scripted => scripted.sublist requests, fun script scripted fixed => ?_⟩
  · rw [seen, filter_exchanges, requests]
  · obtain ⟨least, last⟩ := attempted.isLeast (scripted.beginning requests (fixed.imp_left others))
    exact ⟨answers.length, least, last⟩

theorem OneEach.imp {items : List γ} {fetched fetched' : Nat → γ → β → Prop} {results placed : List β}
    (h : OneEach items fetched es results placed)
    (imp : ∀ {i c b}, items[i]? = some c → fetched i c b → fetched' i c b) : OneEach items fetched' es results placed :=
  { h with fetched := fun at_ => (h.fetched at_).imp fun _ found => ⟨found.1, imp at_ found.2⟩ }

/-- Strands that each send one request, whatever they give: each hears what it alone asked for. -/
theorem Completes.each {items : List γ} {f : γ → Strand β} {results : List β}
    (h : Completes E (Plan.unordered (items.map f)) w es w' results) (ask : γ → Node.Request)
    (asks : ∀ {c told b}, (f c).Hears told b → ∀ t ∈ told, t.1.isRequest → t.1 = .request (ask c)) :
    ∃ placed, OneEach items (fun i c b => (f c).Hears (toldTo i es) b ∧ seenOf i es = exchanges i (toldTo i es) ∧
      ((∀ j c', items[j]? = some c' → ask c' = ask c → j = i) → ∀ j ≠ i, ∀ t ∈ toldTo j es, ¬(ask c).answeredBy t))
      es results placed := by
  obtain ⟨placed, perm, came⟩ := h.came_of_unordered
  have length := came.length
  rw [List.length_map] at length
  have hears {i c} (at_ : items[i]? = some c) : ∃ b, placed[i]? = some b ∧ (f c).Hears (toldTo i es) b := by
    have inside : i < placed.length := length ▸ (List.getElem?_eq_some_iff.1 at_).1
    refine ⟨placed[i], List.getElem?_eq_getElem inside, came.hears ?_ (List.getElem?_eq_getElem inside)⟩
    rw [List.getElem?_map, at_, Option.map_some]
  have others {i} (outside : items.length ≤ i) : seenOf i es = [] := (h.asked_in_turn i).2 (by simpa using outside)
  refine ⟨placed, perm, length, fun {i c} at_ => ?_, others⟩
  obtain ⟨b, at_', hears_⟩ := hears at_
  refine ⟨b, at_', hears_, (h.asked_in_turn i).1, fun once j other t member answered => other ?_⟩
  -- what is told at the other place was asked for there
  rcases Nat.lt_or_ge j items.length with inside | outside
  · have found := List.getElem?_eq_getElem inside
    obtain ⟨b', -, hears'⟩ := hears found
    have asked := Node.Request.answeredBy_iff.1 answered
    have own := asks hears' t member (by rw [asked]; rfl)
    exact once j _ found (Query.request.inj (own.symm.trans asked))
  · have silent := (h.asked_in_turn j).1
    rw [others outside, exchanges, eq_comm, List.flatMap_eq_nil_iff] at silent
    cases silent t member

/-- The heights of a range are requested once each. -/
theorem nodup_heights (range : HeightRange) : range.heights.Nodup := by
  have rising : (range.heights.map UInt64.toNat).Nodup := by
    rw [range.map_toNat_heights]
    exact List.nodup_range'
  exact rising.of_map _

/-- The block at a height was fetched from this place, as from no other. -/
def BlockAt (retry : Retry.Params) (es : List Event) (i : Nat) (height : UInt64) (a : Except Node.Error Block) : Prop :=
  ∃ answers, FetchedAt retry (.block height) True i es answers a

/-- The transaction with a listed digest was fetched from this place. -/
def ExecutionAt (retry : Retry.Params) (hashes : List String) (es : List Event) (i : Nat) (hash : String)
    (a : Except Node.Error Execution) : Prop :=
  ∃ answers, FetchedAt retry (.execution hash) (∀ j, hashes[j]? = some hash → j = i) i es answers a

theorem Completes.blocks_each {range : HeightRange} {results : List (Except Node.Error Block)}
    (h : Completes E (Plan.unordered (range.heights.map fun height => (Node.Request.block height).fetch retry)) w es w'
      results) : ∃ placed, OneEach range.heights (BlockAt retry es) es results placed := by
  obtain ⟨placed, each⟩ := h.each .block fun hears _ => (Node.Request.told_of_fetch hears).eq_of_isRequest
  refine ⟨placed, each.imp fun {i height a} at_ ⟨hears, seen, others⟩ => ?_⟩
  refine FetchedAt.of_told (Node.Request.told_of_fetch hears) seen fun _ => others fun j height' at_' same => ?_
  have inside := (List.getElem?_eq_some_iff.1 at_').1
  rw [Node.Request.block.inj same] at at_'
  exact (List.getElem?_inj inside (nodup_heights range)).1 (at_'.trans at_.symm)

theorem Completes.executions_each {hashes : List String} {results : List (Except Node.Error Execution)}
    (h : Completes E (fetchExecutions retry hashes) w es w' results) :
    ∃ placed, OneEach hashes (ExecutionAt retry hashes es) es results placed := by
  obtain ⟨placed, each⟩ := h.each .execution fun hears _ => (Node.Request.told_of_fetch hears).eq_of_isRequest
  refine ⟨placed, each.imp fun {i hash a} at_ ⟨hears, seen, others⟩ => ?_⟩
  refine FetchedAt.of_told (Node.Request.told_of_fetch hears) seen fun once => others fun j hash' at_' same => once j ?_
  rw [at_', Node.Request.execution.inj same]

/-- **Every item is fetched, and each by itself.** A range that is none ends with an error, and nothing is asked. For
every other range there is one result for each height, and for a list of digests one for each place of it, also where a
digest is listed again. Each is the last answer to its own request, which was repeated as long as it failed for a reason
that may pass and more attempts were allowed. A run that is not at its end can be gone on with to it, if the world
always has an answer. -/
theorem fetched_item_by_item (retry : Retry.Params) (E : Environment σ) (w w' : σ) (es : List Event) :
    (∀ range s, Steps E w (start (fetchBlocks retry range)) es w' s →
      (range.last < range.first → es = [] ∧ s = .done (.error (invalidRange range))) ∧
      (range.first ≤ range.last →
        (∀ result, s = .done result → ∃ results placed, result = .ok results ∧
          results.length = range.last.toNat - range.first.toNat + 1 ∧
          OneEach range.heights (BlockAt retry es) es results placed) ∧
        (E.Answering → ∃ es' w'' results, Steps E w' s es' w'' (.done (.ok results))))) ∧
    ∀ hashes s, Steps E w (start (fetchExecutions retry hashes)) es w' s →
      (∀ results, s = .done results → ∃ placed, results.length = hashes.length ∧
        OneEach hashes (ExecutionAt retry hashes es) es results placed) ∧
      (E.Answering → ∃ es' w'' results, Steps E w' s es' w'' (.done results)) := by
  constructor
  · intro range s run
    have ends (valid : range.first ≤ range.last) {es w' result}
        (run : Steps E w (start (fetchBlocks retry range)) es w' (.done result)) : ∃ results placed,
        result = .ok results ∧ results.length = range.last.toNat - range.first.toNat + 1 ∧
          OneEach range.heights (BlockAt retry es) es results placed := by
      rw [fetchBlocks, if_neg (UInt64.not_lt.2 valid)] at run
      obtain ⟨results, es₁, es₂, w₁, first, rest, rfl⟩ := Completes.of_bind run
      obtain ⟨rfl, rfl⟩ := Completes.of_pure rest
      obtain ⟨placed, each⟩ := first.blocks_each
      have lower := UInt64.le_iff_toNat_le.1 valid
      have length := each.perm.length_eq.trans each.length
      rw [HeightRange.length_heights] at length
      rw [List.append_nil]
      exact ⟨results, placed, rfl, by omega, each⟩
    refine ⟨fun none_ => ?_, fun valid => ⟨?_, fun answering => ?_⟩⟩
    · rw [fetchBlocks, if_pos none_] at run
      exact steps_done run
    · rintro result rfl
      exact ends valid run
    · obtain ⟨es', w'', result, rest⟩ := exists_completion answering w' s
      obtain ⟨results, -, rfl, -⟩ := ends valid (run.trans rest)
      exact ⟨es', w'', results, rest⟩
  · intro hashes s run
    refine ⟨?_, fun answering => exists_completion answering w' s⟩
    rintro results rfl
    obtain ⟨placed, each⟩ := Completes.executions_each run
    exact ⟨placed, each.perm.length_eq.trans each.length, each⟩

namespace TwoDigests

/-- Two attempts, one right after the other. -/
def twice : Retry.Params := ⟨2, 0, .zero, .zero⟩

/-- The node does not know the second digest, and cannot be reached for anything else. -/
def script (r : Node.Request) (_ : Nat) : r.Answer :=
  .error ⟨r.target, if r = .execution "b" then .refused 1 "" else .transport ""⟩

/-- A world that answers whatever it likes. -/
def world : Environment Unit := ⟨fun _ _ _ _ => True, fun _ _ _ => True, fun _ _ => True⟩

def first : Asker := ⟨0, none⟩

def second : Asker := ⟨1, none⟩

/-- The second comes to its end between the two attempts of the first. -/
def seen : List Event :=
  [.asked first .token, .answered first .token (), .asked second .token, .answered second .token (),
    .asked first (.request (.execution "a")), .asked second (.request (.execution "b")),
    .answered second (.request (.execution "b")) (script (.execution "b") 1), .ended 1 (script (.execution "b") 1),
    .answered first (.request (.execution "a")) (script (.execution "a") 1),
    .asked first (.sleep (twice.delayAfter 1)), .answered first (.sleep (twice.delayAfter 1)) (),
    .asked first .token, .answered first .token (), .asked first (.request (.execution "a")),
    .answered first (.request (.execution "a")) (script (.execution "a") 2), .ended 0 (script (.execution "a") 2)]

section

variable {α : Type} {tasks : List (Task β)} {results : List (Nat × β)} {next : List (Nat × β) → Plan α} {s : Stage α}
  {q : Query} {rest : q.Answer → Strand β}

theorem asks (at_ : tasks[i]? = some (.ready (.ask q rest))) (plain : q.isPlain)
    (later : Steps world () (.going (tasks.set i (.asking q rest)) results next) es () s) :
    Steps world () (.going tasks results next) (.asked ⟨i, none⟩ q :: es) () s :=
  .head (.task at_ (.ask plain)) later

theorem hears {a : q.Answer} (at_ : tasks[i]? = some (.asking q rest))
    (later : Steps world () (.going (tasks.set i (.ready (rest a))) results next) es () s) :
    Steps world () (.going tasks results next) (.answered ⟨i, none⟩ q a :: es) () s :=
  .head (.task at_ (.answer trivial)) later

theorem ends {b : β} (at_ : tasks[i]? = some (.ready (.done b)))
    (later : Steps world () (.going (tasks.set i .finished) (results ++ [(i, b)]) next) es () s) :
    Steps world () (.going tasks results next) (.ended i b :: es) () s :=
  .head (.finish at_) later

end

theorem completes : Completes world (fetchExecutions twice ["a", "b"]) () seen ()
    [script (.execution "b") 1, script (.execution "a") 2] := by
  refine asks rfl rfl (hears rfl ?_)
  refine asks rfl rfl (hears rfl ?_)
  refine asks rfl rfl (asks rfl rfl ?_)
  refine hears rfl (ends rfl ?_)
  refine hears rfl (asks rfl rfl (hears rfl ?_))
  refine asks rfl rfl (hears rfl ?_)
  refine asks rfl rfl (hears rfl (ends rfl ?_))
  exact .single (.join fun t member => List.eq_of_mem_replicate (n := 2) member)

theorem answersBy : AnswersBy script seen := by
  intro r
  by_cases one : r = .execution "a"
  · subst one
    rfl
  · by_cases other : r = .execution "b"
    · subst other
      rfl
    · have unasked : toldAbout r seen = [] := by
        refine List.filter_eq_nil_iff.2 fun t member answered => ?_
        have among : t.1 ∈ [.token, .token, .request (.execution "b"), .request (.execution "a"),
            .sleep (twice.delayAfter 1), .token, .request (.execution "a")] := List.mem_map_of_mem member
        rw [Node.Request.answeredBy_iff.1 answered] at among
        simp [one, other] at among
      rw [unasked]
      rfl

/-- The results come in the other order, and each is what the script of its digest comes to. -/
theorem fetched_by_script : ∃ placed,
    OneEach ["a", "b"] (ExecutionAt twice ["a", "b"] seen) seen
      [script (.execution "b") 1, script (.execution "a") 2] placed ∧
    (∃ a, placed[0]? = some a ∧ Scripted twice (.execution "a") (script (.execution "a")) a) ∧
    ∃ a, placed[1]? = some a ∧ Scripted twice (.execution "b") (script (.execution "b")) a := by
  obtain ⟨-, executions⟩ := fetched_item_by_item twice world () () seen
  obtain ⟨placed, -, each⟩ := (executions ["a", "b"] _ completes).1 _ rfl
  obtain ⟨a, at_, answers, fetched⟩ := each.fetched (i := 0) rfl
  obtain ⟨b, at_', answers', fetched'⟩ := each.fetched (i := 1) rfl
  have always (r : Node.Request) (n : Nat) : script r n = script r 1 := rfl
  exact ⟨placed, each, ⟨a, at_, fetched.scripted script answersBy (.inr (always _))⟩,
    ⟨b, at_', fetched'.scripted script answersBy (.inr (always _))⟩⟩

end TwoDigests

end Running

end ChainIndex
