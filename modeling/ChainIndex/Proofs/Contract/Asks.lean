import ChainIndex.Proofs.Contract.Plan
import ChainIndex.Proofs.Contract.Retry

/-!
# Which questions are put

If nothing is known of the states of the world, a contract only says which questions may be put, and
every world honours it. So a plan that ensures anything under `Contract.only P` puts questions that
satisfy `P` and no others, whatever the world does (`Steps.asks`).
-/

namespace ChainIndex

/-- States of which nothing is known. -/
def Growth.any (σ : Type) : Growth σ where
  Sound _ := True
  Later _ _ := True
  refl _ := trivial
  trans _ _ := trivial

/-- Only such questions may be put, and nothing is known of the answers. -/
def Contract.only (σ : Type) (P : Query → Prop) : Contract (Growth.any σ) where
  May _ q := P q
  Told _ _ _ := True
  may_later _ may := may
  stored_later _ _ := trivial

variable {σ α β : Type} {P : Query → Prop} {w : σ}

/-! ## Under another contract -/

section

variable {G : Growth σ} {C : Contract G}

theorem Contract.tells_only {q : Query} {a : q.Answer} {w' : σ} (told : C.Tells w q a) :
    (Contract.only σ P).Tells w' q a := by
  match q, a with
  | .insertAll batches, .ok n => exact fun b _ => ⟨n, trivial⟩
  | .insertAll batches, .error e =>
    obtain ⟨b, member, -⟩ := told
    exact ⟨b, member, trivial⟩
  | .request _, _ | .call _, _ | .book _ _, _ | .token, _ | .tryToken, _ | .sleep _, _ | .pause _, _ | .stopped, _ =>
    exact trivial

theorem Contract.allows_of_only (may : ∀ w q, P q → C.May w q) {q : Query} {w' : σ}
    (allows : (Contract.only σ P).Allows w' q) : C.Allows w q := by
  match q with
  | .insertAll batches => exact fun b member => may w _ (allows b member)
  | .request _ | .call _ | .book _ _ | .token | .tryToken | .sleep _ | .pause _ | .stopped => exact may w _ allows

/-- What puts only such questions may be run wherever they may be put. -/
theorem Strand.Ensures.of_only {s : Strand α} {post : σ → α → Prop} (may : ∀ w q, P q → C.May w q)
    (h : s.Ensures (Contract.only σ P) post w) : s.Ensures C (fun _ a => ∀ w', post w' a) w := by
  induction s generalizing w with
  | done a => exact fun _ _ _ w' => h w' trivial trivial
  | ask q next ih =>
    intro w₁ _ _
    obtain ⟨allows, goOn⟩ := h w₁ trivial trivial
    refine ⟨Contract.allows_of_only may allows, fun a w₂ _ _ told => ?_⟩
    exact ih a (goOn a w₂ trivial trivial (Contract.tells_only told))

theorem Plan.Ensures.of_only {p : Plan α} {post : σ → α → Prop} (may : ∀ w q, P q → C.May w q)
    (h : p.Ensures (Contract.only σ P) post w) : p.Ensures C (fun _ a => ∀ w', post w' a) w := by
  induction p generalizing w with
  | done a => exact fun _ _ _ w' => h w' trivial trivial
  | run strand next ih =>
    intro w₁ _ _
    obtain ⟨mid, ensures, goOn⟩ := h w₁ trivial trivial
    refine ⟨_, ensures.of_only may, fun b w₂ _ sound given => ?_⟩
    exact ih b (goOn b w₂ trivial trivial fun w' _ _ => given w₂ (G.refl w₂) sound w')
  | fork strands next ih =>
    intro w₁ _ _
    obtain ⟨mid, ensures, goOn⟩ := h w₁ trivial trivial
    refine ⟨_, fun i s at_ => (ensures i s at_).of_only may, fun rs w₂ _ sound given => ?_⟩
    refine ih rs (goOn rs w₂ trivial trivial ⟨given.1, fun r member w' _ _ => ?_⟩)
    exact given.2 r member w₂ (G.refl w₂) sound w'

end

namespace Running

variable {E : Environment σ} {w' : σ} {es es' : List Event}

/-- Only such questions were put. -/
def Asked (P : Query → Prop) (es : List Event) : Prop := ∀ who q, .asked who q ∈ es → P q

theorem Asked.mono {Q : Query → Prop} (h : Asked P es) (imp : ∀ {q}, P q → Q q) : Asked Q es :=
  fun who q member => imp (h who q member)

theorem Asked.append (h : Asked P es) (h' : Asked P es') : Asked P (es ++ es') := by
  intro who q member
  rcases List.mem_append.1 member with member | member
  · exact h who q member
  · exact h' who q member

theorem Environment.honors_only : E.Honors (Contract.only σ P) where
  keeps _ _ _ _ := ⟨trivial, trivial⟩
  answers _ _ _ := ⟨trivial, trivial, trivial⟩
  works _ _ _ := ⟨trivial, trivial⟩

/-- **Only such questions are put**, whatever the world does. -/
theorem Steps.asks {p : Plan α} {s : Stage α} {post : σ → α → Prop} (asks : p.Ensures (Contract.only σ P) post w)
    (h : Steps E w (start p) es w' s) : Asked P es := by
  obtain ⟨-, -, -, may⟩ := Steps.meets Environment.honors_only h trivial (start_meets trivial asks)
  intro who q member
  obtain ⟨_, -, -, -, holds⟩ := may who q member
  exact holds

end Running

/-! ## What is asked -/

theorem Strand.asks_pure (a : α) : (pure a : Strand α).Ensures (Contract.only σ P) (fun _ _ => True) w :=
  ensures_pure fun _ _ _ => trivial

theorem Plan.asks_pure (a : α) : (pure a : Plan α).Ensures (Contract.only σ P) (fun _ _ => True) w :=
  ensures_pure fun _ _ _ => trivial

/-- One question. -/
theorem Strand.asks_query {q : Query} (plain : q.isPlain) (may : P q) :
    (Strand.query q).Ensures (Contract.only σ P) (fun _ _ => True) w := by
  intro w₁ _ _
  refine ⟨(Contract.allows_of_plain _ plain).2 may, fun a w₂ _ _ _ => ?_⟩
  exact asks_pure a

theorem Node.Request.asks_fetch {retry : Retry.Params} {r : Node.Request} (sleep : ∀ d, P (.sleep d)) (token : P .token)
    (request : P (.request r)) : (r.fetch retry).Ensures (Contract.only σ P) (fun _ _ => True) w := by
  apply ensures_fetch
  · exact fun d _ _ _ => sleep d
  · exact fun _ _ _ => token
  · exact fun _ _ _ => request
  · exact fun _ _ _ _ _ _ _ _ => trivial

/-- Strands that put only such questions, side by side. -/
theorem Plan.asks_unordered {strands : List (Strand β)}
    (asks : ∀ s ∈ strands, s.Ensures (Contract.only σ P) (fun _ _ => True) w) :
    (Plan.unordered strands).Ensures (Contract.only σ P) (fun _ _ => True) w := by
  apply ensures_fork fun _ _ _ => True
  · intro i s at_
    exact asks s (List.mem_of_getElem? at_)
  · intro results _ _ _ _
    exact asks_pure _

end ChainIndex
