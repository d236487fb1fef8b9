import ChainIndex.Proofs.Contract.Strand
import ChainIndex.Proofs.Running.Lived
import ChainIndex.Proofs.Running.Played

/-!
# Strands that keep a record

What a strand gives may say little of what it was told on its way. A strand that is *recorded* puts the same questions
and does the same with the answers, and gives the list of them besides (`Strand.map_recorded`). So what a member of a
crew was told can be spoken of when it is at its end, whatever the others did meanwhile.

**A record is true** (`Strand.Ensures.recorded`). The text of the strand leads along the recorded answers, from the
first to the last, to what the strand gives. Whatever contract the strand keeps, it keeps recorded.
-/

namespace ChainIndex

variable {σ α β : Type}

namespace Strand

/-- The strand, with a record of what it was told. -/
def recorded : Strand β → Strand (List Telling × β)
  | .done b => .done ([], b)
  | .ask q next => .ask q fun a => Prod.map (⟨q, a⟩ :: ·) id <$> (next a).recorded

/-- Answered like this, one question after another, the strand gives `b`. -/
inductive Answered : Strand β → List Telling → β → Prop where
  | done (b : β) : Answered (.done b) [] b
  | ask {q : Query} {next : q.Answer → Strand β} {a : q.Answer} {told : List Telling} {b : β}
      (rest : Answered (next a) told b) : Answered (.ask q next) (⟨q, a⟩ :: told) b

/-- The record changes nothing. -/
theorem map_recorded (s : Strand β) : Prod.snd <$> s.recorded = s := by
  induction s with
  | done b => rfl
  | ask q next ih =>
    change Strand.ask q (fun a => Prod.snd <$> Prod.map (⟨q, a⟩ :: ·) id <$> (next a).recorded) = _
    refine congrArg (Strand.ask q) (funext fun a => ?_)
    rw [← comp_map]
    exact ih a

/-- The record of two strands one after the other. -/
theorem recorded_bind (p : Strand α) (f : α → Strand β) :
    (p >>= f).recorded = p.recorded >>= fun x => Prod.map (x.1 ++ ·) id <$> (f x.2).recorded := by
  induction p with
  | done a =>
    change (f a).recorded = Prod.map ([] ++ ·) id <$> (f a).recorded
    exact (id_map _).symm
  | ask q next ih =>
    change Strand.ask q (fun a => Prod.map (⟨q, a⟩ :: ·) id <$> (next a >>= f).recorded) =
      Strand.ask q fun a => (Prod.map (⟨q, a⟩ :: ·) id <$> (next a).recorded) >>= _
    refine congrArg (Strand.ask q) (funext fun a => ?_)
    rw [ih, map_bind, bind_map_left]
    refine congrArg (_ >>= ·) (funext fun x => ?_)
    rw [← comp_map]
    rfl

namespace Answered

variable {s : Strand β} {told : List Telling} {b : β}

theorem of_pure {a : β} (h : (pure a : Strand β).Answered told b) : told = [] ∧ b = a := by
  cases h with
  | done => exact ⟨rfl, rfl⟩

theorem of_query {q : Query} {a : q.Answer} (h : (query q).Answered told a) : told = [⟨q, a⟩] := by
  cases h with
  | ask rest =>
    obtain ⟨rfl, rfl⟩ := of_pure rest
    rfl

theorem of_bind {p : Strand α} {f : α → Strand β} (h : (p >>= f).Answered told b) :
    ∃ a first rest, p.Answered first a ∧ (f a).Answered rest b ∧ told = first ++ rest := by
  change (p.bind f).Answered told b at h
  induction p generalizing told with
  | done a => exact ⟨a, [], told, .done a, h, rfl⟩
  | ask q next ih =>
    cases h with
    | @ask _ _ x _ _ later =>
      obtain ⟨a, first, rest, one, other, rfl⟩ := ih x later
      exact ⟨a, ⟨q, x⟩ :: first, rest, .ask one, other, rfl⟩

/-- A question with its answer, and then what follows the answer. -/
theorem of_ask {q : Query} {f : q.Answer → Strand β} (h : (query q >>= f).Answered told b) :
    ∃ a rest, (f a).Answered rest b ∧ told = ⟨q, a⟩ :: rest := by
  obtain ⟨a, first, rest, one, more, rfl⟩ := of_bind h
  obtain rfl := of_query one
  exact ⟨a, rest, more, rfl⟩

/-- The answers decide how far a strand comes, and what it gives. -/
theorem unique {first first' rest rest' : List Telling} {b' : β} (h : s.Answered first b) (h' : s.Answered first' b')
    (same : first ++ rest = first' ++ rest') : first = first' ∧ b = b' := by
  induction h generalizing first' with
  | done b =>
    cases h'
    exact ⟨rfl, rfl⟩
  | ask _ ih =>
    cases h' with
    | ask later =>
      obtain ⟨head, tail⟩ := List.cons.inj same
      cases head
      obtain ⟨rfl, rfl⟩ := ih later tail
      exact ⟨rfl, rfl⟩

theorem same_end {b' : β} (h : s.Answered told b) (h' : s.Answered told b') : b = b' :=
  (h.unique h' (rfl : told ++ [] = told ++ [])).2

end Answered

/-! ## Contracts of records -/

variable {G : Growth σ} {C : Contract G} {post : σ → β → Prop} {w : σ}

/-- A strand keeps a contract if it may put its questions at any time. -/
theorem Asks.ensures {s : Strand β} (h : s.Asks fun q => ∀ w, C.Allows w q) : s.Ensures C (fun _ _ => True) w := by
  induction s generalizing w with
  | done b => exact fun _ _ _ => trivial
  | ask q next ih => exact fun w₁ _ _ => ⟨h.1 w₁, fun a _ _ _ _ => ih a (h.2 a)⟩

/-- **A record is true**, and the contract is kept. -/
theorem Ensures.recorded {s : Strand β} (h : s.Ensures C post w) :
    s.recorded.Ensures C (fun w₁ x => post w₁ x.2 ∧ s.Answered x.1 x.2) w := by
  induction s generalizing w with
  | done b => exact fun w₁ later sound => ⟨h w₁ later sound, .done b⟩
  | ask q next ih =>
    intro w₁ later sound
    obtain ⟨may, goOn⟩ := h w₁ later sound
    refine ⟨may, fun a w₂ later' sound' told => ?_⟩
    exact (ih a (goOn a w₂ later' sound' told)).map fun x _ _ _ ⟨holds, answered⟩ => ⟨holds, .ask answered⟩

/-- What follows a strand has a record behind the record of the strand. -/
theorem Ensures.recorded_bind {mid : σ → α → Prop} {p : Strand α} {f : α → Strand β}
    {post : σ → List Telling × β → Prop} (h : p.Ensures C mid w)
    (goOn : ∀ first a, p.Answered first a → G.Always w fun w₁ => G.Always w₁ (mid · a) →
      (f a).recorded.Ensures C (fun w₂ x => post w₂ (first ++ x.1, x.2)) w₁) :
    (p >>= f).recorded.Ensures C post w := by
  rw [Strand.recorded_bind]
  refine h.recorded.bind ?_
  rintro ⟨first, a⟩ w₁ later sound answered
  have holds : G.Always w₁ (mid · a) := fun w₂ later' sound' => (answered w₂ later' sound').1
  exact (goOn first a (answered w₁ (G.refl w₁) sound).2 w₁ later sound holds).map fun _ _ _ _ => id

/-- A question and its answer are at the head of the record. -/
theorem ensures_recorded_query {q : Query} {f : q.Answer → Strand β} {post : σ → List Telling × β → Prop}
    (may : G.Always w (C.Allows · q))
    (goOn : ∀ a, G.Always w fun w₁ => C.Tells w₁ q a →
      (f a).recorded.Ensures C (fun w₂ x => post w₂ (⟨q, a⟩ :: x.1, x.2)) w₁) :
    (query q >>= f).recorded.Ensures C post w := by
  intro w₁ later sound
  refine ⟨may w₁ later sound, fun a w₂ later' sound' told => ?_⟩
  exact (goOn a w₂ (G.trans later later') sound' told).map fun _ _ _ _ => id

end Strand

/-! ## Records of what is played -/

namespace Rule

variable (rule : Rule σ)

theorem play_bind (p : Strand α) (f : α → Strand β) (w : σ) :
    rule.play (p >>= f) w = rule.play (f (rule.play p w).1) (rule.play p w).2 := by
  change rule.play (p.bind f) w = _
  induction p generalizing w with
  | done a => rfl
  | ask q next ih =>
    cases q with
    | insertAll batches => exact ih _ _
    | _ => exact ih _ _

/-- A recorded strand is played like the strand, and its record is true. -/
theorem play_recorded (s : Strand β) (w : σ) : ∃ told, s.Answered told (rule.play s w).1 ∧
    rule.play s.recorded w = ((told, (rule.play s w).1), (rule.play s w).2) := by
  induction s generalizing w with
  | done b => exact ⟨[], .done b, rfl⟩
  | ask q next ih =>
    have goOn (a : q.Answer) (w₁ : σ) : ∃ told, (Strand.ask q next).Answered told (rule.play (next a) w₁).1 ∧
        rule.play (Prod.map (⟨q, a⟩ :: ·) id <$> (next a).recorded) w₁ =
          ((told, (rule.play (next a) w₁).1), (rule.play (next a) w₁).2) := by
      obtain ⟨told, answered, played⟩ := ih a w₁
      refine ⟨⟨q, a⟩ :: told, .ask answered, ?_⟩
      change rule.play ((next a).recorded >>= fun x => pure (Prod.map (⟨q, a⟩ :: ·) id x)) w₁ = _
      rw [play_bind, played]
      rfl
    cases q with
    | insertAll batches => exact goOn _ _
    | _ => exact goOn _ _

/-- The record of two strands that are played is that of the one, and then that of the other. -/
theorem play_recorded_bind (p : Strand α) (f : α → Strand β) (w : σ) : ∃ first rest,
    p.Answered first (rule.play p w).1 ∧
    (f (rule.play p w).1).Answered rest (rule.play (f (rule.play p w).1) (rule.play p w).2).1 ∧
    (rule.play (p >>= f).recorded w).1.1 = first ++ rest := by
  obtain ⟨first, answered, played⟩ := rule.play_recorded p w
  obtain ⟨rest, more, goesOn⟩ := rule.play_recorded (f (rule.play p w).1) (rule.play p w).2
  refine ⟨first, rest, answered, more, ?_⟩
  rw [Strand.recorded_bind, play_bind, played]
  change (rule.play ((f (rule.play p w).1).recorded >>= fun x => pure (Prod.map (first ++ ·) id x)) _).1.1 = _
  rw [play_bind, goesOn]
  rfl

/-- What is done to what a strand gives is not seen in its record. -/
theorem play_recorded_map (g : α → β) (s : Strand α) (w : σ) : ∃ told, s.Answered told (rule.play s w).1 ∧
    rule.play (g <$> s).recorded w = ((told, g (rule.play s w).1), (rule.play s w).2) := by
  obtain ⟨told, answered, played⟩ := rule.play_recorded s w
  refine ⟨told, answered, ?_⟩
  change rule.play (s >>= fun a => pure (g a)).recorded w = _
  rw [Strand.recorded_bind, play_bind, played]
  change ((told ++ [], g (rule.play s w).1), (rule.play s w).2) = _
  rw [List.append_nil]

end Rule

end ChainIndex
