import ChainIndex.Fetch
import ChainIndex.Proofs.Contract.Strand

/-!
# Contracts kept by retries

An action that is tried again and again gives what one of its attempts gave. So what every attempt
ensures of its answer, the whole ensures of its outcome, however often it was tried.
-/

namespace ChainIndex

variable {σ ε α : Type} {G : Growth σ} {C : Contract G} {post : σ → Except ε α → Prop} {w : σ}

theorem Retry.ensures_attemptFrom {p : Retry.Params} {retryable : ε → Bool} {act : UInt32 → Strand (Except ε α)}
    (sleep : ∀ d, G.Always w (C.May · (.sleep d))) (attempt : ∀ n, G.Always w fun w₁ => (act n).Ensures C post w₁)
    (more : Nat) (n : UInt32) :
    (Retry.attemptFrom Strand.sleep p retryable act more n).Ensures C (fun w₁ o => post w₁ o.toExcept) w := by
  induction more generalizing n w with
  | zero =>
    refine Strand.ensures_of_sound fun w₁ later sound => (attempt n w₁ later sound).bind fun a w₂ _ _ holds => ?_
    cases a with
    | ok value => exact Strand.ensures_pure holds
    | error e => exact Strand.ensures_pure holds
  | succ more ih =>
    refine Strand.ensures_of_sound fun w₁ later sound => (attempt n w₁ later sound).bind fun a w₂ later' _ holds => ?_
    cases a with
    | ok value => exact Strand.ensures_pure holds
    | error e =>
      by_cases again : retryable e
      · simp only [again, if_true]
        have later₂ := G.trans later later'
        refine Strand.ensures_query ((sleep _).later later₂) ?_
        intro _ w₃ later₃ _ _
        exact ih (fun d => (sleep d).later (G.trans later₂ later₃))
          (fun k => (attempt k).later (G.trans later₂ later₃)) (n + 1)
      · simp only [again, Bool.false_eq_true, if_false]
        exact Strand.ensures_pure holds

/-- What every attempt ensures, the outcome satisfies. -/
theorem Retry.ensures_runIf {p : Retry.Params} {retryable : ε → Bool} {act : UInt32 → Strand (Except ε α)}
    (sleep : ∀ d, G.Always w (C.May · (.sleep d))) (attempt : ∀ n, G.Always w fun w₁ => (act n).Ensures C post w₁) :
    (Retry.runIf Strand.sleep p retryable act).Ensures C (fun w₁ o => post w₁ o.toExcept) w :=
  ensures_attemptFrom sleep attempt _ _

/-- A fetch gives one of the answers of the node. -/
theorem Node.Request.ensures_fetch {retry : Retry.Params} {r : Node.Request} {post : σ → r.Answer → Prop}
    (sleep : ∀ d, G.Always w (C.May · (.sleep d))) (token : G.Always w (C.May · .token))
    (may : G.Always w (C.May · (.request r)))
    (answer : ∀ a, G.Always w fun w₁ => C.Told w₁ (.request r) a → G.Always w₁ (post · a)) :
    (r.fetch retry).Ensures C post w := by
  have attempt : ∀ _ : UInt32, G.Always w fun w₁ => r.send.Ensures C post w₁ := by
    intro _ w₁ later _
    refine Strand.ensures_query (token.later later) ?_
    intro _ w₂ later' _ _
    have later₂ := G.trans later later'
    exact fun w₃ later₃ sound₃ => ⟨may w₃ (G.trans later₂ later₃) sound₃, fun a w₄ later₄ sound₄ told =>
      answer a w₄ (G.trans later₂ (G.trans later₃ later₄)) sound₄ told⟩
  exact (Retry.ensures_runIf sleep attempt).bind fun o w₁ _ _ holds => Strand.ensures_pure holds

end ChainIndex
