import ChainIndex.Proofs.RateLimit.Sharing

/-!
# How many callers a limiter lets through

A caller is let through by a token of the full bucket or by one that a tick put back, so what the ticks put back is
all there is to count. By a time there were as many ticks as are due by then, and each puts back the pace's amount at
most (`Shared.Sound.granted_le`).

**Within `n` windows** (`granted_within_windows`) a limiter lets through its capacity `n + 1` times at most if the
amount divides out, which is to say that ticks of that amount come at the rate of the capacity per window and no
faster. In general the amount is rounded up, and all that is left is `2 * n + 1` times the capacity. The bound for
amounts that divide out does not hold in general (`over_budget`): five tokens per four milliseconds come back two in
each millisecond.
-/

namespace ChainIndex.RateLimit

/-- The ticks of `n` windows put back no more than `n` times what the ticks of one window may. -/
theorem Pace.returned_le {p : Pace} {ms n k : Nat} {window : Duration} (positive : 0 < p.period.toNanos)
    (within : ms * nanosPerMilli ≤ n * window.toNanos)
    (rate : p.amount * window.toNanos ≤ k * (p.capacity * p.period.toNanos)) :
    p.ticksBy ms * p.amount ≤ p.capacity * (k * n) := by
  have passed : p.ticksBy ms * p.period.toNanos ≤ n * window.toNanos :=
    Nat.le_trans (Nat.div_mul_le_self _ _) within
  refine Nat.le_of_mul_le_mul_right ?_ positive
  calc p.ticksBy ms * p.amount * p.period.toNanos
      = p.ticksBy ms * p.period.toNanos * p.amount := Nat.mul_right_comm _ _ _
    _ ≤ n * window.toNanos * p.amount := Nat.mul_le_mul_right _ passed
    _ = n * (p.amount * window.toNanos) := by rw [Nat.mul_assoc, Nat.mul_comm p.amount]
    _ ≤ n * (k * (p.capacity * p.period.toNanos)) := Nat.mul_le_mul_left _ rate
    _ = p.capacity * (k * n) * p.period.toNanos := by
      rw [← Nat.mul_assoc, Nat.mul_comm n, ← Nat.mul_assoc, Nat.mul_comm (k * n)]

namespace Shared

variable {s : Shared}

/-- Every token that was granted was in the full bucket or was put back by a tick that was due. -/
theorem Sound.granted_le {p : Pace} (sound : s.Sound p) :
    s.granted.length ≤ p.capacity + p.ticksBy s.now * p.amount := by
  have balance := sound.balance
  have returns := sound.returns
  have due : s.limiter.ticks * p.amount ≤ p.ticksBy s.now * p.amount := Nat.mul_le_mul_right _ sound.due
  omega

/-- **What a limiter lets through** in its first `n` windows, whoever calls it and when. -/
theorem granted_within_windows {capacity n : Nat} {window : Duration} (positive : 1 ≤ capacity)
    (run : (new capacity window).Leads s) (within : s.now * nanosPerMilli ≤ n * window.toNanos) :
    let p := Pace.of capacity window
    s.granted.length ≤ capacity + p.ticksBy s.now * p.amount ∧
    (p.amount * window.toNanos ≤ capacity * p.period.toNanos → s.granted.length ≤ capacity * (n + 1)) ∧
    s.granted.length ≤ capacity * (2 * n + 1) := by
  intro p
  have size : p.capacity = capacity := Nat.max_eq_left positive
  have ticking : 0 < p.period.toNanos := Pace.period_pos capacity window
  have granted : s.granted.length ≤ capacity + p.ticksBy s.now * p.amount :=
    size ▸ ((sound_new capacity window).leads ticking run).granted_le
  refine ⟨granted, fun even => ?_, ?_⟩
  · have returned : p.ticksBy s.now * p.amount ≤ capacity * (1 * n) :=
      size ▸ Pace.returned_le ticking within (by rw [size, Nat.one_mul]; exact even)
    rw [Nat.one_mul] at returned
    rw [Nat.mul_add_one]
    omega
  · have returned : p.ticksBy s.now * p.amount ≤ capacity * (2 * n) :=
      size ▸ Pace.returned_le ticking within (Pace.amount_mul_window_le capacity window)
    rw [Nat.mul_add_one]
    omega

/-- Takes all that is there as soon as it is there. -/
def greedy : List Move :=
  .replicate 5 (.allow 0) ++ [.pass 1, .look, .putBack] ++ .replicate 2 (.allow 0) ++ [.pass 1, .look, .putBack] ++
    .replicate 2 (.allow 0) ++ [.pass 1, .look, .putBack] ++ .replicate 2 (.allow 0)

/-- Eleven are let through in three milliseconds, which is as many as the bucket and three ticks have. -/
theorem greedy_within :
    ∃ s, play greedy (new 5 (.ofMillis 4)) = some s ∧ s.granted.length = 11 ∧
      s.granted.length ≤ 5 + 3 * 2 ∧ s.granted.length ≤ 5 * (2 * 1 + 1) := by
  have run : play greedy (new 5 (.ofMillis 4)) = some _ := rfl
  obtain ⟨counted, -, rough⟩ := granted_within_windows (n := 1) (Nat.le_add_left 1 4) (leads_of_play run) (by decide)
  exact ⟨_, rfl, rfl, counted, rough⟩

/-- The three milliseconds are within the first window, but eleven are more than twice the capacity. -/
theorem over_budget :
    ∃ s, (new 5 (.ofMillis 4)).Leads s ∧ s.now * nanosPerMilli ≤ 1 * (Duration.ofMillis 4).toNanos ∧
      s.granted.length = 11 ∧ ¬ s.granted.length ≤ 5 * (1 + 1) := by
  have run : play greedy (new 5 (.ofMillis 4)) = some _ := rfl
  exact ⟨_, leads_of_play run, by decide, rfl, by decide⟩

end Shared

end ChainIndex.RateLimit
