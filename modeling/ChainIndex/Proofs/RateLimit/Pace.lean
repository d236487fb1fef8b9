import ChainIndex.Proofs.Time.Duration
import ChainIndex.RateLimit.Pace

/-!
# How fast a limiter may be

The rate that a limiter is meant to keep is its capacity per window. It is rounded twice on the way to a pace: the
period is cut to whole nanoseconds and is a millisecond at least, and what a tick gives back is rounded up to whole
tokens. Both roundings are to the side of more tokens.

So a window's worth of ticks may give more than the capacity, but never as much as twice of it
(`Pace.amount_mul_window_le`).
-/

namespace ChainIndex

namespace RateLimit.Pace

/-- A tick that is due by a millisecond is among those that are counted. -/
theorem le_ticksBy {p : Pace} (positive : 0 < p.period.toNanos) {k ms : Nat} (due : p.dueAt k ≤ ms) :
    k ≤ p.ticksBy ms := by
  rw [ticksBy, Nat.le_div_iff_mul_le positive]
  have cut : k * p.period.toNanos + (nanosPerMilli - 1) < (ms + 1) * nanosPerMilli := by
    rw [← Nat.div_lt_iff_lt_mul (by decide)]
    exact Nat.lt_succ_of_le due
  rw [Nat.add_mul] at cut
  omega

/-- Ticks that are counted by a millisecond are due by then. -/
theorem dueAt_le {p : Pace} {k ms : Nat} (counted : k ≤ p.ticksBy ms) : p.dueAt k ≤ ms := by
  have passed : k * p.period.toNanos ≤ ms * nanosPerMilli :=
    Nat.le_trans (Nat.mul_le_mul_right _ counted) (Nat.div_mul_le_self _ _)
  have least : 0 < nanosPerMilli := by decide
  refine Nat.le_of_lt_succ ((Nat.div_lt_iff_lt_mul least).2 ?_)
  rw [Nat.succ_mul]
  omega

theorem ticksBy_mono (p : Pace) {ms ms' : Nat} (le : ms ≤ ms') : p.ticksBy ms ≤ p.ticksBy ms' :=
  Nat.div_le_div_right (Nat.mul_le_mul_right nanosPerMilli le)

section

variable (capacity : Nat) (window : Duration)

/-- Into how many parts the window is cut. -/
def parts : Nat := min (max capacity 1) mostParts

theorem parts_pos : 0 < parts capacity := by
  rw [parts, mostParts]
  omega

theorem parts_le : parts capacity ≤ max capacity 1 := Nat.min_le_left _ _

theorem period_of : (Pace.of capacity window).period = (window.div (parts capacity).toUInt32).max leastPeriod := by
  rw [Pace.of, parts]

theorem toNanos_period :
    (Pace.of capacity window).period.toNanos = max (window.toNanos / parts capacity) nanosPerMilli := by
  have few : parts capacity < UInt32.size := by
    have : mostParts < UInt32.size := by decide
    exact Nat.lt_of_le_of_lt (Nat.min_le_right _ _) this
  have same : (parts capacity).toUInt32.toNat = parts capacity := by
    rw [Nat.toUInt32_eq, UInt32.toNat_ofNat_of_lt' few]
  have least : leastPeriod.toNanos = nanosPerMilli := by decide
  have positive : 0 < (parts capacity).toUInt32.toNat := by
    rw [same]
    exact parts_pos capacity
  rw [period_of, Duration.toNanos_max, Duration.toNanos_div window positive, same, least]

theorem period_pos : 0 < (Pace.of capacity window).period.toNanos := by
  have least : 0 < nanosPerMilli := by decide
  rw [toNanos_period]
  exact Nat.lt_of_lt_of_le least (Nat.le_max_right _ _)

/-- A window is shorter than twice the time in which ticks of one token give as many as the bucket holds. -/
theorem window_le : window.toNanos ≤ 2 * (max capacity 1 * (Pace.of capacity window).period.toNanos) := by
  have whole := toNanos_period capacity window
  have positive := period_pos capacity window
  generalize (Pace.of capacity window).period.toNanos = period at whole positive ⊢
  have cut : window.toNanos < (window.toNanos / parts capacity + 1) * parts capacity := by
    rw [← Nat.div_lt_iff_lt_mul (parts_pos capacity)]
    exact Nat.lt_succ_self _
  have longer : window.toNanos / parts capacity + 1 ≤ 2 * period := by omega
  calc window.toNanos
      ≤ (window.toNanos / parts capacity + 1) * parts capacity := Nat.le_of_lt cut
    _ ≤ 2 * period * max capacity 1 := Nat.mul_le_mul longer (parts_le capacity)
    _ = 2 * (max capacity 1 * period) := by rw [Nat.mul_assoc, Nat.mul_comm period]

theorem amount_of : (Pace.of capacity window).amount =
    tokensPerTick (max capacity 1) window (Pace.of capacity window).period := by
  rw [Pace.of]

theorem amount_pos : 0 < (Pace.of capacity window).amount := by
  rw [amount_of, tokensPerTick]
  split
  · exact Nat.lt_of_lt_of_le Nat.one_pos (Nat.le_max_right _ _)
  · exact Nat.lt_of_lt_of_le Nat.one_pos (Nat.le_max_left _ _)

/-- **A window gives twice the capacity at most.** -/
theorem amount_mul_window_le :
    (Pace.of capacity window).amount * window.toNanos ≤
      2 * (max capacity 1 * (Pace.of capacity window).period.toNanos) := by
  have whole := window_le capacity window
  rw [amount_of]
  generalize (Pace.of capacity window).period = period at whole ⊢
  generalize max capacity 1 = most at whole ⊢
  rw [tokensPerTick]
  by_cases nothing : window.toNanos = 0
  · rw [if_pos nothing, nothing, Nat.mul_zero]
    exact Nat.zero_le _
  rw [if_neg nothing]
  generalize owed_eq : (most * period.toNanos + (window.toNanos - 1)) / window.toNanos = owed
  -- Rounded up, the tokens owed are less than one more than what is owed exactly.
  have rounded : owed * window.toNanos ≤ most * period.toNanos + (window.toNanos - 1) :=
    owed_eq ▸ Nat.div_mul_le_self _ _
  rcases Nat.lt_or_ge 1 owed with several | one
  · have twice : 2 * window.toNanos ≤ owed * window.toNanos := Nat.mul_le_mul_right _ several
    calc max 1 (min owed most) * window.toNanos
        ≤ owed * window.toNanos := Nat.mul_le_mul_right _ (by omega)
      _ ≤ 2 * (most * period.toNanos) := by omega
  · calc max 1 (min owed most) * window.toNanos
        = window.toNanos := by rw [show max 1 (min owed most) = 1 by omega, Nat.one_mul]
      _ ≤ 2 * (most * period.toNanos) := whole

end

end RateLimit.Pace

end ChainIndex
