import ChainIndex.Proofs.Time.Duration
import ChainIndex.Retry

/-!
# How long the sleep after an attempt is

The sleep is a product with a sum on top of it, and either may be cut to the longest duration. **It is the exact sum,
cut once** (`delayAfter_exact`): a product that was cut is the longest duration already, and adding to that leaves it so.

Whether a pause is due is found out by a division. Dividing by zero gives no result (`rest?`), and the sleep is followed
through its computation with that in mind (`delayAfter?`): it is only divided where there is a result.
-/

namespace ChainIndex.Retry

/-- What a division leaves, if it has a result. -/
def rest? (n k : UInt32) : Option UInt32 := if k = 0 then none else some (n % k)

namespace Params

/-- Whether a pause follows the attempt. The second condition is only looked at if the first holds. -/
def pauseDue? (p : Params) (attempt : UInt32) : Option Bool :=
  if 0 < p.pauseEvery then (rest? attempt p.pauseEvery).map (decide <| · = 0) else some false

/-- The sleep after a failed attempt, if it can be computed. -/
def delayAfter? (p : Params) (attempt : UInt32) : Option Duration :=
  (p.pauseDue? attempt).map fun due =>
    if due then (p.backoff.mul attempt).add p.pause else p.backoff.mul attempt

variable (p : Params) (attempt : UInt32)

/-- It is only divided by what is not zero. -/
theorem pauseDue?_eq : p.pauseDue? attempt = some (decide (0 < p.pauseEvery ∧ attempt % p.pauseEvery = 0)) := by
  by_cases some_ : 0 < p.pauseEvery
  · have divides : p.pauseEvery ≠ 0 := fun zero => absurd (zero ▸ some_) (by decide)
    simp [pauseDue?, rest?, some_, divides]
  · simp [pauseDue?, some_]

theorem delayAfter?_eq : p.delayAfter? attempt = some (p.delayAfter attempt) := by
  rw [delayAfter?, pauseDue?_eq, Option.map_some, delayAfter]
  simp only [decide_eq_true_eq]

/-- A pause follows the multiples of a number. -/
theorem pauses_iff : (0 < p.pauseEvery ∧ attempt % p.pauseEvery = 0) ↔
    0 < p.pauseEvery.toNat ∧ p.pauseEvery.toNat ∣ attempt.toNat := by
  rw [UInt32.lt_iff_toNat_lt, ← UInt32.toNat_inj, UInt32.toNat_mod, Nat.dvd_iff_mod_eq_zero]
  rfl

/-- **The sleep is the exact sum**, cut to the longest duration: as many times the backoff as there were attempts, and
the pause if it is due. It is always computed, and its nanoseconds stay below a second. -/
theorem delayAfter_exact : p.delayAfter? attempt = some (p.delayAfter attempt) ∧
    (p.delayAfter attempt).toNanos =
      min (18446744073709551615 * 1000000000 + 999999999)
        (p.backoff.toNanos * attempt.toNat +
          if 0 < p.pauseEvery.toNat ∧ p.pauseEvery.toNat ∣ attempt.toNat then p.pause.toNanos else 0) ∧
    (p.delayAfter attempt).nanos.toNat < 1000000000 := by
  refine ⟨p.delayAfter?_eq attempt, ?_, (p.delayAfter attempt).nanos_lt⟩
  change _ = min Duration.longest.toNanos _
  simp only [← pauses_iff, delayAfter]
  by_cases due : 0 < p.pauseEvery ∧ attempt % p.pauseEvery = 0
  · -- What was cut from the product would be cut from the sum.
    rw [if_pos due, if_pos due, Duration.toNanos_add, Duration.toNanos_mul]
    omega
  · rw [if_neg due, if_neg due, Duration.toNanos_mul, Nat.add_zero]

end Params

/-- By the carry alone this would be a nanosecond more than the longest duration. -/
example : (Params.mk 1 1 ⟨0, 1, by decide⟩ ⟨18446744073709551615, 999999999, by decide⟩).delayAfter 1 =
    ⟨18446744073709551615, 999999999, by decide⟩ := by decide

end ChainIndex.Retry
