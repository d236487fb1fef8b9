import ChainIndex.Time.Duration

/-!
# Durations in nanoseconds

What the operations on durations do to the number of nanoseconds. A number that fits is the length of its duration; the
longer of two durations has the larger number; a part of a duration has that part of its nanoseconds; and a sum or a
product is exact, but for what is beyond the longest duration (`toNanos_carry`).
-/

namespace ChainIndex

namespace Duration

/-- The longest duration is a nanosecond short of this. -/
theorem toNanos_lt (d : Duration) : d.toNanos < UInt64.size * nanosPerSecond := by
  have nanos := d.nanos_lt
  have whole : (d.secs.toNat + 1) * nanosPerSecond ≤ UInt64.size * nanosPerSecond :=
    Nat.mul_le_mul_right _ d.secs.toNat_lt
  rw [Nat.add_one_mul] at whole
  rw [toNanos]
  omega

theorem toNanos_ofNanos {n : Nat} (fits : n < UInt64.size * nanosPerSecond) : (ofNanos n).toNanos = n := by
  have second : 0 < nanosPerSecond := by decide
  have secs : n / nanosPerSecond < UInt64.size := (Nat.div_lt_iff_lt_mul second).2 fits
  have nanos : n % nanosPerSecond < UInt32.size := Nat.lt_trans (Nat.mod_lt _ second) (by decide)
  simp only [ofNanos, toNanos, Nat.toUInt64_eq, Nat.toUInt32_eq, UInt64.toNat_ofNat_of_lt' secs,
    UInt32.toNat_ofNat_of_lt' nanos, Nat.div_add_mod']

/-- Only the shortest duration has no length. -/
theorem eq_zero_of_toNanos {d : Duration} (nothing : d.toNanos = 0) : d = zero := by
  have positive : 0 < nanosPerSecond := by decide
  obtain ⟨secs, nanos⟩ := Nat.add_eq_zero_iff.1 nothing
  have secs : d.secs.toNat = 0 := (Nat.mul_eq_zero.1 secs).resolve_right (Nat.ne_of_gt positive)
  exact Duration.ext (UInt64.toNat_inj.1 secs) (UInt32.toNat_inj.1 nanos)

theorem toNanos_max (a b : Duration) : (a.max b).toNanos = Max.max a.toNanos b.toNanos := by
  rw [Duration.max]
  by_cases less : a.toNanos < b.toNanos
  · rw [if_pos less, Nat.max_eq_right (Nat.le_of_lt less)]
  · rw [if_neg less, Nat.max_eq_left (Nat.le_of_not_lt less)]

/-- A part of a duration is a part of its nanoseconds, cut to a whole number. -/
theorem toNanos_div (d : Duration) {k : UInt32} (positive : 0 < k.toNat) :
    (d.div k).toNanos = d.toNanos / k.toNat := by
  have nanos := d.nanos_lt
  have secs := d.secs.toNat_lt
  have rest : d.secs.toNat % k.toNat < k.toNat := Nat.mod_lt _ positive
  -- What is left of the seconds is less than `k` seconds, so a part of it is less than one.
  have part : (d.secs.toNat % k.toNat * nanosPerSecond + d.nanos.toNat) / k.toNat < nanosPerSecond := by
    rw [Nat.div_lt_iff_lt_mul positive]
    have whole : (d.secs.toNat % k.toNat + 1) * nanosPerSecond ≤ k.toNat * nanosPerSecond :=
      Nat.mul_le_mul_right _ rest
    rw [Nat.add_mul, Nat.mul_comm k.toNat] at whole
    omega
  have small : nanosPerSecond < UInt32.size := by decide
  have least : d.secs.toNat / k.toNat ≤ d.secs.toNat := Nat.div_le_self _ _
  have split : d.toNanos = d.secs.toNat / k.toNat * nanosPerSecond * k.toNat +
      (d.secs.toNat % k.toNat * nanosPerSecond + d.nanos.toNat) := by
    rw [toNanos, ← Nat.add_assoc, Nat.mul_right_comm, ← Nat.add_mul, Nat.mul_comm (d.secs.toNat / k.toNat),
      Nat.div_add_mod]
  rw [split, Nat.mul_comm _ k.toNat, Nat.mul_add_div positive, toNanos, div]
  simp only [Nat.div_eq_of_lt part, Nat.mod_eq_of_lt part, Nat.add_zero, Nat.toUInt64_eq, Nat.toUInt32_eq,
    UInt64.toNat_ofNat_of_lt' (Nat.lt_of_le_of_lt least secs), UInt32.toNat_ofNat_of_lt' (Nat.lt_trans part small)]

/-- Nanoseconds are carried into seconds, and what has more seconds than fit is cut to the longest duration. -/
theorem toNanos_carry (secs low : Nat) :
    ((if secs + low / nanosPerSecond < UInt64.size then
        some (⟨(secs + low / nanosPerSecond).toUInt64, (low % nanosPerSecond).toUInt32, carry_lt low⟩ : Duration)
      else none).getD longest).toNanos = min longest.toNanos (secs * nanosPerSecond + low) := by
  have second : 0 < nanosPerSecond := by decide
  have highest : longest.toNanos + 1 = UInt64.size * nanosPerSecond := rfl
  have whole : secs * nanosPerSecond + low =
      (secs + low / nanosPerSecond) * nanosPerSecond + low % nanosPerSecond := by
    rw [Nat.add_mul, Nat.add_assoc, Nat.div_add_mod']
  by_cases fits : secs + low / nanosPerSecond < UInt64.size
  · have nanos : low % nanosPerSecond < UInt32.size := Nat.lt_trans (Nat.mod_lt low second) (by decide)
    have exact_ : toNanos ⟨(secs + low / nanosPerSecond).toUInt64, (low % nanosPerSecond).toUInt32, carry_lt low⟩ =
        secs * nanosPerSecond + low := by
      simp only [toNanos, Nat.toUInt64_eq, Nat.toUInt32_eq, UInt64.toNat_ofNat_of_lt' fits,
        UInt32.toNat_ofNat_of_lt' nanos, whole]
    have below := toNanos_lt ⟨(secs + low / nanosPerSecond).toUInt64, (low % nanosPerSecond).toUInt32, carry_lt low⟩
    rw [exact_, ← highest] at below
    rw [if_pos fits, Option.getD_some, exact_, Nat.min_eq_right (Nat.le_of_lt_succ below)]
  · have beyond : longest.toNanos ≤ secs * nanosPerSecond + low :=
      calc longest.toNanos
        _ ≤ UInt64.size * nanosPerSecond := Nat.le_of_lt (toNanos_lt longest)
        _ ≤ (secs + low / nanosPerSecond) * nanosPerSecond := Nat.mul_le_mul_right _ (Nat.le_of_not_lt fits)
        _ ≤ secs * nanosPerSecond + low := by rw [whole]; exact Nat.le_add_right _ _
    rw [if_neg fits, Option.getD_none, Nat.min_eq_left beyond]

/-- A product is exact, or the longest duration. -/
theorem toNanos_mul (d : Duration) (k : UInt32) : (d.mul k).toNanos = min longest.toNanos (d.toNanos * k.toNat) := by
  have split : d.toNanos * k.toNat = d.secs.toNat * k.toNat * nanosPerSecond + d.nanos.toNat * k.toNat := by
    rw [toNanos, Nat.add_mul, Nat.mul_right_comm]
  rw [split, mul, mul?, toNanos_carry]

/-- A sum is exact, or the longest duration. -/
theorem toNanos_add (a b : Duration) : (a.add b).toNanos = min longest.toNanos (a.toNanos + b.toNanos) := by
  have split : a.toNanos + b.toNanos =
      (a.secs.toNat + b.secs.toNat) * nanosPerSecond + (a.nanos.toNat + b.nanos.toNat) := by
    rw [toNanos, toNanos, Nat.add_mul]
    omega
  rw [split, add, add?, toNanos_carry]

end Duration

end ChainIndex
