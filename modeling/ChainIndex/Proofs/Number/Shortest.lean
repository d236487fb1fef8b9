import ChainIndex.Number.Shortest
import Mathlib.Algebra.Order.Field.Power
import Mathlib.Data.Nat.Cast.Order.Field
import Mathlib.Data.Rat.Cast.Order
import Mathlib.Tactic.FieldSimp
import Mathlib.Tactic.Linarith
import Mathlib.Tactic.Positivity
import Mathlib.Tactic.Ring

/-!
# The decimal of a double reads back

A quantity that is rounded to a double, to the nearest one and half way to the even one, lies around the double as
`RoundsTo` says. The decimal that is written for a double does (`roundsTo_shortestDecimal`): it was either found in that
interval, or the double was cut off after eighteen digits, and then it is nearer than any other double could be.
-/

namespace ChainIndex

/-- The quantity of a ratio. -/
def Ratio.toRat (r : Ratio) : ℚ := r.num / r.den

/-- The quantity of a decimal. -/
def Decimal.toRat (d : Decimal) : ℚ := d.digits * 10 ^ d.exponent

/-- How far below a double lie the quantities that are rounded to it: half the gap to the next double, which is narrower
below a power of two. -/
def reachBelow (m : Nat) (q : Int) : ℚ := if m = Binary64.leastNormal ∧ q ≠ -1074 then 2 ^ (q - 2) else 2 ^ (q - 1)

/-- The quantity is rounded to the double `m · 2 ^ q`. One that is half way to another double is rounded to the even of
both. -/
def RoundsTo (m : Nat) (q : Int) (x : ℚ) : Prop :=
  if m % 2 = 0 then m * 2 ^ q - reachBelow m q ≤ x ∧ x ≤ m * 2 ^ q + 2 ^ (q - 1)
  else m * 2 ^ q - reachBelow m q < x ∧ x < m * 2 ^ q + 2 ^ (q - 1)

theorem roundsTo_of_near {m : Nat} {q : Int} {x : ℚ} (lower : m * 2 ^ q - 2 ^ (q - 2) < x) (upper : x ≤ m * 2 ^ q) :
    RoundsTo m q x := by
  have reach : (2 : ℚ) ^ (q - 2) ≤ reachBelow m q := by
    rw [reachBelow]
    split
    · exact le_refl _
    · exact zpow_le_zpow_right₀ (by norm_num) (by omega)
  have step : (0 : ℚ) < 2 ^ (q - 1) := by positivity
  rw [RoundsTo]
  split <;> constructor <;> linarith

/-! ## Ratios -/

theorem zpow_eq_div {b : ℚ} (some_ : b ≠ 0) (k : Int) : b ^ k = b ^ k.toNat / b ^ (-k).toNat := by
  rw [← zpow_natCast, ← zpow_natCast, ← zpow_sub₀ some_, Int.toNat_sub_toNat_neg]

theorem Ratio.toRat_ofBinary (m : Nat) (q : Int) : (ofBinary m q).toRat = m * 2 ^ q := by
  rw [toRat, ofBinary, zpow_eq_div two_ne_zero]
  push_cast [Nat.pow_eq]
  exact mul_div_assoc _ _ _

theorem Ratio.toRat_mul_pow (r : Ratio) (n : Nat) : r.toRat * 10 ^ n = (r.num * Nat.pow 10 n : ℕ) / r.den := by
  rw [toRat, Nat.cast_mul, div_mul_eq_mul_div, Nat.pow_eq, Nat.cast_pow, Nat.cast_ofNat]

/-- A quantity in units of some decimal place, cut off. -/
theorem Ratio.floor_bounds {r : Ratio} (some_ : 0 < r.den) (n : Nat) (large : 1 ≤ r.toRat * 10 ^ n) :
    0 < r.num * Nat.pow 10 n / r.den ∧ ((r.num * Nat.pow 10 n / r.den : ℕ) : ℚ) ≤ r.toRat * 10 ^ n := by
  have den : (0 : ℚ) < r.den := by exact_mod_cast some_
  rw [toRat_mul_pow] at large ⊢
  refine ⟨Nat.div_pos ?_ some_, Nat.cast_div_le⟩
  rw [le_div_iff₀ den, one_mul] at large
  exact_mod_cast large

theorem Ratio.ofBinary_den_pos (m : Nat) (q : Int) : 0 < (ofBinary m q).den := Nat.pow_pos (by decide)

namespace Shortest

variable {i : Interval} {r : Ratio} {d : Nat} {k : Int}

/-- Over one denominator the two quantities keep their proportion. -/
theorem exists_overOne (some_ : 0 < r.den) (d : Nat) (k : Int) : ∃ c : ℚ, 0 < c ∧
    ((overOne d k r).1 : ℚ) = c * (d * 10 ^ k) ∧ ((overOne d k r).2 : ℚ) = c * r.toRat := by
  have den : (r.den : ℚ) ≠ 0 := by exact_mod_cast Nat.ne_of_gt some_
  have power : (10 : ℚ) ^ (-k).toNat ≠ 0 := by positivity
  refine ⟨r.den * 10 ^ (-k).toNat, by positivity, ?_, ?_⟩
  · rw [zpow_eq_div (by norm_num : (10 : ℚ) ≠ 0)]
    simp only [overOne, Nat.pow_eq]
    push_cast
    field_simp
  · simp only [overOne, Nat.pow_eq, Ratio.toRat]
    push_cast
    field_simp

theorem overOne_le_iff (some_ : 0 < r.den) : (overOne d k r).1 ≤ (overOne d k r).2 ↔ d * 10 ^ k ≤ r.toRat := by
  obtain ⟨c, positive, first, second⟩ := exists_overOne some_ d k
  rw [← Nat.cast_le (α := ℚ), first, second, mul_le_mul_iff_right₀ positive]

theorem le_overOne_iff (some_ : 0 < r.den) : (overOne d k r).2 ≤ (overOne d k r).1 ↔ r.toRat ≤ d * 10 ^ k := by
  obtain ⟨c, positive, first, second⟩ := exists_overOne some_ d k
  rw [← Nat.cast_le (α := ℚ), first, second, mul_le_mul_iff_right₀ positive]

theorem lt_overOne_iff (some_ : 0 < r.den) : (overOne d k r).2 < (overOne d k r).1 ↔ r.toRat < d * 10 ^ k := by
  rw [← Nat.not_le, overOne_le_iff some_, not_le]

theorem overOne_lt_iff (some_ : 0 < r.den) : (overOne d k r).1 < (overOne d k r).2 ↔ d * 10 ^ k < r.toRat := by
  rw [← Nat.not_le, le_overOne_iff some_, not_le]

/-! ## The interval -/

theorem quarters (q : Int) : (2 : ℚ) ^ q = 4 * 2 ^ (q - 2) ∧ (2 : ℚ) ^ (q - 1) = 2 * 2 ^ (q - 2) := by
  constructor
  · rw [show q = q - 2 + 2 by omega, zpow_add₀ two_ne_zero, add_sub_cancel_right, mul_comm]
    norm_num
  · rw [show q - 1 = q - 2 + 1 by omega, zpow_add_one₀ two_ne_zero, mul_comm]

theorem toRat_value (m : Nat) (q : Int) : (intervalOf m q).value.toRat = m * 2 ^ q := by
  simp only [intervalOf, Ratio.toRat_ofBinary, quarters q]
  push_cast
  ring

theorem toRat_low {m : Nat} (positive : 0 < m) (q : Int) :
    (intervalOf m q).low.toRat = m * 2 ^ q - reachBelow m q := by
  have room : (if m = Binary64.leastNormal ∧ q ≠ -1074 then 1 else 2) ≤ 4 * m := by split <;> omega
  simp only [intervalOf, Ratio.toRat_ofBinary, reachBelow, quarters q]
  rw [Nat.cast_sub room]
  split <;> push_cast <;> ring

theorem toRat_high (m : Nat) (q : Int) : (intervalOf m q).high.toRat = m * 2 ^ q + 2 ^ (q - 1) := by
  simp only [intervalOf, Ratio.toRat_ofBinary, quarters q]
  push_cast
  ring

/-- **The interval holds what is rounded to the double.** -/
theorem contains_intervalOf {m : Nat} (positive : 0 < m) (q : Int) :
    (intervalOf m q).contains d k = true ↔ RoundsTo m q (d * 10 ^ k) := by
  have low : 0 < (intervalOf m q).low.den := Ratio.ofBinary_den_pos _ _
  have high : 0 < (intervalOf m q).high.den := Ratio.ofBinary_den_pos _ _
  have closed : (intervalOf m q).closed = decide (m % 2 = 0) := rfl
  rw [Interval.contains, RoundsTo, ← toRat_low positive, ← toRat_high, closed]
  by_cases even : m % 2 = 0
  · simp only [even, decide_true, if_true, Bool.and_eq_true, decide_eq_true_eq, le_overOne_iff low, overOne_le_iff high]
  · simp only [even, decide_false, if_false, Bool.false_eq_true, Bool.and_eq_true, decide_eq_true_eq,
      lt_overOne_iff low, overOne_lt_iff high]

/-! ## The search -/

/-- A value cut off on the grid of a power of ten. -/
def cutOff (r : Ratio) (k : Int) : Decimal := ⟨(overOne 1 k r).2 / (overOne 1 k r).1, k⟩

/-- Cut off on a grid, a value is less than a step away. -/
theorem cutOff_bounds (some_ : 0 < r.den) (k : Int) :
    (cutOff r k).toRat ≤ r.toRat ∧ r.toRat < (cutOff r k).toRat + 10 ^ k := by
  obtain ⟨c, positive, unit, value⟩ := exists_overOne some_ 1 k
  rw [Nat.cast_one, one_mul] at unit
  have step : (0 : ℚ) < 10 ^ k := by positivity
  have some_unit : 0 < (overOne 1 k r).1 := by
    rw [← Nat.cast_pos (α := ℚ), unit]
    positivity
  have whole : ((overOne 1 k r).1 * ((overOne 1 k r).2 / (overOne 1 k r).1) : ℕ) = c * (cutOff r k).toRat := by
    rw [Nat.cast_mul, unit, Decimal.toRat, cutOff]
    ring
  constructor
  · have lower := Nat.mul_div_le (overOne 1 k r).2 (overOne 1 k r).1
    rw [← Nat.cast_le (α := ℚ), whole, value] at lower
    exact le_of_mul_le_mul_left lower positive
  · have upper := Nat.lt_mul_div_succ (overOne 1 k r).2 some_unit
    rw [Nat.mul_succ, ← Nat.cast_lt (α := ℚ), Nat.cast_add, whole, value, unit, ← mul_add] at upper
    exact lt_of_mul_lt_mul_left upper (le_of_lt positive)

/-- A value that takes a step of the grid is not cut off to nothing. -/
theorem cutOff_digits_pos (some_ : 0 < r.den) (large : 10 ^ k ≤ r.toRat) : 0 < (cutOff r k).digits := by
  have step : (0 : ℚ) < 10 ^ k := by positivity
  have near := (cutOff_bounds some_ k).2
  have positive : 0 < (cutOff r k).toRat := by linarith
  rw [Decimal.toRat] at positive
  exact_mod_cast (mul_pos_iff_of_pos_right step).1 positive

theorem of_mem_hits (member : d ∈ hits i k) : 0 < d ∧ i.contains d k = true := by
  have filtered : ∀ ds : List Nat, d ∈ ds.filter (fun d => 0 < d && i.contains d k) → 0 < d ∧ i.contains d k = true :=
    fun ds member => by simpa using (List.mem_filter.1 member).2
  rw [hits] at member
  dsimp only at member
  split at member
  · exact filtered _ member
  · exact filtered _ (List.mem_reverse.1 member)

/-- The search gives a point of the interval, or cuts the value off on its last grid. -/
theorem search_cases (i : Interval) (lead : Int) (more count : Nat) :
    (0 < (search i lead more count).digits ∧
      i.contains (search i lead more count).digits (search i lead more count).exponent = true) ∨
    search i lead more count = cutOff i.value (lead - (count + more : Nat) + 1) := by
  induction more generalizing count with
  | zero => exact .inr rfl
  | succ more ih =>
    have grid := ih (count + 1)
    rw [Nat.add_assoc, Nat.add_comm 1] at grid
    cases found : hits i (lead - count + 1) with
    | nil =>
      rw [search]
      simpa only [found] using grid
    | cons d ds =>
      have first : search i lead (more + 1) count = ⟨d, lead - count + 1⟩ := by
        rw [search]
        simp only [found]
      rw [first]
      exact .inl (of_mem_hits (found ▸ List.mem_cons_self))

/-! ## The leading digit -/

theorem digitCount_pos (n : Nat) : 0 < digitCount n := Nat.length_toDigits_pos

theorem pow_digitCount_le {n : Nat} (positive : 0 < n) : 10 ^ (digitCount n - 1) ≤ n := by
  by_contra small
  have count := digitCount_pos n
  rcases Nat.eq_zero_or_pos (digitCount n - 1) with single | several
  · rw [single, pow_zero] at small
    omega
  · have short := (Nat.length_toDigits_le_iff (by decide) several).2 (Nat.lt_of_not_le small)
    rw [← digitCount] at short
    omega

/-- The power of ten of the first digit of a number that is written in units of some decimal place. -/
theorem pow_first_le (some_ : 0 < r.den) {places : Nat} (large : 1 ≤ r.toRat * 10 ^ places) {lead : Int}
    (leads : lead = digitCount (r.num * Nat.pow 10 places / r.den) - (places + 1)) : 10 ^ lead ≤ r.toRat := by
  obtain ⟨positive, below⟩ := Ratio.floor_bounds some_ places large
  generalize r.num * Nat.pow 10 places / r.den = n at below positive leads
  have count := digitCount_pos n
  have power : lead = (digitCount n - 1 : ℕ) - (places : ℕ) := by omega
  have digits : ((10 ^ (digitCount n - 1) : ℕ) : ℚ) ≤ n := by exact_mod_cast pow_digitCount_le positive
  rw [power, zpow_sub₀ (by norm_num), zpow_natCast, zpow_natCast, div_le_iff₀ (by positivity)]
  push_cast at digits
  exact digits.trans below

/-- The power of ten of the leading digit is not above the number. -/
theorem pow_leadingPower_le (some_ : 0 < r.den) (large : 1 ≤ r.toRat * 10 ^ 350) : 10 ^ leadingPower r ≤ r.toRat :=
  pow_first_le some_ large rfl

theorem dropZeros_spec (fuel : Nat) {d : Decimal} (positive : 0 < d.digits) :
    0 < (dropZeros fuel d).digits ∧ (dropZeros fuel d).toRat = d.toRat := by
  induction fuel generalizing d with
  | zero => exact ⟨positive, rfl⟩
  | succ fuel ih =>
    rw [dropZeros]
    split
    · next zero =>
      have tens : d.digits = d.digits / 10 * 10 := by omega
      obtain ⟨some_, same⟩ := ih (d := ⟨d.digits / 10, d.exponent + 1⟩) (by dsimp only; omega)
      refine ⟨some_, same.trans ?_⟩
      rw [Decimal.toRat, Decimal.toRat, zpow_add_one₀ (by norm_num)]
      conv_rhs => rw [tens]
      push_cast
      ring
    · exact ⟨positive, rfl⟩

end Shortest

/-- The least double that is not zero has less than three hundred and fifty places before its leading digit. -/
theorem one_le_least : (1 : ℚ) ≤ 2 ^ (-1074 : Int) * 10 ^ 350 := by
  have powers : (2 : ℚ) ^ 1074 ≤ 10 ^ 350 :=
    calc (2 : ℚ) ^ 1074 = (2 ^ 93) ^ 11 * 2 ^ 51 := by rw [← pow_mul, ← pow_add]
      _ ≤ (10 ^ 28) ^ 11 * 10 ^ 42 := by gcongr <;> norm_num
      _ = 10 ^ 350 := by rw [← pow_mul, ← pow_add]
  have inverse : (2 : ℚ) ^ (-1074 : Int) = (2 ^ 1074)⁻¹ := zpow_neg_coe_of_pos 2 (by decide)
  rw [inverse, inv_mul_eq_div, le_div_iff₀ (by positivity), one_mul]
  exact powers

open Shortest

variable {m : Nat} {q : Int}

/-- The leading digit of a double is looked for far enough behind the point. -/
theorem pow_leadingPower_le_double (positive : 0 < m) (least : -1074 ≤ q) :
    10 ^ leadingPower (intervalOf m q).value ≤ (m * 2 ^ q : ℚ) := by
  have one : (1 : ℚ) ≤ m := by exact_mod_cast positive
  have smallest : (2 : ℚ) ^ (-1074 : Int) ≤ m * 2 ^ q :=
    calc (2 : ℚ) ^ (-1074 : Int) ≤ 2 ^ q := zpow_le_zpow_right₀ (by norm_num) least
      _ ≤ m * 2 ^ q := le_mul_of_one_le_left (by positivity) one
  rw [← toRat_value m q] at smallest ⊢
  exact pow_leadingPower_le (Ratio.ofBinary_den_pos _ _)
    (one_le_least.trans (mul_le_mul_of_nonneg_right smallest (by positivity)))

/-- Seventeen places behind the leading digit of a double a step is less than half the distance to the next double. -/
theorem lastStep_le (fits : m < 2 * Binary64.leastNormal) {lead : Int} (leads : 10 ^ lead ≤ (m * 2 ^ q : ℚ)) :
    (10 : ℚ) ^ (lead - 17) ≤ 2 ^ (q - 2) := by
  have size : (m : ℚ) ≤ 9007199254740992 := by exact_mod_cast Nat.le_of_lt fits
  have unit : (0 : ℚ) < 2 ^ (q - 2) := by positivity
  rw [(quarters q).1] at leads
  rw [zpow_sub₀ (by norm_num), div_le_iff₀ (by positivity)]
  nlinarith

/-- **The decimal that is written for a double is rounded to it.** -/
theorem roundsTo_shortestDecimal (positive : 0 < m) (fits : m < 2 * Binary64.leastNormal) (least : -1074 ≤ q) :
    0 < (shortestDecimal m q).digits ∧ RoundsTo m q (shortestDecimal m q).toRat := by
  have leads := pow_leadingPower_le_double positive least
  suffices searched : 0 < (search (intervalOf m q) (leadingPower (intervalOf m q).value) 17 1).digits ∧
      RoundsTo m q (search (intervalOf m q) (leadingPower (intervalOf m q).value) 17 1).toRat by
    obtain ⟨some_digits, same⟩ := dropZeros_spec 20 searched.1
    exact ⟨some_digits, by rw [shortestDecimal, same]; exact searched.2⟩
  rcases search_cases (intervalOf m q) (leadingPower (intervalOf m q).value) 17 1 with ⟨some_digits, inside⟩ | cut
  · exact ⟨some_digits, (contains_intervalOf positive q).1 inside⟩
  · -- Nothing was found on any grid, and the double was cut off on the last.
    rw [cut]
    generalize leadingPower (intervalOf m q).value = lead at leads
    have grid : lead - (1 + 17 : Nat) + 1 = lead - 17 := by omega
    have step := lastStep_le fits leads
    have some_ : 0 < (intervalOf m q).value.den := Ratio.ofBinary_den_pos _ _
    obtain ⟨lower, upper⟩ := cutOff_bounds some_ (lead - 17)
    rw [toRat_value] at lower upper
    rw [grid]
    refine ⟨cutOff_digits_pos some_ ?_, roundsTo_of_near (by linarith) lower⟩
    rw [toRat_value]
    exact (zpow_le_zpow_right₀ (by norm_num) (by omega)).trans leads

end ChainIndex
