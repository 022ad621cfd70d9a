/-
This file settles how near a rounded quotient is to the exact one. The exponent is the one with
which the exact quotient has 53 bits before its point, or the least there is; so rounding moves it
by half a unit in the last of these bits at the most. The exponent and the significand depend on
the value of the quotient alone, not on the two whole numbers that it is given by.

From this follows how far a rounded product is from the product of the numbers that were meant, and
what whole part is left of it.
-/
import Mathlib.Algebra.Order.Field.Power
import Mathlib.Data.Rat.Cast.Order
import Mathlib.Tactic.FieldSimp
import Mathlib.Tactic.Linarith
import Mathlib.Tactic.Positivity
import Mathlib.Tactic.Ring
import Metasearch.Number.Binary64

namespace Metasearch.Number.Binary64

/-! ### Quotients of whole numbers -/

/-- The value of a quotient given by its dividend and its divisor. -/
def ratio (pair : Nat × Nat) : ℚ :=
  pair.1 / pair.2

theorem cast_twoTo (power : Nat) : (twoTo power : ℚ) = 2 ^ (power : Int) := by
  rw [twoTo, Nat.pow_eq, Nat.cast_pow, Nat.cast_two, zpow_natCast]

theorem twoTo_natAbs_of_neg {exponent : Int} (negative : exponent < 0) :
    (twoTo exponent.natAbs : ℚ) = (2 ^ exponent)⁻¹ := by
  have size : (exponent.natAbs : Int) = -exponent := by omega
  rw [cast_twoTo, size, zpow_neg]

theorem twoTo_natAbs_of_nonneg {exponent : Int} (nonnegative : ¬ exponent < 0) :
    (twoTo exponent.natAbs : ℚ) = 2 ^ exponent := by
  have size : (exponent.natAbs : Int) = exponent := by omega
  rw [cast_twoTo, size]

theorem ratio_shiftQuotient (dividend divisor : Nat) (exponent : Int) :
    ratio (shiftQuotient dividend divisor exponent) = dividend / divisor / 2 ^ exponent := by
  unfold ratio shiftQuotient
  split
  · next negative =>
    rw [Nat.cast_mul, twoTo_natAbs_of_neg negative]
    ring
  · next nonnegative =>
    rw [Nat.cast_mul, twoTo_natAbs_of_nonneg nonnegative, div_div]

theorem shiftQuotient_pos {divisor : Nat} (positive : 0 < divisor) (dividend : Nat)
    (exponent : Int) : 0 < (shiftQuotient dividend divisor exponent).2 := by
  unfold shiftQuotient
  split
  · exact positive
  · exact Nat.mul_pos positive (Nat.pow_pos (by decide))

theorem ratio_quotient (significand : Nat) (exponent : Int) :
    ratio (quotient significand exponent) = significand * 2 ^ exponent := by
  unfold ratio quotient
  split
  · next negative =>
    rw [twoTo_natAbs_of_neg negative, div_inv_eq_mul]
  · next nonnegative =>
    rw [Nat.cast_mul, twoTo_natAbs_of_nonneg nonnegative, Nat.cast_one, div_one]

theorem quotient_pos (significand : Nat) (exponent : Int) :
    0 < (quotient significand exponent).2 := by
  unfold quotient
  split
  · exact Nat.pow_pos (by decide)
  · exact Nat.one_pos

/-! ### The nearest whole number -/

/-- Rounding moves a quotient by one half at the most. -/
theorem roundQuotient_near (dividend : Nat) {divisor : Nat} (positive : 0 < divisor) :
    |(roundQuotient dividend divisor : ℚ) - dividend / divisor| ≤ 1 / 2 := by
  have present : (0 : ℚ) < divisor := Nat.cast_pos.mpr positive
  have whole : (dividend : ℚ) / divisor =
      (dividend / divisor : Nat) + (dividend % divisor : Nat) / (divisor : ℚ) := by
    rw [div_eq_iff present.ne', add_mul, div_mul_cancel₀ _ present.ne', ← Nat.cast_mul,
      ← Nat.cast_add, Nat.div_add_mod']
  have below : dividend % divisor < divisor := Nat.mod_lt _ positive
  have share : (dividend % divisor : Nat) / (divisor : ℚ) < 1 :=
    (div_lt_one present).mpr (Nat.cast_lt.mpr below)
  rw [whole, abs_le]
  unfold roundQuotient
  simp only
  split
  · next up =>
    simp only [Bool.or_eq_true, decide_eq_true_eq, Bool.and_eq_true, beq_iff_eq] at up
    have half : divisor ≤ 2 * (dividend % divisor) := by omega
    have large : (1 : ℚ) / 2 ≤ (dividend % divisor : Nat) / (divisor : ℚ) := by
      rw [div_le_div_iff₀ two_pos present]
      exact_mod_cast (by omega : 1 * divisor ≤ dividend % divisor * 2)
    rw [Nat.cast_add, Nat.cast_one]
    constructor <;> linarith
  · next down =>
    simp only [Bool.or_eq_true, decide_eq_true_eq, not_or] at down
    have small : (dividend % divisor : Nat) / (divisor : ℚ) ≤ 1 / 2 := by
      rw [div_le_div_iff₀ present two_pos]
      exact_mod_cast (by omega : dividend % divisor * 2 ≤ 1 * divisor)
    have nonnegative : (0 : ℚ) ≤ (dividend % divisor : Nat) / (divisor : ℚ) := by positivity
    constructor <;> linarith

theorem roundQuotient_mul (dividend divisor : Nat) {factor : Nat} (positive : 0 < factor) :
    roundQuotient (dividend * factor) (divisor * factor) = roundQuotient dividend divisor := by
  have twice : 2 * (dividend % divisor * factor) = 2 * (dividend % divisor) * factor := by ring
  have more : decide (divisor * factor < 2 * (dividend % divisor) * factor) =
      decide (divisor < 2 * (dividend % divisor)) :=
    decide_eq_decide.mpr (Nat.mul_lt_mul_right positive)
  have same : (2 * (dividend % divisor) * factor == divisor * factor) =
      (2 * (dividend % divisor) == divisor) := by
    rw [Bool.eq_iff_iff, beq_iff_eq, beq_iff_eq, Nat.mul_left_inj positive.ne']
  unfold roundQuotient
  simp only [Nat.mul_div_mul_right _ _ positive, Nat.mul_mod_mul_right, twice, gt_iff_lt, more,
    same]

/-- The nearest whole number depends on the value of the quotient alone. -/
theorem roundQuotient_of_ratio {first second : Nat × Nat} (positive : 0 < first.2)
    (positiveToo : 0 < second.2) (same : ratio first = ratio second) :
    roundQuotient first.1 first.2 = roundQuotient second.1 second.2 := by
  have crosswise : first.1 * second.2 = second.1 * first.2 := by
    unfold ratio at same
    rw [div_eq_div_iff (Nat.cast_ne_zero.mpr positive.ne')
      (Nat.cast_ne_zero.mpr positiveToo.ne')] at same
    exact_mod_cast same
  rw [← roundQuotient_mul first.1 first.2 positiveToo, crosswise, Nat.mul_comm first.2,
    roundQuotient_mul _ _ positive]

/-! ### The exponent -/

/-- The exponent with which a quotient has 53 bits before its point. -/
def fitting (dividend divisor : Nat) : Int :=
  let estimate : Int := (dividend.log2 : Int) - (divisor.log2 : Int) - 53
  let scaled := shiftQuotient dividend divisor estimate
  if scaled.1 / scaled.2 ≥ twoTo 53 then estimate + 1 else estimate

theorem log2_bounds {number : Nat} (positive : 0 < number) :
    (2 : ℚ) ^ (number.log2 : Int) ≤ number ∧ (number : ℚ) < 2 ^ ((number.log2 : Int) + 1) := by
  rw [← Nat.cast_succ, zpow_natCast, zpow_natCast]
  exact ⟨by exact_mod_cast Nat.log2_self_le positive.ne', by exact_mod_cast Nat.lt_log2_self⟩

variable {dividend divisor : Nat}

/-- A scaled quotient has more than 53 bits before its point if the quotient is large enough. -/
theorem twoTo_le_scaled (positive : 0 < divisor) (dividend : Nat) (exponent : Int) :
    twoTo 53 ≤ (shiftQuotient dividend divisor exponent).1 /
        (shiftQuotient dividend divisor exponent).2 ↔
      (2 : ℚ) ^ (exponent + 53) ≤ dividend / divisor := by
  have scaledPositive := shiftQuotient_pos positive dividend exponent
  have power : (2 : ℚ) ^ (53 : Int) = (twoTo 53 : Nat) := by norm_num [twoTo]
  rw [Nat.le_div_iff_mul_le scaledPositive, zpow_add₀ two_ne_zero,
    ← le_div_iff₀' (by positivity), ← ratio_shiftQuotient, ratio,
    le_div_iff₀ (Nat.cast_pos.mpr scaledPositive), power]
  exact_mod_cast Iff.rfl

theorem fitting_bounds (some : 0 < dividend) (positive : 0 < divisor) :
    (2 : ℚ) ^ (fitting dividend divisor + 52) ≤ dividend / divisor ∧
      (dividend / divisor : ℚ) < 2 ^ (fitting dividend divisor + 53) := by
  have present : (0 : ℚ) < divisor := Nat.cast_pos.mpr positive
  obtain ⟨low, high⟩ := log2_bounds some
  obtain ⟨divisorLow, divisorHigh⟩ := log2_bounds positive
  generalize isEstimate : (dividend.log2 : Int) - (divisor.log2 : Int) - 53 = estimate
  have atLeast : (2 : ℚ) ^ (estimate + 52) ≤ dividend / divisor := by
    rw [le_div_iff₀ present]
    calc (2 : ℚ) ^ (estimate + 52) * divisor
        ≤ 2 ^ (estimate + 52) * 2 ^ ((divisor.log2 : Int) + 1) :=
          mul_le_mul_of_nonneg_left divisorHigh.le (by positivity)
      _ = 2 ^ (dividend.log2 : Int) := by
          rw [← zpow_add₀ two_ne_zero]
          congr 1
          omega
      _ ≤ dividend := low
  have below : (dividend / divisor : ℚ) < 2 ^ (estimate + 54) := by
    rw [div_lt_iff₀ present]
    calc (dividend : ℚ) < 2 ^ ((dividend.log2 : Int) + 1) := high
      _ = 2 ^ (estimate + 54) * 2 ^ (divisor.log2 : Int) := by
          rw [← zpow_add₀ two_ne_zero]
          congr 1
          omega
      _ ≤ 2 ^ (estimate + 54) * divisor := mul_le_mul_of_nonneg_left divisorLow (by positivity)
  unfold fitting
  simp only [isEstimate, ge_iff_le]
  split
  · next large =>
    have first : estimate + 1 + 52 = estimate + 53 := by omega
    have second : estimate + 1 + 53 = estimate + 54 := by omega
    rw [first, second]
    exact ⟨(twoTo_le_scaled positive dividend estimate).mp large, below⟩
  · next small =>
    exact ⟨atLeast, not_le.mp (mt (twoTo_le_scaled positive dividend estimate).mpr small)⟩

/-- There is only one such exponent. -/
theorem exponent_unique {value : ℚ} {first second : Int} (low : (2 : ℚ) ^ (first + 52) ≤ value)
    (high : value < 2 ^ (first + 53)) (lowToo : (2 : ℚ) ^ (second + 52) ≤ value)
    (highToo : value < 2 ^ (second + 53)) : first = second := by
  have one := (zpow_lt_zpow_iff_right₀ (one_lt_two (α := ℚ))).mp (low.trans_lt highToo)
  have other := (zpow_lt_zpow_iff_right₀ (one_lt_two (α := ℚ))).mp (lowToo.trans_lt high)
  omega

/-! ### The rounded quotient -/

/-- A quotient rounded with an exponent; if that carries it to 54 bits, the last one is dropped. -/
def roundedAt (dividend divisor : Nat) (exponent : Int) : Binary64 :=
  let scaled := shiftQuotient dividend divisor exponent
  let rounded := roundQuotient scaled.1 scaled.2
  let (significand, exponent) :=
    if rounded ≥ twoTo 53 then (rounded / 2, exponent + 1) else (rounded, exponent)
  if exponent > maxExponent then .infinite else .finite significand exponent

theorem ofQuotient_eq (some : 0 < dividend) (positive : 0 < divisor) :
    ofQuotient dividend divisor =
      roundedAt dividend divisor (max (fitting dividend divisor) minExponent) := by
  have noZero : (dividend == 0 || divisor == 0) = false := by
    rw [Bool.or_eq_false_iff, beq_eq_false_iff_ne, beq_eq_false_iff_ne]
    exact ⟨some.ne', positive.ne'⟩
  have least : max (fitting dividend divisor) minExponent =
      if fitting dividend divisor < minExponent then minExponent
      else fitting dividend divisor := by
    split <;> omega
  rw [least, ofQuotient, noZero]
  rfl

/-- The number nearest to a quotient depends on its value alone. -/
theorem ofQuotient_of_ratio {first second : Nat × Nat} (positive : 0 < first.2)
    (positiveToo : 0 < second.2) (same : ratio first = ratio second) :
    ofQuotient first.1 first.2 = ofQuotient second.1 second.2 := by
  obtain ⟨dividend, divisor⟩ := first
  obtain ⟨dividendToo, divisorToo⟩ := second
  simp only at positive positiveToo
  have present : (divisor : ℚ) ≠ 0 := Nat.cast_ne_zero.mpr positive.ne'
  have presentToo : (divisorToo : ℚ) ≠ 0 := Nat.cast_ne_zero.mpr positiveToo.ne'
  have values : (dividend : ℚ) / divisor = dividendToo / divisorToo := same
  rcases Nat.eq_zero_or_pos dividend with rfl | some
  · have zero : dividendToo = 0 := by
      rw [Nat.cast_zero, zero_div, eq_comm, div_eq_zero_iff, or_iff_left presentToo] at values
      exact_mod_cast values
    rw [zero]
    rfl
  · have someToo : 0 < dividendToo := by
      have large : (0 : ℚ) < dividendToo / divisorToo := by
        rw [← values]
        exact div_pos (Nat.cast_pos.mpr some) (Nat.cast_pos.mpr positive)
      by_contra none
      rw [Nat.eq_zero_of_not_pos none, Nat.cast_zero, zero_div] at large
      exact lt_irrefl _ large
    obtain ⟨low, high⟩ := fitting_bounds some positive
    obtain ⟨lowToo, highToo⟩ := fitting_bounds someToo positiveToo
    rw [← values] at lowToo highToo
    have fits := exponent_unique low high lowToo highToo
    have rounds : ∀ exponent, roundedAt dividend divisor exponent =
        roundedAt dividendToo divisorToo exponent := by
      intro exponent
      have scaled : ratio (shiftQuotient dividend divisor exponent) =
          ratio (shiftQuotient dividendToo divisorToo exponent) := by
        rw [ratio_shiftQuotient, ratio_shiftQuotient, values]
      unfold roundedAt
      simp only [roundQuotient_of_ratio (shiftQuotient_pos positive dividend exponent)
        (shiftQuotient_pos positiveToo dividendToo exponent) scaled]
    rw [ofQuotient_eq some positive, ofQuotient_eq someToo positiveToo, fits, rounds]

/-- Rounding with an exponent gives the rounded quotient times that power of two, with 53 bits at
the most even where it is carried to 54, or nothing finite if the power is too large. -/
theorem roundedAt_eq (positive : 0 < divisor) {exponent : Int}
    (below : (dividend : ℚ) / divisor < 2 ^ (exponent + 53)) :
    ∃ significand carried, significand < twoTo 53 ∧ exponent ≤ carried ∧ carried ≤ exponent + 1 ∧
      (significand : ℚ) * 2 ^ carried =
        roundQuotient (shiftQuotient dividend divisor exponent).1
          (shiftQuotient dividend divisor exponent).2 * 2 ^ exponent ∧
      roundedAt dividend divisor exponent =
        if carried > maxExponent then .infinite else .finite significand carried := by
  have power : (0 : ℚ) < 2 ^ exponent := by positivity
  have near := roundQuotient_near (shiftQuotient dividend divisor exponent).1
    (shiftQuotient_pos positive dividend exponent)
  rw [← ratio, ratio_shiftQuotient] at near
  unfold roundedAt
  simp only
  generalize roundQuotient (shiftQuotient dividend divisor exponent).1
    (shiftQuotient dividend divisor exponent).2 = rounded at near ⊢
  split
  · next full =>
    -- the quotient has 53 bits, so rounding carries it no farther than to the power of two
    have most : rounded ≤ twoTo 53 := by
      have scaled : (dividend : ℚ) / divisor / 2 ^ exponent < (twoTo 53 : Nat) := by
        rw [div_lt_iff₀ power]
        have large : (2 : ℚ) ^ (exponent + 53) = (twoTo 53 : Nat) * 2 ^ exponent := by
          rw [zpow_add₀ two_ne_zero, mul_comm, cast_twoTo]
          rfl
        rwa [large] at below
      have less : (rounded : ℚ) < ((twoTo 53 + 1 : Nat) : ℚ) := by
        rw [Nat.cast_add, Nat.cast_one]
        have bound := (abs_le.mp near).2
        linarith
      exact Nat.le_of_lt_succ (Nat.cast_lt.mp less)
    obtain rfl : rounded = twoTo 53 := Nat.le_antisymm most full
    have halves : ((twoTo 53 / 2 : Nat) : ℚ) * 2 ^ (exponent + 1) =
        (twoTo 53 : Nat) * 2 ^ exponent := by
      rw [zpow_add₀ two_ne_zero, zpow_one]
      have half : ((twoTo 53 / 2 : Nat) : ℚ) * 2 = (twoTo 53 : Nat) := by norm_num [twoTo]
      rw [← half]
      ring
    exact ⟨_, _, by decide, by omega, by omega, halves, rfl⟩
  · next short => exact ⟨_, _, Nat.lt_of_not_le short, by omega, by omega, rfl, rfl⟩

/-- A number is finite and not farther from a value than a bound. -/
def IsNear (number : Binary64) (value bound : ℚ) : Prop :=
  ∃ significand exponent, number = .finite significand exponent ∧
    |(significand : ℚ) * 2 ^ exponent - value| ≤ bound

/-- Rounding with an exponent moves a quotient by half of its last bit at the most. -/
theorem isNear_roundedAt (positive : 0 < divisor) {exponent : Int}
    (below : (dividend : ℚ) / divisor < 2 ^ (exponent + 53)) (usual : exponent < maxExponent) :
    IsNear (roundedAt dividend divisor exponent) (dividend / divisor) (2 ^ (exponent - 1)) := by
  have power : (0 : ℚ) < 2 ^ exponent := by positivity
  have near := roundQuotient_near (shiftQuotient dividend divisor exponent).1
    (shiftQuotient_pos positive dividend exponent)
  rw [← ratio, ratio_shiftQuotient] at near
  obtain ⟨significand, carried, -, -, most, isValue, isRounded⟩ := roundedAt_eq positive below
  rw [if_neg (by omega)] at isRounded
  refine ⟨significand, carried, isRounded, ?_⟩
  have half : (2 : ℚ) ^ (exponent - 1) = 1 / 2 * 2 ^ exponent := by
    rw [zpow_sub₀ two_ne_zero, zpow_one]
    ring
  have scaled : ∀ rounded : ℚ, rounded * 2 ^ exponent - dividend / divisor =
      (rounded - dividend / divisor / 2 ^ exponent) * 2 ^ exponent := by
    intro rounded
    rw [sub_mul, div_mul_cancel₀ _ power.ne']
  rw [isValue, scaled, abs_mul, abs_of_pos power, half]
  exact mul_le_mul_of_nonneg_right near power.le

/-- Rounding moves a quotient below a power of two by no more than the 54th bit behind it. -/
theorem isNear_ofQuotient (positive : 0 < divisor) {bits : Int} (usual : -1000 ≤ bits)
    (small : bits ≤ 1000) (below : (dividend : ℚ) / divisor < 2 ^ bits) :
    IsNear (ofQuotient dividend divisor) (dividend / divisor) (2 ^ (bits - 54)) := by
  rcases Nat.eq_zero_or_pos dividend with rfl | some
  · refine ⟨0, minExponent, rfl, ?_⟩
    rw [Nat.cast_zero, zero_mul, zero_div, sub_zero, abs_zero]
    positivity
  · obtain ⟨low, high⟩ := fitting_bounds some positive
    have fits : fitting dividend divisor + 52 < bits :=
      (zpow_lt_zpow_iff_right₀ (one_lt_two (α := ℚ))).mp (low.trans_lt below)
    rw [ofQuotient_eq some positive]
    generalize isExponent : max (fitting dividend divisor) minExponent = exponent
    have atLeast : fitting dividend divisor ≤ exponent := isExponent ▸ le_max_left _ _
    have bound : exponent ≤ bits - 53 := by
      unfold minExponent at isExponent
      omega
    have larger : (dividend : ℚ) / divisor < 2 ^ (exponent + 53) :=
      high.trans_le (zpow_le_zpow_right₀ one_le_two (by omega))
    have finite : exponent < maxExponent := by
      unfold maxExponent
      omega
    obtain ⟨significand, exponent, number, near⟩ := isNear_roundedAt positive larger finite
    exact ⟨significand, exponent, number,
      near.trans (zpow_le_zpow_right₀ one_le_two (by omega))⟩

/-! ### Rounded products and whole parts -/

variable {number other : Binary64} {value bound factor : ℚ}

/-- A number that is near a value, times an exact one, is near their product. -/
theorem IsNear.mul (near : IsNear number value bound) (exact : IsNear other factor 0) {bits : Int}
    (usual : -1000 ≤ bits) (small : bits ≤ 1000) (below : (value + bound) * factor < 2 ^ bits) :
    IsNear (number.mul other) (value * factor) (bound * factor + 2 ^ (bits - 54)) := by
  obtain ⟨left, leftExponent, rfl, apart⟩ := near
  obtain ⟨right, rightExponent, rfl, equal⟩ := exact
  have isFactor : (right : ℚ) * 2 ^ rightExponent = factor :=
    sub_eq_zero.mp (abs_nonpos_iff.mp equal)
  have nonnegative : 0 ≤ factor := by
    rw [← isFactor]
    positivity
  have product : ratio (quotient (left * right) (leftExponent + rightExponent)) =
      left * 2 ^ leftExponent * factor := by
    rw [ratio_quotient, ← isFactor, Nat.cast_mul, zpow_add₀ two_ne_zero]
    ring
  have moved : |(left : ℚ) * 2 ^ leftExponent * factor - value * factor| ≤ bound * factor := by
    rw [← sub_mul, abs_mul, abs_of_nonneg nonnegative]
    exact mul_le_mul_of_nonneg_right apart nonnegative
  have bounded : ratio (quotient (left * right) (leftExponent + rightExponent)) < 2 ^ bits := by
    rw [product]
    refine lt_of_le_of_lt (mul_le_mul_of_nonneg_right ?_ nonnegative) below
    linarith [(abs_le.mp apart).2]
  obtain ⟨significand, exponent, rounded, near⟩ :=
    isNear_ofQuotient (quotient_pos _ _) usual small bounded
  rw [← ratio, product] at near
  exact ⟨significand, exponent, rounded,
    (abs_sub_le _ _ _).trans (by linarith)⟩

/-- The whole part of a number is no less than a whole number that its value is clearly above. -/
theorem IsNear.le_truncate (near : IsNear number value bound) {whole limit : Nat}
    (within : whole ≤ limit) (low : (whole : ℚ) ≤ value - bound) :
    whole ≤ number.truncate limit := by
  obtain ⟨significand, exponent, rfl, apart⟩ := near
  have positive := quotient_pos significand exponent
  refine Nat.le_min.mpr ⟨within, (Nat.le_div_iff_mul_le positive).mpr ?_⟩
  have large : (whole : ℚ) ≤ ratio (quotient significand exponent) := by
    rw [ratio_quotient]
    linarith [(abs_le.mp apart).1]
  rw [ratio, le_div_iff₀ (Nat.cast_pos.mpr positive)] at large
  exact_mod_cast large

/-- The whole part of a number is less than a whole number that its value is clearly below. -/
theorem IsNear.truncate_lt (near : IsNear number value bound) {whole : Nat} (limit : Nat)
    (high : value + bound < whole) : number.truncate limit < whole := by
  obtain ⟨significand, exponent, rfl, apart⟩ := near
  have positive := quotient_pos significand exponent
  refine lt_of_le_of_lt (Nat.min_le_right _ _) ((Nat.div_lt_iff_lt_mul positive).mpr ?_)
  have small : ratio (quotient significand exponent) < whole := by
    rw [ratio_quotient]
    linarith [(abs_le.mp apart).2]
  rw [ratio, div_lt_iff₀ (Nat.cast_pos.mpr positive)] at small
  exact_mod_cast small

end Metasearch.Number.Binary64
