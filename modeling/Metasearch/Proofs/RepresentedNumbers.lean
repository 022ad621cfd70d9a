/-
This file settles which whole numbers are kept as they are when they are rounded to 53 bits, and
what becomes of the others. A whole number is kept if it has no more than 53 bits before the zeros
at its end; any other one becomes a number that is kept and that is nearby. A factor of a number
that is kept is kept itself, and rounding never passes a number that is kept.

Two numbers that are kept can be multiplied as whole numbers, and then nothing but the product is
rounded.
-/
import Mathlib.Data.Nat.Prime.Basic
import Metasearch.Proofs.RoundedQuotients

namespace Metasearch.Number.Binary64

/-! ### Whole numbers of 53 bits -/

/-- A whole number is represented if it has at most 53 bits before the zeros at its end. -/
def IsRepresented (whole : Nat) : Prop :=
  ∃ significand power, significand < twoTo 53 ∧ whole = significand * twoTo power

theorem isRepresented_of_lt {whole : Nat} (small : whole < twoTo 53) : IsRepresented whole :=
  ⟨whole, 0, small, (Nat.mul_one whole).symm⟩

theorem isRepresented_twoTo (power : Nat) : IsRepresented (twoTo power) :=
  ⟨1, power, by decide, (Nat.one_mul _).symm⟩

/-- A factor of a represented number is represented. -/
theorem IsRepresented.of_mul {whole factor : Nat} (represented : IsRepresented (whole * factor))
    (positive : 0 < factor) : IsRepresented whole := by
  obtain ⟨significand, power, small, product⟩ := represented
  rcases Nat.eq_zero_or_pos significand with rfl | some
  · rw [Nat.zero_mul, Nat.mul_eq_zero, or_iff_left positive.ne'] at product
    exact product ▸ isRepresented_of_lt (by decide)
  · have divides : whole ∣ significand * twoTo power := Dvd.intro factor product
    obtain ⟨left, right, ofSignificand, ofPower, rfl⟩ := Nat.dvd_mul.mp divides
    obtain ⟨zeros, -, rfl⟩ := (Nat.dvd_prime_pow Nat.prime_two).mp ofPower
    exact ⟨left, zeros, (Nat.le_of_dvd some ofSignificand).trans_lt small, rfl⟩

/-- A represented number of many bits ends in zeros. -/
theorem IsRepresented.dvd {whole power : Nat} (represented : IsRepresented whole)
    (large : twoTo (power + 52) ≤ whole) : twoTo power ∣ whole := by
  obtain ⟨significand, zeros, small, rfl⟩ := represented
  refine Dvd.dvd.mul_left (Nat.pow_dvd_pow 2 ?_) significand
  by_contra less
  have most : twoTo 53 * twoTo zeros ≤ twoTo (power + 52) := by
    rw [twoTo, twoTo, twoTo, Nat.pow_eq, Nat.pow_eq, Nat.pow_eq, ← Nat.pow_add]
    exact Nat.pow_le_pow_right two_pos (by omega)
  have product : significand * twoTo zeros < twoTo 53 * twoTo zeros :=
    Nat.mul_lt_mul_of_pos_right small (Nat.pow_pos two_pos)
  omega

/-! ### Rounding to them -/

theorem le_roundQuotient (dividend divisor : Nat) :
    dividend / divisor ≤ roundQuotient dividend divisor := by
  unfold roundQuotient
  simp only
  split
  · exact Nat.le_succ _
  · exact Nat.le_refl _

variable {dividend divisor : Nat}

/-- The exponent is the one with 53 bits before the point, if the quotient is not below one. -/
theorem exponent_of_one_le (positive : 0 < divisor) (large : 1 ≤ (dividend : ℚ) / divisor) :
    0 < dividend ∧ max (fitting dividend divisor) minExponent = fitting dividend divisor := by
  have some : 0 < dividend := by
    by_contra none
    rw [Nat.eq_zero_of_not_pos none, Nat.cast_zero, zero_div] at large
    exact absurd large (by norm_num)
  refine ⟨some, max_eq_left ?_⟩
  have high := (fitting_bounds some positive).2
  have powers : (2 : ℚ) ^ (0 : Int) < 2 ^ (fitting dividend divisor + 53) :=
    large.trans_lt high
  have exponents := (zpow_lt_zpow_iff_right₀ (one_lt_two (α := ℚ))).mp powers
  unfold minExponent
  omega

/-- Below a quotient and not below a represented number there is a multiple of the last bit of the
quotient. -/
theorem exists_multiple {whole : Nat} (represented : IsRepresented whole) {value : ℚ}
    {exponent : Int} (low : (2 : ℚ) ^ (exponent + 52) ≤ value) (below : (whole : ℚ) ≤ value) :
    ∃ multiple : Nat, (whole : ℚ) ≤ multiple * 2 ^ exponent ∧ multiple * 2 ^ exponent ≤ value := by
  rcases lt_or_ge exponent 0 with negative | nonnegative
  · have same : ((whole * twoTo exponent.natAbs : Nat) : ℚ) * 2 ^ exponent = whole := by
      rw [Nat.cast_mul, twoTo_natAbs_of_neg negative, mul_assoc,
        inv_mul_cancel₀ (zpow_ne_zero _ two_ne_zero), mul_one]
    exact ⟨whole * twoTo exponent.natAbs, same.ge, same.trans_le below⟩
  · obtain ⟨power, rfl⟩ := Int.eq_ofNat_of_zero_le nonnegative
    have isPower : ((twoTo power : Nat) : ℚ) = 2 ^ (power : Int) := cast_twoTo power
    rcases Nat.lt_or_ge whole (twoTo (power + 52)) with less | large
    · have parts : ((twoTo 52 : Nat) : ℚ) * 2 ^ (power : Int) = 2 ^ ((power : Int) + 52) := by
        rw [zpow_add₀ two_ne_zero, mul_comm, cast_twoTo]
        rfl
      refine ⟨twoTo 52, ?_, parts.trans_le low⟩
      have bits : (2 : ℚ) ^ ((power : Int) + 52) = (twoTo (power + 52) : Nat) :=
        (cast_twoTo (power + 52)).symm
      rw [parts, bits]
      exact Nat.cast_le.mpr less.le
    · obtain ⟨multiple, rfl⟩ := represented.dvd large
      have same : ((multiple : Nat) : ℚ) * 2 ^ (power : Int) =
          ((twoTo power * multiple : Nat) : ℚ) := by
        rw [Nat.cast_mul, isPower, mul_comm]
      exact ⟨multiple, same.ge, same.trans_le below⟩

/-- A number is infinite or not less than a whole number. -/
def AtLeast (number : Binary64) (whole : Nat) : Prop :=
  ∀ significand exponent, number = .finite significand exponent →
    (whole : ℚ) ≤ significand * 2 ^ exponent

/-- Rounding does not pass a represented number. -/
theorem atLeast_ofQuotient (positive : 0 < divisor) {whole : Nat}
    (represented : IsRepresented whole) (below : (whole : ℚ) ≤ dividend / divisor) :
    AtLeast (ofQuotient dividend divisor) whole := by
  rcases Nat.eq_zero_or_pos whole with rfl | someWhole
  · intro significand exponent _
    rw [Nat.cast_zero]
    positivity
  · have large : 1 ≤ (dividend : ℚ) / divisor := by
      refine le_trans ?_ below
      exact_mod_cast someWhole
    obtain ⟨some, isExponent⟩ := exponent_of_one_le positive large
    obtain ⟨low, high⟩ := fitting_bounds some positive
    obtain ⟨multiple, above, within⟩ := exists_multiple represented low below
    obtain ⟨significand, carried, -, -, -, isValue, isRounded⟩ := roundedAt_eq positive high
    have rounded : multiple ≤ roundQuotient
        (shiftQuotient dividend divisor (fitting dividend divisor)).1
        (shiftQuotient dividend divisor (fitting dividend divisor)).2 := by
      refine le_trans ?_ (le_roundQuotient _ _)
      have shifted := shiftQuotient_pos positive dividend (fitting dividend divisor)
      rw [Nat.le_div_iff_mul_le shifted]
      rw [← le_div_iff₀ (by positivity), ← ratio_shiftQuotient, ratio,
        le_div_iff₀ (Nat.cast_pos.mpr shifted)] at within
      exact_mod_cast within
    rw [ofQuotient_eq some positive, isExponent, isRounded]
    intro found exponent number
    split at number
    · cases number
    · cases number
      rw [isValue]
      exact above.trans (mul_le_mul_of_nonneg_right (Nat.cast_le.mpr rounded) (by positivity))

/-- A whole number is rounded with the exponent with which it has 53 bits before the point. -/
theorem exists_ofNat_eq {whole : Nat} (some : 0 < whole) (usual : whole < twoTo 200) :
    ∃ exponent significand carried,
      ofNat whole = .finite significand carried ∧ significand < twoTo 53 ∧ exponent ≤ carried ∧
      (2 : ℚ) ^ (exponent + 52) ≤ whole ∧ (whole : ℚ) < 2 ^ (exponent + 53) ∧
      |(significand : ℚ) * 2 ^ carried - whole| ≤ 2 ^ (exponent - 1) ∧
      (significand : ℚ) * 2 ^ carried =
        roundQuotient (shiftQuotient whole 1 exponent).1 (shiftQuotient whole 1 exponent).2 *
          2 ^ exponent := by
  have byOne : (whole : ℚ) / (1 : Nat) = whole := by rw [Nat.cast_one, div_one]
  have large : 1 ≤ (whole : ℚ) / (1 : Nat) := by
    rw [byOne]
    exact_mod_cast some
  obtain ⟨-, isExponent⟩ := exponent_of_one_le Nat.one_pos large
  obtain ⟨low, high⟩ := fitting_bounds some Nat.one_pos
  have finite : fitting whole 1 + 52 < 200 := by
    refine (zpow_lt_zpow_iff_right₀ (one_lt_two (α := ℚ))).mp (low.trans_lt ?_)
    rw [byOne]
    exact_mod_cast usual
  obtain ⟨significand, carried, small, least, most, isValue, isRounded⟩ :=
    roundedAt_eq Nat.one_pos high
  have usualExponent : fitting whole 1 < maxExponent := by
    unfold maxExponent
    omega
  obtain ⟨found, exponent, isFound, near⟩ := isNear_roundedAt Nat.one_pos high usualExponent
  rw [if_neg (by unfold maxExponent at usualExponent ⊢; omega)] at isRounded
  obtain ⟨rfl, rfl⟩ := Binary64.finite.inj (isRounded.symm.trans isFound)
  rw [byOne] at low high near
  refine ⟨fitting whole 1, significand, carried, ?_, small, least, low, high, near, isValue⟩
  rw [ofNat, ofQuotient_eq some Nat.one_pos, isExponent, isRounded]

/-- A represented number is kept. -/
theorem isNear_ofNat {whole : Nat} (represented : IsRepresented whole)
    (usual : whole < twoTo 200) : IsNear (ofNat whole) whole 0 := by
  rcases Nat.eq_zero_or_pos whole with rfl | some
  · exact ⟨0, minExponent, rfl, by rw [Nat.cast_zero, zero_mul, sub_zero, abs_zero]⟩
  · obtain ⟨exponent, significand, carried, isRounded, -, -, low, -, -, isValue⟩ :=
      exists_ofNat_eq some usual
    obtain ⟨multiple, above, within⟩ := exists_multiple represented low le_rfl
    have same : (multiple : ℚ) * 2 ^ exponent = whole := le_antisymm within above
    have power : (2 : ℚ) ^ exponent ≠ 0 := zpow_ne_zero _ two_ne_zero
    have scaled : ratio (shiftQuotient whole 1 exponent) = ratio (multiple, 1) := by
      rw [ratio_shiftQuotient, ratio, Nat.cast_one, div_one, div_one, ← same,
        mul_div_cancel_right₀ _ power]
    have kept : roundQuotient multiple 1 = multiple := by
      unfold roundQuotient
      simp [Nat.mod_one]
    rw [roundQuotient_of_ratio (shiftQuotient_pos Nat.one_pos whole exponent) Nat.one_pos scaled,
      kept, same] at isValue
    exact ⟨significand, carried, isRounded, by rw [isValue, sub_self, abs_zero]⟩

/-- Every whole number becomes a represented one nearby, and itself if it is one. -/
theorem exists_isNear_ofNat {whole : Nat} (usual : whole < twoTo 200) :
    ∃ nearest, IsRepresented nearest ∧ (IsRepresented whole → nearest = whole) ∧
      IsNear (ofNat whole) nearest 0 ∧ (twoTo 53 : ℚ) * |(nearest : ℚ) - whole| ≤ whole := by
  by_cases represented : IsRepresented whole
  · refine ⟨whole, represented, fun _ => rfl, isNear_ofNat represented usual, ?_⟩
    rw [sub_self, abs_zero, mul_zero]
    exact Nat.cast_nonneg _
  · have some : 0 < whole := Nat.pos_of_ne_zero fun zero =>
      represented (zero ▸ isRepresented_of_lt (by decide))
    obtain ⟨exponent, significand, carried, isRounded, small, least, low, high, near, -⟩ :=
      exists_ofNat_eq some usual
    have nonnegative : 0 ≤ exponent := by
      by_contra negative
      refine represented (isRepresented_of_lt ?_)
      have powers : (2 : ℚ) ^ (exponent + 53) ≤ 2 ^ (53 : Int) :=
        zpow_le_zpow_right₀ one_le_two (by omega)
      exact_mod_cast high.trans_le powers
    obtain ⟨power, rfl⟩ := Int.eq_ofNat_of_zero_le (nonnegative.trans least)
    have isWhole : ((significand * twoTo power : Nat) : ℚ) = significand * 2 ^ (power : Int) := by
      rw [Nat.cast_mul, cast_twoTo]
    have exact : IsNear (ofNat whole) (significand * twoTo power : Nat) 0 :=
      ⟨significand, power, isRounded, by rw [isWhole, sub_self, abs_zero]⟩
    refine ⟨significand * twoTo power, ⟨significand, power, small, rfl⟩,
      fun isRepresented => absurd isRepresented represented, exact, ?_⟩
    have half : (twoTo 53 : ℚ) * 2 ^ (exponent - 1) = 2 ^ (exponent + 52) := by
      rw [cast_twoTo, ← zpow_add₀ two_ne_zero]
      congr 1
      omega
    rw [isWhole]
    calc (twoTo 53 : ℚ) * |(significand : ℚ) * 2 ^ (power : Int) - whole|
        ≤ twoTo 53 * 2 ^ (exponent - 1) := mul_le_mul_of_nonneg_left near (Nat.cast_nonneg _)
      _ = 2 ^ (exponent + 52) := half
      _ ≤ whole := low

/-! ### Products and whole parts -/

variable {number other : Binary64} {whole factor : Nat}

/-- The product of whole numbers is rounded as a whole number. -/
theorem mul_eq_ofNat (left : IsNear number whole 0) (right : IsNear other factor 0) :
    number.mul other = ofNat (whole * factor) := by
  obtain ⟨significand, exponent, rfl, isWhole⟩ := left
  obtain ⟨significandToo, exponentToo, rfl, isFactor⟩ := right
  have isWhole := sub_eq_zero.mp (abs_nonpos_iff.mp isWhole)
  have isFactor := sub_eq_zero.mp (abs_nonpos_iff.mp isFactor)
  have product : ratio (quotient (significand * significandToo) (exponent + exponentToo)) =
      ratio (whole * factor, 1) := by
    rw [ratio_quotient, ratio, Nat.cast_one, div_one, Nat.cast_mul, Nat.cast_mul, ← isWhole,
      ← isFactor, zpow_add₀ two_ne_zero]
    ring
  exact ofQuotient_of_ratio (quotient_pos _ _) Nat.one_pos product

theorem truncate_eq (exact : IsNear number whole 0) (limit : Nat) :
    number.truncate limit = min limit whole := by
  obtain ⟨significand, exponent, rfl, isWhole⟩ := exact
  have positive := quotient_pos significand exponent
  have isWhole := sub_eq_zero.mp (abs_nonpos_iff.mp isWhole)
  rw [← ratio_quotient, ratio, div_eq_iff (Nat.cast_ne_zero.mpr positive.ne')] at isWhole
  have product : (quotient significand exponent).1 = whole * (quotient significand exponent).2 := by
    exact_mod_cast isWhole
  rw [truncate, product, Nat.mul_div_cancel _ positive]

/-- A product does not pass a represented number either. -/
theorem AtLeast.mul (least : AtLeast number whole) (exact : IsNear other factor 0) {product : Nat}
    (represented : IsRepresented product) (below : product ≤ whole * factor) :
    AtLeast (number.mul other) product := by
  obtain ⟨factorSignificand, factorExponent, rfl, isFactor⟩ := exact
  have isFactor := sub_eq_zero.mp (abs_nonpos_iff.mp isFactor)
  cases number with
  | infinite => exact fun _ _ found => nomatch found
  | finite significand exponent =>
    have large := least significand exponent rfl
    refine atLeast_ofQuotient (quotient_pos _ _) represented ?_
    rw [← ratio, ratio_quotient, Nat.cast_mul, zpow_add₀ two_ne_zero, mul_mul_mul_comm, isFactor]
    calc (product : ℚ) ≤ whole * factor := by exact_mod_cast below
      _ ≤ significand * 2 ^ exponent * factor :=
        mul_le_mul_of_nonneg_right large (Nat.cast_nonneg _)

theorem AtLeast.min_le_truncate (least : AtLeast number whole) (limit : Nat) :
    min limit whole ≤ number.truncate limit := by
  cases number with
  | infinite => exact Nat.min_le_left _ _
  | finite significand exponent =>
    have large := least significand exponent rfl
    have positive := quotient_pos significand exponent
    rw [← ratio_quotient, ratio, le_div_iff₀ (Nat.cast_pos.mpr positive)] at large
    refine min_le_min_left limit ((Nat.le_div_iff_mul_le positive).mpr ?_)
    exact_mod_cast large

end Metasearch.Number.Binary64
