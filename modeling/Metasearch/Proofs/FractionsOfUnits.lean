/-
This file settles what the fraction of a quantity takes off behind the whole units: a whole number
of small units, minutes of a day and seconds of an hour or of a minute. The fraction and its product
with the number of small units are rounded to binary numbers, so the number of small units that is
left of it is the exact one as long as the exact product is not a whole number or next to one. Where
it is a whole number, most of them are still met; the few that are missed by one are listed.
-/
import Metasearch.Proofs.DecimalNumbers
import Metasearch.Proofs.FixedUnits
import Metasearch.Proofs.ReadTimestamps
import Metasearch.Proofs.RoundedQuotients

namespace Metasearch

/-! ### No seconds -/

namespace Calendar.Instant

theorem inRange_of_checked {instant found : Instant} (kept : instant.checked = some found) :
    found.inRange = true := by
  unfold checked at kept
  split at kept
  · next inRange =>
    cases kept
    exact inRange
  · cases kept

/-- Nothing taken off leaves an instant as it is, in a leap second too. -/
theorem plus_zero (instant : Instant) : instant.plus 0 = instant := by
  by_cases outside : instant.nanos < nanosPerSecond
  · have same := plus_ofSeconds outside 0
    rwa [earlierBy_zero] at same
  · have leap : decide (nanosPerSecond ≤ instant.nanos) = true := by simpa using outside
    unfold plus
    simp [leap]

end Calendar.Instant

namespace RelativeTime

open Calendar (Instant padded digitsValue isDigit_of_mem_padded takeWhile_padded)
open Calendar.Parts (digitsValue_lt)
open Number (Binary64)
open Number.Binary64 (IsNear ofQuotient_of_ratio isNear_ofQuotient ratio)

theorem minusSeconds?_zero {instant : Instant} (inRange : instant.inRange = true) :
    minusSeconds? instant 0 = some instant := by
  have nothing : Calendar.Span.ofSeconds (-((0 : Nat) : Int)) = 0 := rfl
  rw [minusSeconds?, Instant.plus?, nothing, Calendar.Instant.plus_zero, Instant.checked,
    if_pos inRange]

/-! ### Decimal quantities -/

variable {digits : List Char}

theorem numberLength_decimal (areDigits : ∀ c ∈ digits, c.isDigit = true) (width whole : Nat) :
    numberLength (padded width '0' whole ++ '.' :: digits) =
      (padded width '0' whole ++ '.' :: digits).length := by
  have front : (padded width '0' whole ++ '.' :: digits).takeWhile Char.isDigit =
      padded width '0' whole := by
    rw [takeWhile_append_stop (by decide), takeWhile_padded]
  have behind : digits.takeWhile Char.isDigit = digits := List.takeWhile_eq_self_iff.mpr areDigits
  unfold numberLength
  simp only [front, List.drop_left, behind, List.length_append, List.length_cons]
  omega

/-- The number nearest to a fraction that is written in decimal digits. -/
def fractionOf (digits : List Char) : Binary64 :=
  Binary64.ofQuotient (digitsValue digits) (10 ^ digits.length)

theorem readDecimal?_fraction (areDigits : ∀ c ∈ digits, c.isDigit = true) (present : digits ≠ []) :
    Binary64.readDecimal? ('0' :: '.' :: digits) = some (fractionOf digits) := by
  have all : ['0'] ++ digits ≠ [] := List.append_ne_nil_of_right_ne_nil _ present
  refine (Binary64.readDecimal?_point (List.forall_mem_singleton.mpr rfl) areDigits all).trans
    (congrArg some ?_)
  exact Binary64.ofDecimal_places (digitsValue (['0'] ++ digits)) digits.length

theorem readQuantity?_decimal {whole : Nat} (fits : whole ≤ Number.maxUnsigned32) (width : Nat)
    (areDigits : ∀ c ∈ digits, c.isDigit = true) (present : digits ≠ []) :
    readQuantity? (padded width '0' whole ++ '.' :: digits) =
      some ⟨whole, fractionOf digits⟩ := by
  rw [readQuantity?, Text.cut_single (noPoint_padded width whole)]
  simp only [readUnsigned_padded fits width, readDecimal?_fraction areDigits present]
  rfl

/-! ### Small units -/

/-- The small units that a fraction of a unit is counted in: how many of them make the unit, the
seconds of one, and the whole numbers of them that are missed by one. -/
structure SmallUnit where
  count : Nat
  seconds : Nat
  missed : List Nat

def minutesOfDay : SmallUnit :=
  ⟨1440, 60, [63, 126, 207, 252, 369, 414, 459, 504, 738, 783, 828, 873, 918, 963, 1008]⟩

def secondsOfHour : SmallUnit :=
  ⟨3600, 1, [1017, 1809, 1827, 1845, 1863, 1881, 2034]⟩

def secondsOfMinute : SmallUnit :=
  ⟨60, 1, []⟩

/-- The small units of a unit that has them. -/
def TimeUnit.small? : TimeUnit → Option SmallUnit
  | .day => some minutesOfDay
  | .hour => some secondsOfHour
  | .minute => some secondsOfMinute
  | .year | .month | .week | .second => none

/-- So many units before an instant, where they have small units. -/
def wholeBefore? (now : Instant) (whole : Nat) : TimeUnit → Option Instant
  | .day => now.minusDays? whole
  | .hour => minusSeconds? now (3600 * whole)
  | .minute => minusSeconds? now (60 * whole)
  | .year | .month | .week | .second => none

theorem inRange_wholeBefore? {now earlier : Instant} {whole : Nat} {unit : TimeUnit}
    (found : wholeBefore? now whole unit = some earlier) : earlier.inRange = true := by
  cases unit with
  | day | hour | minute => exact Calendar.Instant.inRange_of_checked found
  | year | month | week | second => cases found

/-- What is known of small units: their number is a binary one, and where the exact product is a
whole number, that number is met or missed by one. Of the whole numbers only multiples of 3 or of 9
are a product with a fraction in decimal digits. -/
structure SmallUnit.IsSound (small : SmallUnit) : Prop where
  some : 0 < small.count
  few : small.count ≤ 3600
  exact : IsNear (Binary64.ofNat small.count) small.count 0
  met : ∃ factor ∈ [3, 9], factor ∣ small.count ∧ ∀ part < small.count / factor,
    portion (Binary64.ofQuotient (factor * part) small.count) small.count =
      if factor * part ∈ small.missed then factor * part - 1 else factor * part

theorem isSound_of_small? {unit : TimeUnit} {small : SmallUnit}
    (counted : unit.small? = some small) : small.IsSound := by
  cases unit with
  | day =>
    cases counted
    have exact : IsNear (Binary64.ofNat 1440) 1440 0 :=
      ⟨1440 * 2 ^ 42, -42, by decide +kernel, by norm_num⟩
    exact ⟨by decide, by decide, exact, 9, by decide, by decide, by decide +kernel⟩
  | hour =>
    cases counted
    have exact : IsNear (Binary64.ofNat 3600) 3600 0 :=
      ⟨3600 * 2 ^ 41, -41, by decide +kernel, by norm_num⟩
    exact ⟨by decide, by decide, exact, 9, by decide, by decide, by decide +kernel⟩
  | minute =>
    cases counted
    have exact : IsNear (Binary64.ofNat 60) 60 0 :=
      ⟨60 * 2 ^ 47, -47, by decide +kernel, by norm_num⟩
    exact ⟨by decide, by decide, exact, 3, by decide, by decide, by decide +kernel⟩
  | year | month | week | second => cases counted

theorem portion_of_isZero {fraction : Binary64} (zero : fraction.isZero = true) {count : Nat}
    (exact : IsNear (Binary64.ofNat count) count 0) : portion fraction count = 0 := by
  obtain ⟨factor, exponent, isFactor, -⟩ := exact
  cases fraction with
  | infinite => cases zero
  | finite significand fractionExponent =>
    obtain rfl : significand = 0 := beq_iff_eq.mp zero
    have nothing : (Binary64.finite 0 fractionExponent).mul (.finite factor exponent) =
        Binary64.zero := by
      rw [Binary64.mul, Nat.zero_mul, Binary64.quotient, Nat.zero_mul]
      split <;> rfl
    rw [portion, isFactor, nothing]
    decide +kernel

/-- A quantity takes off its whole units, and then its fraction in small units. -/
theorem step?_fraction {unit : TimeUnit} {small : SmallUnit} (counted : unit.small? = some small)
    (now : Instant) (quantity : Quantity) :
    step? now quantity unit =
      (wholeBefore? now quantity.whole unit).bind fun earlier =>
        minusSeconds? earlier (small.seconds * portion quantity.fraction small.count) := by
  have sound := isSound_of_small? counted
  have rest : ∀ earlier, wholeBefore? now quantity.whole unit = some earlier →
      (if quantity.fraction.isZero = true then some earlier
        else minusSeconds? earlier (small.seconds * portion quantity.fraction small.count)) =
      minusSeconds? earlier (small.seconds * portion quantity.fraction small.count) := by
    intro earlier found
    split
    · next zero =>
      rw [portion_of_isZero zero sound.exact, Nat.mul_zero,
        minusSeconds?_zero (inRange_wholeBefore? found)]
    · rfl
  have whole : step? now quantity unit =
      (wholeBefore? now quantity.whole unit).bind fun earlier =>
        if quantity.fraction.isZero = true then some earlier
        else minusSeconds? earlier (small.seconds * portion quantity.fraction small.count) := by
    cases unit with
    | day =>
      cases counted
      rfl
    | hour | minute =>
      cases counted
      simp only [secondsOfHour, secondsOfMinute, Nat.one_mul]
      rfl
    | year | month | week | second => cases counted
  rw [whole]
  cases found : wholeBefore? now quantity.whole unit with
  | none => rfl
  | some earlier => exact rest earlier found

/-! ### Exact products -/

/-- The product of a fraction in decimal digits and a number of small units, rounded down. -/
def exactCount (count : Nat) (digits : List Char) : Nat :=
  digitsValue digits * count / 10 ^ digits.length

/-- What is left of that product, in units of the last digit. -/
def exactRest (count : Nat) (digits : List Char) : Nat :=
  digitsValue digits * count % 10 ^ digits.length

theorem scale_pos (digits : List Char) : 0 < 10 ^ digits.length :=
  Nat.pow_pos (by decide)

theorem scale_cast_pos (digits : List Char) : (0 : ℚ) < (10 ^ digits.length : Nat) :=
  Nat.cast_pos.mpr (scale_pos digits)

theorem exactRest_lt (count : Nat) (digits : List Char) :
    exactRest count digits < 10 ^ digits.length :=
  Nat.mod_lt _ (scale_pos digits)

variable {small : SmallUnit}

theorem exactCount_lt (sound : small.IsSound) (areDigits : ∀ c ∈ digits, c.isDigit = true) :
    exactCount small.count digits < small.count := by
  rw [exactCount, Nat.div_lt_iff_lt_mul (scale_pos digits), Nat.mul_comm small.count]
  exact Nat.mul_lt_mul_of_pos_right (digitsValue_lt areDigits) sound.some

theorem exactCount_le_maxSigned (sound : small.IsSound)
    (areDigits : ∀ c ∈ digits, c.isDigit = true) :
    exactCount small.count digits ≤ Number.maxSigned :=
  ((exactCount_lt sound areDigits).le.trans sound.few).trans (by decide)

theorem product_eq (count : Nat) (digits : List Char) :
    (digitsValue digits : ℚ) / (10 ^ digits.length : Nat) * count =
      exactCount count digits + exactRest count digits / (10 ^ digits.length : Nat) := by
  have present := (scale_cast_pos digits).ne'
  rw [div_mul_eq_mul_div, div_eq_iff present, add_mul, div_mul_cancel₀ _ present,
    ← Nat.cast_mul, ← Nat.cast_mul, ← Nat.cast_add, exactCount, exactRest, Nat.div_add_mod']

/-- The rounded product is near the exact one. -/
theorem isNear_product (sound : small.IsSound) (areDigits : ∀ c ∈ digits, c.isDigit = true) :
    ∃ bound < (1 : ℚ) / 2 ^ 41,
      IsNear ((fractionOf digits).mul (Binary64.ofNat small.count))
        (exactCount small.count digits +
          exactRest small.count digits / (10 ^ digits.length : Nat)) bound := by
  have fraction : (digitsValue digits : ℚ) / (10 ^ digits.length : Nat) < 2 ^ (0 : Int) := by
    rw [zpow_zero, div_lt_one (scale_cast_pos digits)]
    exact Nat.cast_lt.mpr (digitsValue_lt areDigits)
  have near := isNear_ofQuotient (scale_pos digits) (by decide) (by decide) fraction
  have few : (small.count : ℚ) ≤ 3600 := by exact_mod_cast sound.few
  have nonnegative : (0 : ℚ) ≤ small.count := Nat.cast_nonneg _
  have below : ((digitsValue digits : ℚ) / (10 ^ digits.length : Nat) + 2 ^ ((0 : Int) - 54)) *
      small.count < 2 ^ (12 : Int) := by
    calc ((digitsValue digits : ℚ) / (10 ^ digits.length : Nat) + 2 ^ ((0 : Int) - 54)) *
          small.count
        ≤ (1 + 2 ^ ((0 : Int) - 54)) * 3600 := by
          refine mul_le_mul ?_ few nonnegative (by positivity)
          rw [zpow_zero] at fraction
          linarith
      _ < 2 ^ (12 : Int) := by norm_num
  refine ⟨_, ?_, product_eq small.count digits ▸ near.mul sound.exact (by decide) (by decide) below⟩
  calc (2 : ℚ) ^ ((0 : Int) - 54) * small.count + 2 ^ ((12 : Int) - 54)
      ≤ 2 ^ ((0 : Int) - 54) * 3600 + 2 ^ ((12 : Int) - 54) := by
        gcongr
    _ < 1 / 2 ^ 41 := by norm_num

/-- The product does not reach the next whole number if it is clearly below that. -/
theorem portion_le (sound : small.IsSound) (areDigits : ∀ c ∈ digits, c.isDigit = true)
    (clear : 10 ^ digits.length ≤ 2 ^ 41 * (10 ^ digits.length - exactRest small.count digits)) :
    portion (fractionOf digits) small.count ≤ exactCount small.count digits := by
  obtain ⟨bound, tight, near⟩ := isNear_product sound areDigits
  have present := scale_cast_pos digits
  have share : (exactRest small.count digits : ℚ) / (10 ^ digits.length : Nat) ≤
      1 - 1 / 2 ^ 41 := by
    rw [div_le_iff₀ present]
    have less := (exactRest_lt small.count digits).le
    have apart : ((10 ^ digits.length : Nat) : ℚ) ≤
        2 ^ 41 * ((10 ^ digits.length : Nat) - exactRest small.count digits) := by
      rw [← Nat.cast_sub less]
      exact_mod_cast clear
    linarith
  refine Nat.le_of_lt_succ (near.truncate_lt _ ?_)
  rw [Nat.cast_succ]
  linarith

/-- The product keeps its whole part if it is clearly above that, or if that is zero. -/
theorem le_portion (sound : small.IsSound) (areDigits : ∀ c ∈ digits, c.isDigit = true)
    (clear : exactCount small.count digits = 0 ∨
      10 ^ digits.length ≤ 2 ^ 41 * exactRest small.count digits) :
    exactCount small.count digits ≤ portion (fractionOf digits) small.count := by
  rcases clear with zero | clear
  · rw [zero]
    exact Nat.zero_le _
  obtain ⟨bound, tight, near⟩ := isNear_product sound areDigits
  have present := scale_cast_pos digits
  have share : (1 : ℚ) / 2 ^ 41 ≤
      exactRest small.count digits / (10 ^ digits.length : Nat) := by
    rw [le_div_iff₀ present, div_mul_eq_mul_div, one_mul, div_le_iff₀ (by positivity), mul_comm]
    exact_mod_cast clear
  exact near.le_truncate (exactCount_le_maxSigned sound areDigits) (by linarith)

/-- The product is off by one at the most. -/
theorem portion_off_by_one (sound : small.IsSound) (areDigits : ∀ c ∈ digits, c.isDigit = true) :
    portion (fractionOf digits) small.count ≤ exactCount small.count digits + 1 ∧
      exactCount small.count digits ≤ portion (fractionOf digits) small.count + 1 := by
  obtain ⟨bound, tight, near⟩ := isNear_product sound areDigits
  have present := scale_cast_pos digits
  have share : (exactRest small.count digits : ℚ) / (10 ^ digits.length : Nat) < 1 :=
    (div_lt_one present).mpr (Nat.cast_lt.mpr (exactRest_lt small.count digits))
  have nonnegative : (0 : ℚ) ≤ exactRest small.count digits / (10 ^ digits.length : Nat) := by
    positivity
  have tiny : bound < 1 := tight.trans (by norm_num)
  constructor
  · refine Nat.le_of_lt_succ (near.truncate_lt _ ?_)
    rw [Nat.cast_succ, Nat.cast_succ]
    linarith
  · cases isExact : exactCount small.count digits with
    | zero => exact Nat.zero_le _
    | succ before =>
      have fits := exactCount_le_maxSigned sound areDigits
      rw [isExact] at fits
      refine Nat.succ_le_succ (near.le_truncate (Nat.le_of_succ_le fits) ?_)
      rw [isExact, Nat.cast_succ]
      linarith

/-- Where the exact product is a whole number, that number is met unless it is among the missed. -/
theorem portion_of_whole (sound : small.IsSound) (areDigits : ∀ c ∈ digits, c.isDigit = true)
    (whole : exactRest small.count digits = 0) :
    portion (fractionOf digits) small.count =
      if exactCount small.count digits ∈ small.missed then exactCount small.count digits - 1
      else exactCount small.count digits := by
  have positive := scale_pos digits
  have product : digitsValue digits * small.count =
      exactCount small.count digits * 10 ^ digits.length := by
    have parts := Nat.div_add_mod' (digitsValue digits * small.count) (10 ^ digits.length)
    rw [← exactCount, ← exactRest, whole, Nat.add_zero] at parts
    exact parts.symm
  obtain ⟨factor, known, divides, met⟩ := sound.met
  -- decimal digits leave only twos and fives below the line, so the factor stays in the product
  obtain ⟨part, isPart⟩ : factor ∣ exactCount small.count digits := by
    have inProduct : factor ∣ exactCount small.count digits * 10 ^ digits.length :=
      product ▸ Dvd.dvd.mul_left divides _
    have coprime : Nat.Coprime factor 10 := by
      rcases List.mem_pair.mp known with rfl | rfl <;> decide
    exact (coprime.pow_right _).dvd_of_dvd_mul_right inProduct
  have few : part < small.count / factor := by
    have below := exactCount_lt sound areDigits
    rw [isPart] at below
    have some : 0 < factor := by
      rcases List.mem_pair.mp known with rfl | rfl <;> decide
    rw [Nat.lt_div_iff_mul_lt' divides]
    exact Nat.mul_comm factor part ▸ below
  have same : ratio (digitsValue digits, 10 ^ digits.length) =
      ratio (exactCount small.count digits, small.count) := by
    unfold ratio
    rw [div_eq_div_iff (Nat.cast_ne_zero.mpr positive.ne')
      (Nat.cast_ne_zero.mpr sound.some.ne')]
    exact_mod_cast product
  have rounded : fractionOf digits =
      Binary64.ofQuotient (exactCount small.count digits) small.count :=
    ofQuotient_of_ratio positive sound.some same
  rw [rounded, isPart]
  exact met part few

/-- A fraction of so few digits is a whole number of small units or clearly between two. -/
theorem clear_of_few (few : digits.length ≤ 12) {count : Nat}
    (between : exactRest count digits ≠ 0) :
    10 ^ digits.length ≤ 2 ^ 41 * exactRest count digits ∧
      10 ^ digits.length ≤ 2 ^ 41 * (10 ^ digits.length - exactRest count digits) := by
  have most : 10 ^ digits.length ≤ 2 ^ 41 :=
    (Nat.pow_le_pow_right (by decide) few).trans (by decide)
  have below := exactRest_lt count digits
  have some : 1 ≤ exactRest count digits := Nat.one_le_iff_ne_zero.mpr between
  have left : 1 ≤ 10 ^ digits.length - exactRest count digits := Nat.sub_pos_of_lt below
  exact ⟨most.trans (Nat.le_mul_of_pos_right _ some), most.trans (Nat.le_mul_of_pos_right _ left)⟩

/-! ### Phrases -/

theorem tokens_decimal (areDigits : ∀ c ∈ digits, c.isDigit = true) (width whole : Nat) :
    tokens (padded width '0' whole ++ '.' :: digits) =
      [.number (padded width '0' whole ++ '.' :: digits)] := by
  obtain ⟨c, rest, starts, digit⟩ := Calendar.padded_head width whole
  have length := numberLength_decimal areDigits width whole
  rw [starts, List.cons_append] at length ⊢
  exact tokens_number digit length

theorem not_isFiller_decimal (width whole : Nat) (digits : List Char) :
    ¬ isFiller (padded width '0' whole ++ '.' :: digits) = true := by
  obtain ⟨c, rest, starts, digit⟩ := Calendar.padded_head width whole
  rw [starts]
  exact not_isFiller_of_digit digit _

/-- A number with a fraction behind a point. -/
def decimal (width whole : Nat) (digits : List Char) : String :=
  String.ofList (padded width '0' whole ++ '.' :: digits)

/-- A phrase of one quantity with a fraction is one step. -/
theorem read_decimalAgo {whole : Nat} (fits : whole ≤ Number.maxUnsigned32)
    (areDigits : ∀ c ∈ digits, c.isDigit = true) (present : digits ≠ []) (now : Instant)
    (width : Nat) (unit : TimeUnit) (plural : Bool) :
    read (decimal width whole digits ++ " " ++ unit.inWords plural ++ " ago") now =
      (step? now ⟨whole, fractionOf digits⟩ unit).elim (.error .outOfRange) .ok := by
  have inWords : decimal width whole digits ++ " " ++ unit.inWords plural ++ " ago" =
      " ".intercalate [decimal width whole digits, unit.inWords plural, "ago"] := by
    simp only [String.intercalate_cons_cons, String.intercalate_singleton, String.append_assoc]
    rfl
  have ago : ∀ next, goBack next (tokens "ago".toList) = .ok next := fun _ => rfl
  have counts :
      ¬ isFiller (Token.number (padded width '0' whole ++ '.' :: digits)).text = true :=
    not_isFiller_decimal width whole digits
  have named : readUnit? (Token.word (unit.inWords plural).toList).text = some unit :=
    readUnit?_inWords unit plural
  rw [inWords, read, tokens_intercalate, List.flatMap_cons, List.flatMap_cons, List.flatMap_cons,
    List.flatMap_nil, List.append_nil, decimal, String.toList_ofList, tokens_decimal areDigits,
    tokens_inWords, List.singleton_append, List.singleton_append,
    goBack_step counts (readQuantity?_decimal fits width areDigits present) named]
  simp only [ago]

/-- A quantity with a fraction leads back by its whole units and then by a whole number of small
units. It is the number of them that the fraction exactly comes to, rounded down, if the exact
product is not within `1 / 2 ^ 41` of one or more, and is off by one at the most in any case.
Where the exact product is a whole number, that number is met, but for the ones that are listed,
which are missed by one. So a fraction of twelve digits or less is taken exactly unless it comes to
one of these. -/
theorem read_fractions {unit : TimeUnit} {small : SmallUnit} (counted : unit.small? = some small)
    {whole : Nat} (fits : whole ≤ Number.maxUnsigned32)
    (areDigits : ∀ c ∈ digits, c.isDigit = true) (present : digits ≠ []) (now : Instant)
    (width : Nat) (plural : Bool) :
    ∃ count,
      read (decimal width whole digits ++ " " ++ unit.inWords plural ++ " ago") now =
        ((wholeBefore? now whole unit).bind fun earlier =>
          minusSeconds? earlier (small.seconds * count)).elim (.error .outOfRange) .ok ∧
      (count ≤ exactCount small.count digits + 1 ∧ exactCount small.count digits ≤ count + 1) ∧
      (exactCount small.count digits = 0 ∨
          10 ^ digits.length ≤ 2 ^ 41 * exactRest small.count digits →
        10 ^ digits.length ≤ 2 ^ 41 * (10 ^ digits.length - exactRest small.count digits) →
        count = exactCount small.count digits) ∧
      (exactRest small.count digits = 0 →
        count = if exactCount small.count digits ∈ small.missed then
          exactCount small.count digits - 1 else exactCount small.count digits) ∧
      (digits.length ≤ 12 → exactRest small.count digits ≠ 0 →
        count = exactCount small.count digits) := by
  have sound := isSound_of_small? counted
  have exact : exactCount small.count digits = 0 ∨
        10 ^ digits.length ≤ 2 ^ 41 * exactRest small.count digits →
      10 ^ digits.length ≤ 2 ^ 41 * (10 ^ digits.length - exactRest small.count digits) →
      portion (fractionOf digits) small.count = exactCount small.count digits :=
    fun above below =>
      Nat.le_antisymm (portion_le sound areDigits below) (le_portion sound areDigits above)
  refine ⟨portion (fractionOf digits) small.count, ?_, portion_off_by_one sound areDigits, exact,
    portion_of_whole sound areDigits, fun few between => ?_⟩
  · rw [read_decimalAgo fits areDigits present, step?_fraction counted]
  · obtain ⟨above, below⟩ := clear_of_few few between
    exact exact (.inr above) below

theorem read_fractions_dayAndQuarter :
    TimeUnit.day.small? = some minutesOfDay ∧ 1 ≤ Number.maxUnsigned32 ∧
      (∀ c ∈ ['2', '5'], c.isDigit = true) ∧ ['2', '5'] ≠ [] ∧
      read "1.25 days ago" summerNoon = .ok ⟨1465884000, 0⟩ := by
  have areDigits : ∀ c ∈ ['2', '5'], c.isDigit = true := List.all_eq_true.mp rfl
  obtain ⟨count, reads, -, -, whole, -⟩ :=
    read_fractions (show TimeUnit.day.small? = some minutesOfDay from rfl)
      (show 1 ≤ Number.maxUnsigned32 by decide) areDigits (by decide) summerNoon 0 true
  have isCount : count = 360 := whole (by decide +kernel)
  have phrase : decimal 0 1 ['2', '5'] ++ " " ++ TimeUnit.day.inWords true ++ " ago" =
      "1.25 days ago" := by decide
  rw [isCount, phrase] at reads
  exact ⟨rfl, by decide, areDigits, by decide, reads.trans (by decide +kernel)⟩

/-- Seven tenths of a day are exactly 1008 minutes, and only 1007 are taken off. -/
theorem read_fractions_missed :
    exactCount minutesOfDay.count ['7'] = 1008 ∧ exactRest minutesOfDay.count ['7'] = 0 ∧
      read "0.7 days ago" summerNoon = .ok ⟨summerNoon.seconds - 60 * 1007, 0⟩ ∧
      read "0.7 days ago" summerNoon ≠ .ok ⟨summerNoon.seconds - 60 * 1008, 0⟩ := by
  have reads : read "0.7 days ago" summerNoon = .ok ⟨summerNoon.seconds - 60 * 1007, 0⟩ := by
    decide +kernel
  refine ⟨by decide +kernel, by decide +kernel, reads, ?_⟩
  rw [reads]
  decide

end RelativeTime

end Metasearch
