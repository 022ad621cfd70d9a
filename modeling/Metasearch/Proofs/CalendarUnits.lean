/-
This file settles where months and years lead. Months before a date are counted over the ends of
years; the day stays what it is, as far as the month found has one. So the date exists unless its
year is before the first one of the calendar, whatever the number of months; and the time of day is
not touched. Years are twelve months each. Their number is cut off where it no longer fits 32 bits,
but so many months lead out of the calendar from any of its days, and so do all that were cut off.
-/
import Metasearch.Proofs.PhraseWords

namespace Metasearch

/-! ### Months before a date -/

namespace Calendar

theorem one_le_daysInMonth (year : Int) {month : Nat} (one : 1 ≤ month) (twelve : month ≤ 12) :
    1 ≤ daysInMonth year month := by
  have each : ∀ length ∈ monthLengths year, 1 ≤ length := by
    unfold monthLengths
    cases isLeapYear year <;> decide
  have inside : month - 1 < (monthLengths year).length := by
    rw [Date.length_monthLengths]
    omega
  rw [daysInMonth, List.getD_eq_getElem?_getD, List.getElem?_eq_getElem inside, Option.getD_some]
  exact each _ (List.getElem_mem inside)

/-- The month of a year that is so many months before that of a date. -/
structure IsMonthBefore (date : Date) (months : Nat) (year : Int) (month : Nat) : Prop where
  one : 1 ≤ month
  twelve : month ≤ 12
  apart : year * 12 + month + months = date.year * 12 + date.month

/-- A date with its day, or with the last one of a month that has no such day. -/
def Date.dayIn (date : Date) (year : Int) (month : Nat) : Date :=
  ⟨year, month, min date.day (daysInMonth year month)⟩

/-- The date some months earlier exists unless its year is before those of the calendar. -/
theorem Date.minusMonths?_eq {date : Date} (valid : date.isValid = true) {months : Nat} {year : Int}
    {month : Nat} (before : IsMonthBefore date months year month) :
    date.minusMonths? months = if year < firstYear then none else some (date.dayIn year month) := by
  simp only [isValid, Bool.and_eq_true, decide_eq_true_eq] at valid
  obtain ⟨⟨⟨⟨⟨-, late⟩, one⟩, twelve⟩, some⟩, -⟩ := valid
  obtain ⟨oneThere, twelveThere, apart⟩ := before
  have sameYear : (date.year * 12 + (date.month - 1 : Nat) - months) / 12 = year := by omega
  have sameMonth : ((date.year * 12 + (date.month - 1 : Nat) - months) % 12).toNat + 1 = month := by
    omega
  have present := one_le_daysInMonth year oneThere twelveThere
  unfold minusMonths? of?
  simp only [sameYear, sameMonth]
  by_cases early : year < firstYear
  · rw [if_pos early, if_neg]
    simp only [isValid, Bool.and_eq_true, decide_eq_true_eq]
    omega
  · rw [if_neg early, if_pos]
    · rfl
    · simp only [isValid, Bool.and_eq_true, decide_eq_true_eq]
      omega

/-- There is a month so many months before a date. -/
theorem exists_isMonthBefore (date : Date) (months : Nat) :
    ∃ year month, IsMonthBefore date months year month := by
  refine ⟨(date.year * 12 + date.month - months - 1) / 12,
    ((date.year * 12 + date.month - months - 1) % 12).toNat + 1, ?_, ?_, ?_⟩ <;> omega

theorem isValid_of_minusMonths? {date found : Date} {months : Nat}
    (there : date.minusMonths? months = some found) : found.isValid = true :=
  (Date.of?_eq_some there).2

/-- The date of an instant, in UTC. -/
def Instant.date (instant : Instant) : Date :=
  Date.ofDayNumber instant.dayNumber

theorem Instant.date_onDay (instant : Instant) {date : Date} (valid : date.isValid = true) :
    (instant.onDay date.dayNumber).date = date := by
  rw [Instant.date, dayNumber_onDay, Date.ofDayNumber_dayNumber valid]

theorem Instant.isValid_date {instant : Instant} (inRange : instant.inRange = true) :
    instant.date.isValid = true :=
  Date.isValid_ofDayNumber (inRange_iff.mp inRange).1 (inRange_iff.mp inRange).2

end Calendar

namespace RelativeTime

open Calendar (Date Instant IsMonthBefore exists_isMonthBefore daysInMonth firstYear)
open Number (Binary64)

variable {now : Instant}

/-! ### Months and years of a phrase -/

/-- The instant so many calendar months earlier, however many they are. -/
def monthsBefore (now : Instant) (months : Nat) : Except Reason Instant :=
  (now.minusMonths? months).elim (.error .outOfRange) .ok

/-- An outcome of going back to a month: an instant of that month at the same time of day and on the
same day, or on the last day of the month; out of range if the month is before the calendar. -/
def LeadsTo (now : Instant) (year : Int) (month : Nat) (outcome : Except Reason Instant) : Prop :=
  if year < firstYear then outcome = .error .outOfRange
  else ∃ instant, outcome = .ok instant ∧
    instant.date = ⟨year, month, min now.date.day (daysInMonth year month)⟩ ∧
    instant.timeOfDay = now.timeOfDay ∧ instant.nanos = now.nanos

theorem leadsTo_monthsBefore (inRange : now.inRange = true) {months : Nat} {year : Int}
    {month : Nat} (before : IsMonthBefore now.date months year month) :
    LeadsTo now year month (monthsBefore now months) := by
  have found := Date.minusMonths?_eq (Instant.isValid_date inRange) before
  unfold LeadsTo monthsBefore Instant.minusMonths?
  rw [← Instant.date]
  by_cases early : year < firstYear
  · rw [if_pos early] at found ⊢
    rw [found]
    rfl
  · rw [if_neg early] at found ⊢
    rw [found]
    exact ⟨_, rfl, Instant.date_onDay now (Calendar.isValid_of_minusMonths? found),
      Calendar.Instant.timeOfDay_onDay now _, rfl⟩

/-- So many months as do not fit 32 bits lead out of the calendar, and so does what they are cut
off to. -/
theorem monthsBefore_saturated (inRange : now.inRange = true) (months : Nat) :
    monthsBefore now (min months Number.maxUnsigned32) = monthsBefore now months := by
  have limit : Number.maxUnsigned32 = 4294967295 := by decide
  rcases Nat.le_total months Number.maxUnsigned32 with fits | large
  · rw [Nat.min_eq_left fits]
  · have valid := Instant.isValid_date inRange
    simp only [Date.isValid, Bool.and_eq_true, decide_eq_true_eq] at valid
    obtain ⟨⟨⟨⟨⟨-, late⟩, -⟩, twelve⟩, -⟩, -⟩ := valid
    have out : ∀ months, Number.maxUnsigned32 ≤ months →
        monthsBefore now months = .error .outOfRange := by
      intro months large
      obtain ⟨year, month, before⟩ := exists_isMonthBefore now.date months
      have leads := leadsTo_monthsBefore inRange before
      have early : year < firstYear := by
        have apart := before.apart
        have one := before.one
        unfold Calendar.lastYear at late
        unfold firstYear
        omega
      rwa [LeadsTo, if_pos early] at leads
    rw [out _ (Nat.le_min.mpr ⟨large, Nat.le_refl _⟩), out _ large]

/-- A phrase of one amount is one step. -/
theorem read_amountAgo (now : Instant) (amount : Amount) :
    read (numeral amount.width amount.count ++ " " ++ amount.unit.inWords amount.plural ++ " ago")
        now =
      (step? now ⟨amount.count, Binary64.zero⟩ amount.unit).elim (.error .outOfRange) .ok := by
  have inWords : numeral amount.width amount.count ++ " " ++ amount.unit.inWords amount.plural ++
      " ago" = " ".intercalate (amount.words ++ ["ago"]) := by
    simp only [Amount.words, List.cons_append, List.nil_append, String.intercalate_cons_cons,
      String.intercalate_singleton, String.append_assoc]
    rfl
  have fill : ∀ word ∈ ["ago"], word ∈ fillers := by decide
  have ago : ∀ next, goBack next (["ago"].flatMap fun word => tokens word.toList) = .ok next := by
    intro next
    have passed := @goBack_fillers next _ fill []
    rwa [List.append_nil] at passed
  rw [inWords, read, tokens_intercalate, List.flatMap_append, goBack_amount]
  simp only [ago]

theorem minusShareOfMonths?_zero (instant : Instant) (months : Nat) :
    minusShareOfMonths? instant months Binary64.zero = some instant := rfl

theorem step?_month (now : Instant) (count : Nat) :
    step? now ⟨count, Binary64.zero⟩ .month = now.minusMonths? count := by
  simp only [step?, minusShareOfMonths?_zero, Option.bind_eq_bind, Option.bind_fun_some]

theorem step?_year (now : Instant) (count : Nat) :
    step? now ⟨count, Binary64.zero⟩ .year =
      now.minusMonths? (min (count * 12) Number.maxUnsigned32) := by
  simp only [step?, minusShareOfMonths?_zero, Option.bind_eq_bind, Option.bind_fun_some]

/-- Months lead to the calendar month so many months before, and to its last day if it is too
short for the day; the phrase fails only if that month is before the first year of the calendar,
and because of that. Years lead where twelve times as many months lead, also where so many months
do not fit 32 bits. -/
theorem read_calendarUnits (inRange : now.inRange = true) :
    (∀ months, ∃ year month, IsMonthBefore now.date months year month ∧
      LeadsTo now year month (monthsBefore now months)) ∧
    ∀ count, count ≤ Number.maxUnsigned32 → ∀ (width : Nat) (plural : Bool),
      read (numeral width count ++ " " ++ TimeUnit.month.inWords plural ++ " ago") now =
          monthsBefore now count ∧
        read (numeral width count ++ " " ++ TimeUnit.year.inWords plural ++ " ago") now =
          monthsBefore now (12 * count) := by
  refine ⟨fun months => ?_, fun count fits width plural => ⟨?_, ?_⟩⟩
  · obtain ⟨year, month, before⟩ := exists_isMonthBefore now.date months
    exact ⟨year, month, before, leadsTo_monthsBefore inRange before⟩
  · have stepped := read_amountAgo now ⟨count, .month, width, plural, fits⟩
    simp only [step?_month] at stepped
    exact stepped
  · have stepped := read_amountAgo now ⟨count, .year, width, plural, fits⟩
    simp only [step?_year] at stepped
    exact stepped.trans ((monthsBefore_saturated inRange _).trans
      (congrArg (monthsBefore now) (Nat.mul_comm count 12)))

/-- Noon of 31 March 2016. -/
def endOfMarch : Instant := ⟨1459425600, 0⟩

theorem read_calendarUnits_endOfMarch :
    endOfMarch.inRange = true ∧ endOfMarch.date = ⟨2016, 3, 31⟩ ∧
      read "1 month ago" endOfMarch = .ok ⟨1456747200, 0⟩ ∧
      Instant.date ⟨1456747200, 0⟩ = ⟨2016, 2, 29⟩ ∧
      Number.maxUnsigned32 < 12 * 400000000 ∧
      read "400000000 years ago" endOfMarch = .error .outOfRange := by
  have inRange : endOfMarch.inRange = true := by decide
  obtain ⟨-, phrases⟩ := read_calendarUnits inRange
  have month := (phrases 1 (by decide) 0 false).1
  have years := (phrases 400000000 (by decide) 0 true).2
  rw [show numeral 0 1 ++ " " ++ TimeUnit.month.inWords false ++ " ago" = "1 month ago" by decide]
    at month
  rw [show numeral 0 400000000 ++ " " ++ TimeUnit.year.inWords true ++ " ago" =
    "400000000 years ago" by decide] at years
  exact ⟨inRange, by decide, month.trans (by decide), by decide, by decide,
    years.trans (by decide)⟩

end RelativeTime

end Metasearch
