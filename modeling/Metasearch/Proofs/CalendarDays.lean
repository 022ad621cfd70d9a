/-
This file settles that the date of a day number is the date with that number. The year is found
by an estimate that is off by one at most, the month by passing over the months that end before
the day; so the days before the year, the months before the month and the day together are the
number again. It exists, and dates within the years of the calendar are exactly the days from the
first to the last one. A year and a month that the days are found in are the only ones, so a date
that exists is also the date of its number.
-/
import Metasearch.Calendar.Date

namespace Metasearch.Calendar

/-! ### Years -/

theorem daysOf_cons (length : Nat) (lengths : List Nat) :
    daysOf (length :: lengths) = length + daysOf lengths := by
  have from_start : ∀ (list : List Nat) (start : Nat),
      list.foldl (· + ·) start = start + daysOf list := by
    intro list
    induction list with
    | nil => intro start; rfl
    | cons head rest inductionHypothesis =>
      intro start
      rw [daysOf, List.foldl_cons, List.foldl_cons, inductionHypothesis,
        inductionHypothesis (0 + head)]
      omega
  rw [daysOf, List.foldl_cons, from_start]
  omega

theorem daysOf_monthLengths (year : Int) :
    daysOf (monthLengths year) = if isLeapYear year then 366 else 365 := by
  unfold monthLengths
  cases isLeapYear year <;> rfl

theorem isLeapYear_iff (year : Int) :
    isLeapYear year = true ↔ year % 4 = 0 ∧ (year % 100 ≠ 0 ∨ year % 400 = 0) := by
  simp [isLeapYear]

/-- A year begins as many days after the year before it as that one has. -/
theorem daysBeforeYear_succ (year : Int) :
    daysBeforeYear (year + 1) = daysBeforeYear year + daysOf (monthLengths year) := by
  rw [daysOf_monthLengths]
  have leapIff := isLeapYear_iff year
  unfold daysBeforeYear
  by_cases leap : isLeapYear year = true
  · have rule := leapIff.mp leap
    rw [if_pos leap]
    omega
  · have rule := mt leapIff.mpr leap
    rw [if_neg leap]
    omega

theorem daysBeforeYear_mono {first second : Int} (before : first ≤ second) :
    daysBeforeYear first ≤ daysBeforeYear second := by
  unfold daysBeforeYear
  omega

namespace Date

/-- The year of a day begins on that day or before it, and the next one behind it. -/
theorem yearOfDay_spec (day : Int) :
    daysBeforeYear (yearOfDay day) ≤ day ∧ day < daysBeforeYear (yearOfDay day + 1) := by
  have near : daysBeforeYear (day * 400 / 146097 - 1) ≤ day ∧
      day < daysBeforeYear (day * 400 / 146097 + 1 + 1) := by
    unfold daysBeforeYear
    omega
  rw [yearOfDay]
  split
  · next early => exact ⟨near.1, by rwa [Int.sub_add_cancel]⟩
  · next late =>
    split
    · next behind => exact ⟨behind, near.2⟩
    · next there => exact ⟨Int.not_lt.mp late, Int.not_le.mp there⟩

/-! ### Months and days -/

/-- The month and the day of a place: the months passed over and the day are as many days as the
place, and the day is one of its month. -/
theorem monthAndDay_spec {lengths : List Nat} {place : Nat} (inside : place < daysOf lengths)
    (first : Nat) :
    ∃ passed, passed < lengths.length ∧ (monthAndDay first place lengths).1 = first + passed ∧
      daysOf (lengths.take passed) + (monthAndDay first place lengths).2 = place + 1 ∧
      1 ≤ (monthAndDay first place lengths).2 ∧
      (monthAndDay first place lengths).2 ≤ lengths.getD passed 0 := by
  induction lengths generalizing place first with
  | nil => cases inside
  | cons length rest inductionHypothesis =>
    rw [daysOf_cons] at inside
    rw [monthAndDay]
    by_cases here : place < length
    · rw [if_pos here]
      exact ⟨0, Nat.succ_pos _, rfl, by simp [daysOf], by simp, Nat.succ_le_of_lt here⟩
    · rw [if_neg here]
      obtain ⟨passed, shorter, month, days, some, few⟩ :=
        @inductionHypothesis (place - length) (by omega) (first + 1)
      refine ⟨passed + 1, by simpa using shorter, by rw [month]; omega, ?_, some, by simpa using few⟩
      rw [List.take_succ_cons, daysOf_cons]
      omega

theorem length_monthLengths (year : Int) : (monthLengths year).length = 12 := rfl

/-- The date of a place in a year is a day of one of its months, and has that place. -/
theorem ofPlace_spec {year : Int} {place : Nat} (inside : place < daysOf (monthLengths year)) :
    (ofPlace year place).year = year ∧
      1 ≤ (ofPlace year place).month ∧ (ofPlace year place).month ≤ 12 ∧
      1 ≤ (ofPlace year place).day ∧
      (ofPlace year place).day ≤ daysInMonth year (ofPlace year place).month ∧
      (ofPlace year place).ordinal = place + 1 := by
  obtain ⟨passed, twelve, month, days, some, few⟩ := monthAndDay_spec inside 1
  rw [length_monthLengths] at twelve
  have index : (monthAndDay 1 place (monthLengths year)).1 - 1 = passed := by omega
  refine ⟨rfl, ?_, ?_, some, ?_, ?_⟩
  · show 1 ≤ (monthAndDay 1 place (monthLengths year)).1
    omega
  · show (monthAndDay 1 place (monthLengths year)).1 ≤ 12
    omega
  · show _ ≤ (monthLengths year).getD ((monthAndDay 1 place (monthLengths year)).1 - 1) 0
    rw [index]
    exact few
  · show daysOf ((monthLengths year).take ((monthAndDay 1 place (monthLengths year)).1 - 1)) +
      (monthAndDay 1 place (monthLengths year)).2 = place + 1
    rw [index]
    exact days

/-! ### Day numbers -/

theorem ofDayNumber_inside (number : Int) :
    (number + epochDay - daysBeforeYear (yearOfDay (number + epochDay))).toNat <
      daysOf (monthLengths (yearOfDay (number + epochDay))) := by
  have bounds := yearOfDay_spec (number + epochDay)
  rw [daysBeforeYear_succ] at bounds
  omega

/-- The date of a day number has that number. -/
theorem dayNumber_ofDayNumber (number : Int) : (ofDayNumber number).dayNumber = number := by
  obtain ⟨year, -, -, -, -, ordinal⟩ := ofPlace_spec (ofDayNumber_inside number)
  have begun := (yearOfDay_spec (number + epochDay)).1
  show daysBeforeYear (ofPlace _ _).year + ((ofPlace _ _).ordinal : Int) - 1 - epochDay = number
  rw [year, ordinal]
  omega

/-- The year of a day is the only one that begins on it or before it and ends behind it. -/
theorem yearOfDay_eq {day year : Int} (begun : daysBeforeYear year ≤ day)
    (notOver : day < daysBeforeYear (year + 1)) : yearOfDay day = year := by
  obtain ⟨found, foundNotOver⟩ := yearOfDay_spec day
  rcases Int.lt_trichotomy (yearOfDay day) year with early | same | late
  · have passed := daysBeforeYear_mono (show yearOfDay day + 1 ≤ year by omega)
    omega
  · exact same
  · have passed := daysBeforeYear_mono (show year + 1 ≤ yearOfDay day by omega)
    omega

/-- Behind the months passed over, the month and the day of a place are found. -/
theorem monthAndDay_eq {lengths : List Nat} {passed place : Nat}
    (inside : place < lengths.getD passed 0) (first : Nat) :
    monthAndDay first (daysOf (lengths.take passed) + place) lengths =
      (first + passed, place + 1) := by
  induction lengths generalizing passed first with
  | nil => simp at inside
  | cons length rest inductionHypothesis =>
    rw [monthAndDay]
    cases passed with
    | zero =>
      rw [List.getD_cons_zero] at inside
      simp [daysOf, inside]
    | succ passed =>
      rw [List.getD_cons_succ] at inside
      have behind : ¬ daysOf ((length :: rest).take (passed + 1)) + place < length := by
        rw [List.take_succ_cons, daysOf_cons]
        omega
      have left : daysOf ((length :: rest).take (passed + 1)) + place - length =
          daysOf (rest.take passed) + place := by
        rw [List.take_succ_cons, daysOf_cons]
        omega
      rw [if_neg behind, left, inductionHypothesis inside, Prod.mk.injEq]
      omega

/-- The years of the calendar are those of its days. -/
theorem yearOfDay_inRange {number : Int} (low : firstDay ≤ number) (high : number ≤ lastDay) :
    firstYear ≤ yearOfDay (number + epochDay) ∧ yearOfDay (number + epochDay) ≤ lastYear := by
  obtain ⟨begun, notOver⟩ := yearOfDay_spec (number + epochDay)
  have first : firstDay + epochDay = daysBeforeYear firstYear := by decide
  have last : lastDay + epochDay < daysBeforeYear (lastYear + 1) := by decide
  constructor
  · refine Int.not_lt.mp fun early => ?_
    have behind := daysBeforeYear_mono (show yearOfDay (number + epochDay) + 1 ≤ firstYear by omega)
    omega
  · refine Int.not_lt.mp fun late => ?_
    have tooLate :=
      daysBeforeYear_mono (show lastYear + 1 ≤ yearOfDay (number + epochDay) by omega)
    omega

/-- The days of the calendar have dates that exist. -/
theorem isValid_ofDayNumber {number : Int} (low : firstDay ≤ number) (high : number ≤ lastDay) :
    (ofDayNumber number).isValid = true := by
  obtain ⟨year, one, twelve, some, few, -⟩ := ofPlace_spec (ofDayNumber_inside number)
  obtain ⟨early, late⟩ := yearOfDay_inRange low high
  show (ofPlace _ _).isValid = true
  simp only [isValid, Bool.and_eq_true, decide_eq_true_eq]
  rw [year]
  exact ⟨⟨⟨⟨⟨early, late⟩, one⟩, twelve⟩, some⟩, few⟩

theorem daysOf_take_le (lengths : List Nat) (index : Nat) :
    daysOf (lengths.take index) + lengths.getD index 0 ≤ daysOf lengths := by
  induction lengths generalizing index with
  | nil => simp [daysOf]
  | cons length rest inductionHypothesis =>
    cases index with
    | zero =>
      rw [daysOf_cons]
      simp [daysOf]
    | succ index =>
      have later := inductionHypothesis index
      simp only [List.take_succ_cons, daysOf_cons, List.getD_cons_succ]
      omega

theorem ordinal_bounds {date : Date} (valid : date.isValid = true) :
    1 ≤ date.ordinal ∧ date.ordinal ≤ daysOf (monthLengths date.year) := by
  simp only [isValid, Bool.and_eq_true, decide_eq_true_eq] at valid
  obtain ⟨⟨-, some⟩, few⟩ := valid
  have within := daysOf_take_le (monthLengths date.year) (date.month - 1)
  unfold ordinal
  unfold daysInMonth at few
  omega

/-- The number of a date that exists is one of a day of the calendar. -/
theorem dayNumber_inRange {date : Date} (valid : date.isValid = true) :
    firstDay ≤ date.dayNumber ∧ date.dayNumber ≤ lastDay := by
  have bounds := ordinal_bounds valid
  simp only [isValid, Bool.and_eq_true, decide_eq_true_eq] at valid
  obtain ⟨⟨⟨⟨⟨early, late⟩, -⟩, -⟩, -⟩, -⟩ := valid
  have ends := daysBeforeYear_succ date.year
  have first : firstDay + epochDay = daysBeforeYear firstYear := by decide
  have last : lastDay + epochDay + 1 = daysBeforeYear (lastYear + 1) := by decide
  have begins := daysBeforeYear_mono early
  have behind := daysBeforeYear_mono (show date.year + 1 ≤ lastYear + 1 by omega)
  unfold dayNumber
  omega

/-- A date that exists is the date of its number. -/
theorem ofDayNumber_dayNumber {date : Date} (valid : date.isValid = true) :
    ofDayNumber date.dayNumber = date := by
  obtain ⟨one, few⟩ := ordinal_bounds valid
  simp only [isValid, Bool.and_eq_true, decide_eq_true_eq] at valid
  obtain ⟨⟨⟨⟨⟨-, -⟩, first⟩, -⟩, some⟩, short⟩ := valid
  have ends := daysBeforeYear_succ date.year
  have day : date.dayNumber + epochDay = daysBeforeYear date.year + (date.ordinal - 1 : Nat) := by
    unfold dayNumber
    omega
  have year : yearOfDay (date.dayNumber + epochDay) = date.year :=
    yearOfDay_eq (by omega) (by omega)
  have place : (date.dayNumber + epochDay - daysBeforeYear date.year).toNat =
      daysOf ((monthLengths date.year).take (date.month - 1)) + (date.day - 1) := by
    rw [day]
    unfold ordinal
    omega
  have inMonth : date.day - 1 < (monthLengths date.year).getD (date.month - 1) 0 := by
    unfold daysInMonth at short
    omega
  have found := monthAndDay_eq inMonth 1
  unfold ofDayNumber ofPlace
  simp only [year, place, found]
  rw [show 1 + (date.month - 1) = date.month by omega,
    show date.day - 1 + 1 = date.day by omega]

theorem of?_eq_some {year : Int} {month day : Nat} {date : Date}
    (found : of? year month day = some date) :
    date = ⟨year, month, day⟩ ∧ date.isValid = true := by
  unfold of? at found
  split at found
  · next valid =>
    cases found
    exact ⟨rfl, valid⟩
  · cases found

theorem of?_of_isValid {date : Date} (valid : date.isValid = true) :
    of? date.year date.month date.day = some date :=
  if_pos valid

theorem isValid_ofOrdinal? {year : Int} {ordinal : Nat} {date : Date}
    (found : ofOrdinal? year ordinal = some date) : date.isValid = true := by
  unfold ofOrdinal? at found
  simp only [Bool.and_eq_true, decide_eq_true_eq] at found
  split at found
  · next inside =>
    cases found
    obtain ⟨⟨early, late⟩, one, few⟩ := inside
    obtain ⟨same, first, twelve, some, short, -⟩ :=
      ofPlace_spec (show ordinal - 1 < daysOf (monthLengths year) by omega)
    simp only [isValid, Bool.and_eq_true, decide_eq_true_eq]
    rw [same]
    exact ⟨⟨⟨⟨⟨early, late⟩, first⟩, twelve⟩, some⟩, short⟩
  · cases found

end Date

end Metasearch.Calendar
