/-
This file settles that the canonical form of a point in time reads back as that point in time, to
the second, and with the same offset. Each item of the pattern is read back from what was written
for it, whatever text stands behind it; so the parts that are collected are those that the clock
shows, and put together they are the point in time again, because the date of a day number has
that number.

A clock shows whole seconds. In a leap second at the end of a minute it shows 60, which is read as
that leap second; a leap second elsewhere cannot be told from the second behind it.
-/
import Mathlib.Data.Fintype.Basic
import Mathlib.Data.List.TakeWhile
import Mathlib.Tactic.FinCases
import Metasearch.Calendar.Canonical
import Metasearch.Proofs.CalendarDays
import Metasearch.Proofs.IntegerTexts

namespace Metasearch.Calendar

/-! ### Numbers -/

theorem digitsValue_append (digits : List Char) (c : Char) :
    digitsValue (digits ++ [c]) = digitsValue digits * 10 + Number.digitValue c := by
  rw [digitsValue, List.foldl_append]
  rfl

theorem digitsValue_toDigits (value : Nat) : digitsValue (Nat.toDigits 10 value) = value := by
  induction value using Nat.strongRecOn with
  | ind value inductionHypothesis =>
    by_cases single : value < 10
    · rw [Nat.toDigits_of_lt_base single]
      show 0 * 10 + Number.digitValue value.digitChar = value
      rw [Number.digitValue_digitChar single]
      omega
    · rw [Nat.toDigits_of_base_le (by decide) (Nat.not_lt.mp single), digitsValue_append,
        inductionHypothesis _ (by omega), Number.digitValue_digitChar (Nat.mod_lt _ (by decide))]
      omega

/-- Zeros in front of digits do not count. -/
theorem digitsValue_zeros (count : Nat) (digits : List Char) :
    digitsValue (List.replicate count '0' ++ digits) = digitsValue digits := by
  induction count with
  | zero => rfl
  | succ count inductionHypothesis => exact inductionHypothesis

theorem digitsValue_padded (width value : Nat) :
    digitsValue (padded width '0' value) = value := by
  rw [padded, digitsValue_zeros, decimal, digitsValue_toDigits]

theorem isDigit_of_mem_padded {width value : Nat} {c : Char}
    (member : c ∈ padded width '0' value) : c.isDigit = true := by
  rcases List.mem_append.mp member with zero | digit
  · rw [List.eq_of_mem_replicate zero]
    rfl
  · exact Nat.isDigit_of_mem_toDigits (by decide) (by decide) digit

theorem takeWhile_padded (width value : Nat) :
    (padded width '0' value).takeWhile Char.isDigit = padded width '0' value :=
  List.takeWhile_eq_self_iff.mpr fun _ => isDigit_of_mem_padded

theorem padded_ne_nil (width value : Nat) : padded width '0' value ≠ [] :=
  List.append_ne_nil_of_right_ne_nil _ Nat.toDigits_ne_nil

theorem length_padded {width value : Nat} (wide : 0 < width) (fits : value < 10 ^ width) :
    (padded width '0' value).length = width := by
  have short := (Nat.length_toDigits_le_iff (by decide) wide).mpr fits
  rw [padded, List.length_append, List.length_replicate, decimal]
  omega

/-- What is written of a number begins with a digit. -/
theorem padded_head (width value : Nat) :
    ∃ c rest, padded width '0' value = c :: rest ∧ c.isDigit = true := by
  obtain ⟨c, rest, text⟩ := List.exists_cons_of_ne_nil (padded_ne_nil width value)
  exact ⟨c, rest, text, isDigit_of_mem_padded (text ▸ List.mem_cons_self)⟩

theorem readNumber?_of_taken {most value : Nat} {digits rest : List Char}
    (taken : ((digits ++ rest).take most).takeWhile Char.isDigit = digits)
    (present : digits ≠ []) (read : digitsValue digits = value)
    (small : value ≤ Number.maxSigned) :
    readNumber? most (digits ++ rest) = some (value, rest) := by
  rw [readNumber?, taken, read, if_neg (by simp [present, small]), List.drop_left]

/-- A number that fills its places is read back, whatever stands behind it. -/
theorem readNumber?_padded {width value : Nat} (wide : 0 < width) (fits : value < 10 ^ width)
    (small : value ≤ Number.maxSigned) (rest : List Char) :
    readNumber? width (padded width '0' value ++ rest) = some (value, rest) := by
  refine readNumber?_of_taken ?_ (padded_ne_nil width value) (digitsValue_padded width value) small
  rw [List.take_left' (length_padded wide fits), takeWhile_padded]

/-- A number of any length is read back if no digit stands behind it. -/
theorem readNumber?_length {width value : Nat} (small : value ≤ Number.maxSigned) {c : Char}
    (noDigit : c.isDigit = false) (rest : List Char) :
    readNumber? (padded width '0' value ++ c :: rest).length
        (padded width '0' value ++ c :: rest) = some (value, c :: rest) := by
  refine readNumber?_of_taken ?_ (padded_ne_nil width value) (digitsValue_padded width value) small
  rw [List.take_length, List.takeWhile_append_of_pos fun _ => isDigit_of_mem_padded,
    List.takeWhile_cons_of_neg (by simp [noDigit]), List.append_nil]

/-! ### Years -/

theorem readYear?_of_digit {c : Char} (digit : c.isDigit = true) (rest : List Char) :
    readYear? (c :: rest) =
      (readNumber? 4 (c :: rest)).map fun (value, rest) => ((value : Int), rest) := by
  have notPlus : c ≠ '+' := by rintro rfl; exact absurd digit (by decide)
  have notMinus : c ≠ '-' := by rintro rfl; exact absurd digit (by decide)
  unfold readYear?
  split <;> simp_all

theorem readYear?_minus (text : List Char) :
    readYear? ('-' :: text) =
      (readNumber? text.length text).map fun (value, rest) => (-(value : Int), rest) := rfl

theorem readYear?_plus (text : List Char) :
    readYear? ('+' :: text) =
      (readNumber? text.length text).map fun (value, rest) => ((value : Int), rest) := rfl

/-- A year is read back if no digit stands behind it: one with a sign may have any length. -/
theorem readYear?_writtenYear {year : Int} (small : year.natAbs ≤ Number.maxSigned) {c : Char}
    (noDigit : c.isDigit = false) (rest : List Char) :
    readYear? (writtenYear .zeros year ++ c :: rest) = some (year, c :: rest) := by
  have zeros : ∀ value, written 4 .zeros value = padded 4 '0' value := fun _ => rfl
  unfold writtenYear
  split
  · next usual =>
    simp only [Bool.and_eq_true, decide_eq_true_eq] at usual
    obtain ⟨head, tail, text, digit⟩ := padded_head 4 year.toNat
    have read := @readNumber?_padded 4 year.toNat (by decide) (by omega)
      (by omega) (c :: rest)
    rw [zeros]
    rw [text, List.cons_append] at read ⊢
    rw [readYear?_of_digit digit, read, Option.map_some]
    simp only [Option.some.injEq, Prod.mk.injEq, and_true]
    exact Int.toNat_of_nonneg usual.1
  · next signed =>
    have read := @readNumber?_length 4 _ small _ noDigit rest
    by_cases negative : year < 0
    · rw [if_pos negative, List.cons_append, zeros, readYear?_minus, read, Option.map_some]
      simp only [Option.some.injEq, Prod.mk.injEq, and_true]
      omega
    · rw [if_neg negative, List.cons_append, zeros, readYear?_plus, read, Option.map_some]
      simp only [Option.some.injEq, Prod.mk.injEq, and_true]
      omega

/-! ### Offsets -/

theorem readTwoDigits?_padded {value : Nat} (fits : value < 100) (rest : List Char) :
    readTwoDigits? (padded 2 '0' value ++ rest) = some (value, rest) := by
  obtain ⟨first, second, text⟩ :=
    List.length_eq_two.mp (@length_padded 2 value (by decide) fits)
  have firstDigit : first.isDigit = true := isDigit_of_mem_padded (text ▸ List.mem_cons_self)
  have secondDigit : second.isDigit = true :=
    isDigit_of_mem_padded (text ▸ List.mem_cons_of_mem _ List.mem_cons_self)
  have read : digitsValue [first, second] = value := text ▸ digitsValue_padded 2 value
  rw [text]
  show (if first.isDigit && second.isDigit then some (digitsValue [first, second], rest)
    else none) = _
  rw [firstDigit, secondDigit, read]
  rfl

/-- A digit is neither a blank nor a colon. -/
theorem solid_of_isDigit {c : Char} (digit : c.isDigit = true) :
    Text.isBlank c = false ∧ (c == ':') = false := by
  simp only [Char.isDigit, Bool.and_eq_true, decide_eq_true_eq] at digit
  obtain ⟨low, high⟩ := digit
  have low : 48 ≤ c.toNat := low
  have high : c.toNat ≤ 57 := high
  constructor
  · simp [Text.isBlank]
    omega
  · simp only [beq_eq_false_iff_ne, ne_eq]
    rintro rfl
    exact absurd high (by decide)

theorem dropWhile_padded {skips : Char → Bool} (keeps : ∀ c, c.isDigit = true → skips c = false)
    (width value : Nat) (rest : List Char) :
    (padded width '0' value ++ rest).dropWhile skips = padded width '0' value ++ rest := by
  obtain ⟨c, tail, text, digit⟩ := padded_head width value
  rw [text, List.cons_append, List.dropWhile_cons_of_neg (by simp [keeps c digit])]

/-- An offset in whole minutes is read back. -/
theorem readOffset?_writtenOffset {offset : Int} (wholeMinutes : offset % 60 = 0)
    (short : offset.natAbs < secondsPerDay) (rest : List Char) :
    readOffset? false (writtenOffset false offset ++ rest) = some (offset, rest) := by
  have short : offset.natAbs < 86400 := short
  have hours := @readTwoDigits?_padded (offset.natAbs / 60 / 60) (by omega)
    (padded 2 '0' (offset.natAbs / 60 % 60) ++ rest)
  have minutes := @readTwoDigits?_padded (offset.natAbs / 60 % 60) (by omega) rest
  have colons := @dropWhile_padded (fun c => c == ':' || Text.isBlank c)
    (fun c digit => by simp [solid_of_isDigit digit]) 2 (offset.natAbs / 60 % 60) rest
  have written : writtenOffset false offset ++ rest =
      (if offset < 0 then '-' else '+') :: (padded 2 '0' (offset.natAbs / 60 / 60) ++
        (padded 2 '0' (offset.natAbs / 60 % 60) ++ rest)) := by
    simp [writtenOffset]
  have behindSign : ∀ sign : Int, (do
      let (hours, rest) ← readTwoDigits? (padded 2 '0' (offset.natAbs / 60 / 60) ++
        (padded 2 '0' (offset.natAbs / 60 % 60) ++ rest))
      let rest := rest.dropWhile fun c => c == ':' || Text.isBlank c
      let (minutes, rest) ← readTwoDigits? rest
      if minutes ≤ 59 then return (sign * (hours * 3600 + minutes * 60), rest) else none) =
      some (sign * ((offset.natAbs / 60 / 60 : Nat) * 3600 +
        (offset.natAbs / 60 % 60 : Nat) * 60), rest) := by
    intro sign
    simp only [hours, colons, minutes, Option.bind_eq_bind, Option.bind_some]
    rw [if_pos (by omega)]
    rfl
  rw [written]
  by_cases negative : offset < 0
  · rw [if_pos negative]
    refine (behindSign (-1)).trans ?_
    simp only [Option.some.injEq, Prod.mk.injEq, and_true]
    omega
  · rw [if_neg negative]
    refine (behindSign 1).trans ?_
    simp only [Option.some.injEq, Prod.mk.injEq, and_true]
    omega

/-! ### Names -/

theorem readName?_weekday (full : Bool) {index : Nat} (inside : index < 7) (rest : List Char) :
    readName? weekdayNames full (writtenName weekdayNames full index ++ rest) =
      some (index, rest) := by
  have each : ∀ index : Fin 7,
      readName? weekdayNames full (writtenName weekdayNames full index ++ rest) =
        some (index.val, rest) := by
    intro index
    cases full <;> fin_cases index <;> rfl
  exact each ⟨index, inside⟩

theorem readName?_month (full : Bool) {index : Nat} (inside : index < 12) (rest : List Char) :
    readName? monthNames full (writtenName monthNames full index ++ rest) =
      some (index, rest) := by
  have each : ∀ index : Fin 12,
      readName? monthNames full (writtenName monthNames full index ++ rest) =
        some (index.val, rest) := by
    intro index
    cases full <;> fin_cases index <;> rfl
  exact each ⟨index, inside⟩

/-! ### Items -/

theorem trimStart_padded (width value : Nat) (rest : List Char) :
    Text.trimStart (padded width '0' value ++ rest) = padded width '0' value ++ rest :=
  dropWhile_padded (fun _ digit => (solid_of_isDigit digit).1) width value rest

theorem trimStart_writtenYear (year : Int) (rest : List Char) :
    Text.trimStart (writtenYear .zeros year ++ rest) = writtenYear .zeros year ++ rest := by
  unfold writtenYear
  split
  · exact trimStart_padded 4 year.toNat rest
  · split <;> rfl

theorem trimStart_writtenOffset (offset : Int) (rest : List Char) :
    Text.trimStart (writtenOffset false offset ++ rest) = writtenOffset false offset ++ rest := by
  unfold writtenOffset
  by_cases negative : offset < 0
  · rw [if_pos negative]
    rfl
  · rw [if_neg negative]
    rfl

theorem trimStart_month {index : Nat} (inside : index < 12) (rest : List Char) :
    Text.trimStart (writtenName monthNames false index ++ rest) =
      writtenName monthNames false index ++ rest := by
  have each : ∀ index : Fin 12, Text.trimStart (writtenName monthNames false index ++ rest) =
      writtenName monthNames false index ++ rest := by
    intro index
    fin_cases index <;> rfl
  exact each ⟨index, inside⟩

/-- One blank of the pattern takes one blank of a text that goes on with something else. -/
theorem readItem?_blank {parts : Parts} {text : List Char} (solid : Text.trimStart text = text) :
    readItem? parts (' ' :: text) (.blanks [' ']) = some (parts, text) := by
  show some (parts, Text.trimStart text) = _
  rw [solid]

theorem readItem?_mark (parts : Parts) (mark : Char) (text : List Char) :
    readItem? parts (mark :: text) (.literal [mark]) = some (parts, text) := by
  have dropped : Text.dropBeginning? [mark] (mark :: text) = some text :=
    Text.dropBeginning_append [mark] text
  show (Text.dropBeginning? [mark] (mark :: text)).map _ = _
  rw [dropped, Option.map_some]

theorem readItem?_twoDigits {part : NumberPart} (wide : part.width = 2) {value : Nat}
    (fits : value < 100) (parts : Parts) (rest : List Char) :
    readItem? parts (padded 2 '0' value ++ rest) (.number part .zeros) =
      (parts.setNumber part value).map fun parts => (parts, rest) := by
  have small : value ≤ Number.maxSigned := Nat.le_trans (Nat.le_of_lt fits) (by decide)
  have read := @readNumber?_padded 2 value (by decide) fits small rest
  cases part with
  | year | ordinal => cases wide
  | _ =>
    simp only [readItem?, trimStart_padded, wide, read, Option.bind_eq_bind, Option.bind_some]
    cases parts.setNumber _ value <;> rfl

theorem canonicalItems :
    itemsOf canonicalPattern =
      [.weekdayName false, .literal [','], .blanks [' '], .number .day .zeros, .blanks [' '],
        .monthName false, .blanks [' '], .number .year .zeros, .blanks [' '],
        .number .hour .zeros, .literal [':'], .number .minute .zeros, .literal [':'],
        .number .second .zeros, .blanks [' '], .offset false] := by
  decide

/-! ### Parts -/

/-- A part may take a value if it has not been read yet, or has been read as that value. -/
def MayTake {Part : Type} (before : Option Part) (part : Part) : Prop :=
  before = none ∨ before = some part

theorem agree_of_mayTake {Part : Type} [DecidableEq Part] {before : Option Part} {part : Part}
    (may : MayTake before part) : Parts.agree before part = some (some part) := by
  rcases may with rfl | rfl
  · rfl
  · exact if_pos rfl

section Parts

variable {parts : Parts}

theorem readItem?_weekday (full : Bool) {index : Nat} (may : MayTake parts.weekday index)
    (inside : index < 7) (rest : List Char) :
    readItem? parts (writtenName weekdayNames full index ++ rest) (.weekdayName full) =
      some ({ parts with weekday := some index }, rest) := by
  simp only [readItem?, readName?_weekday full inside, Parts.setWeekday, agree_of_mayTake may,
    Option.bind_eq_bind, Option.bind_some]
  rfl

theorem setMonth_of_mayTake {month : Nat} (may : MayTake parts.month month) (one : 1 ≤ month)
    (twelve : month ≤ 12) : parts.setMonth month = some { parts with month := some month } := by
  have inRange : (decide (1 ≤ month) && decide (month ≤ 12)) = true := by simp [one, twelve]
  rw [Parts.setMonth, if_pos inRange, agree_of_mayTake may]
  rfl

theorem readItem?_month (full : Bool) {month : Nat} (may : MayTake parts.month month)
    (one : 1 ≤ month) (twelve : month ≤ 12) (rest : List Char) :
    readItem? parts (writtenName monthNames full (month - 1) ++ rest) (.monthName full) =
      some ({ parts with month := some month }, rest) := by
  simp only [readItem?, readName?_month full (show month - 1 < 12 by omega),
    Nat.sub_add_cancel one, setMonth_of_mayTake may one twelve, Option.bind_eq_bind,
    Option.bind_some]
  rfl

theorem readItem?_monthNumber {month : Nat} (may : MayTake parts.month month) (one : 1 ≤ month)
    (twelve : month ≤ 12) (rest : List Char) :
    readItem? parts (padded 2 '0' month ++ rest) (.number .month .zeros) =
      some ({ parts with month := some month }, rest) := by
  rw [readItem?_twoDigits rfl (by omega), Parts.setNumber, setMonth_of_mayTake may one twelve]
  rfl

theorem setYear_of_mayTake {year : Int} (may : MayTake parts.year year) (early : firstYear ≤ year)
    (late : year ≤ lastYear) : parts.setYear year = some { parts with year := some year } := by
  have early : -262143 ≤ year := early
  have late : year ≤ 262142 := late
  have within : Number.isWithin Number.maxSigned32 year = true := by
    have limit : (Number.maxSigned32 : Int) = 2147483647 := by decide
    simp only [Number.isWithin, limit, Bool.and_eq_true, decide_eq_true_eq]
    omega
  rw [Parts.setYear, if_pos within, agree_of_mayTake may]
  rfl

theorem readItem?_year {year : Int} (may : MayTake parts.year year) (early : firstYear ≤ year)
    (late : year ≤ lastYear) (rest : List Char) :
    readItem? parts (writtenYear .zeros year ++ ' ' :: rest) (.number .year .zeros) =
      some ({ parts with year := some year }, ' ' :: rest) := by
  have low : -262143 ≤ year := early
  have high : year ≤ 262142 := late
  have small : year.natAbs ≤ Number.maxSigned :=
    Nat.le_trans (show year.natAbs ≤ 262143 by omega) (by decide)
  simp only [readItem?, trimStart_writtenYear,
    readYear?_writtenYear small (show ' '.isDigit = false by decide),
    setYear_of_mayTake may early late, Option.bind_eq_bind, Option.bind_some]
  rfl

theorem readItem?_day {day : Nat} (may : MayTake parts.day day) (one : 1 ≤ day) (few : day ≤ 31)
    (rest : List Char) :
    readItem? parts (padded 2 '0' day ++ rest) (.number .day .zeros) =
      some ({ parts with day := some day }, rest) := by
  have inRange : (decide (1 ≤ day) && decide (day ≤ 31)) = true := by simp [one, few]
  rw [readItem?_twoDigits rfl (by omega)]
  simp only [Parts.setNumber, inRange, if_pos, agree_of_mayTake may]
  rfl

theorem readItem?_hour {hour : Nat} (mayHalf : MayTake parts.half (hour / 12))
    (may : MayTake parts.hourOfHalf (hour % 12)) (few : hour < 24) (rest : List Char) :
    readItem? parts (padded 2 '0' hour ++ rest) (.number .hour .zeros) =
      some ({ parts with half := some (hour / 12), hourOfHalf := some (hour % 12) }, rest) := by
  rw [readItem?_twoDigits rfl (by omega)]
  simp only [Parts.setNumber, if_pos (show hour ≤ 23 by omega), Parts.setHalf,
    Parts.setHourOfHalf, agree_of_mayTake mayHalf, agree_of_mayTake may, Option.pure_def,
    Option.bind_eq_bind, Option.bind_some, Option.map_some]

theorem readItem?_minute {minute : Nat} (may : MayTake parts.minute minute) (few : minute < 60)
    (rest : List Char) :
    readItem? parts (padded 2 '0' minute ++ rest) (.number .minute .zeros) =
      some ({ parts with minute := some minute }, rest) := by
  rw [readItem?_twoDigits rfl (by omega)]
  simp only [Parts.setNumber, if_pos (show minute ≤ 59 by omega), agree_of_mayTake may]
  rfl

theorem readItem?_second {second : Nat} (may : MayTake parts.second second) (few : second ≤ 60)
    (rest : List Char) :
    readItem? parts (padded 2 '0' second ++ rest) (.number .second .zeros) =
      some ({ parts with second := some second }, rest) := by
  rw [readItem?_twoDigits rfl (by omega)]
  simp only [Parts.setNumber, if_pos few, agree_of_mayTake may]
  rfl

theorem readItem?_offset {offset : Int} (may : MayTake parts.offset offset)
    (wholeMinutes : offset % 60 = 0) (short : offset.natAbs < secondsPerDay) (rest : List Char) :
    readItem? parts (writtenOffset false offset ++ rest) (.offset false) =
      some ({ parts with offset := some offset }, rest) := by
  simp only [readItem?, trimStart_writtenOffset, readOffset?_writtenOffset wholeMinutes short,
    Parts.setOffset, agree_of_mayTake may, Option.bind_eq_bind, Option.bind_some]
  rfl

end Parts

/-- The parts that a clock shows. -/
def shownParts (date : Date) (hour minute second : Nat) (offset : Int) : Parts :=
  { Parts.empty with
    year := some date.year, month := some date.month, day := some date.day
    weekday := some date.weekday, half := some (hour / 12), hourOfHalf := some (hour % 12)
    minute := some minute, second := some second, offset := some offset }

/-- What a clock shows, written in the canonical form. -/
def shownText (date : Date) (hour minute second : Nat) (offset : Int) : List Char :=
  writtenName weekdayNames false date.weekday ++ ',' :: ' ' :: (padded 2 '0' date.day ++
    ' ' :: (writtenName monthNames false (date.month - 1) ++
      ' ' :: (writtenYear .zeros date.year ++ ' ' :: (padded 2 '0' hour ++
        ':' :: (padded 2 '0' minute ++ ':' :: (padded 2 '0' second ++
          ' ' :: writtenOffset false offset))))))

theorem toList_writeCanonical (time : Timestamp) :
    (writeCanonical time).toList =
      shownText time.date time.hour time.minute time.second time.offset := by
  rw [writeCanonical, writeWith, String.toList_ofList, canonicalItems]
  simp only [List.flatMap_cons, List.flatMap_nil, List.append_nil, writtenItem, writtenNumber,
    shownText, List.cons_append, List.nil_append]
  rfl

/-- The parts collected with some items, from a text with nothing behind it. -/
def Collects (items : List PatternItem) (parts : Parts) (text : List Char) (all : Parts) : Prop :=
  items.foldlM (fun (parts, rest) item => readItem? parts rest item) (parts, text) =
    some (all, [])

theorem collects_cons {parts next all : Parts} {text rest : List Char} {item : PatternItem}
    {items : List PatternItem} (read : readItem? parts text item = some (next, rest))
    (later : Collects items next rest all) : Collects (item :: items) parts text all := by
  show (readItem? parts text item >>= fun state =>
    items.foldlM (fun (parts, rest) item => readItem? parts rest item) state) = _
  rw [read]
  exact later

theorem readParts?_of_collects {items : List PatternItem} {text : List Char} {all : Parts}
    (collects : Collects items Parts.empty text all) : readParts? items text = some all := by
  unfold Collects at collects
  rw [readParts?, collects]
  rfl

theorem weekday_lt (date : Date) : date.weekday < 7 := by
  unfold Date.weekday
  omega

theorem daysInMonth_le (year : Int) (month : Nat) : daysInMonth year month ≤ 31 := by
  have each : ∀ length ∈ monthLengths year, length ≤ 31 := by
    unfold monthLengths
    cases isLeapYear year <;> decide
  rw [daysInMonth, List.getD_eq_getElem?_getD]
  cases found : (monthLengths year)[month - 1]? with
  | none => decide
  | some length => exact each length (List.mem_of_getElem? found)

/-- Item by item, the parts that a clock shows are collected again. -/
theorem readParts?_shownText {date : Date} (valid : date.isValid = true) {hour minute second : Nat}
    (hours : hour < 24) (minutes : minute < 60) (seconds : second ≤ 60) {offset : Int}
    (wholeMinutes : offset % 60 = 0) (short : offset.natAbs < secondsPerDay) :
    readParts? (itemsOf canonicalPattern) (shownText date hour minute second offset) =
      some (shownParts date hour minute second offset) := by
  simp only [Date.isValid, Bool.and_eq_true, decide_eq_true_eq] at valid
  obtain ⟨⟨⟨⟨⟨early, late⟩, one⟩, twelve⟩, some⟩, few⟩ := valid
  -- Nothing stands behind the offset.
  rw [shownText, ← List.append_nil (writtenOffset false offset)]
  refine readParts?_of_collects ?_
  rw [canonicalItems]
  refine collects_cons (readItem?_weekday false (.inl rfl) (weekday_lt date) _) ?_
  refine collects_cons (readItem?_mark _ _ _) ?_
  refine collects_cons (readItem?_blank (trimStart_padded _ _ _)) ?_
  refine collects_cons (readItem?_day (.inl rfl) some (Nat.le_trans few (daysInMonth_le _ _)) _) ?_
  refine collects_cons (readItem?_blank (trimStart_month (by omega) _)) ?_
  refine collects_cons (readItem?_month false (.inl rfl) one twelve _) ?_
  refine collects_cons (readItem?_blank (trimStart_writtenYear _ _)) ?_
  refine collects_cons (readItem?_year (.inl rfl) early late _) ?_
  refine collects_cons (readItem?_blank (trimStart_padded _ _ _)) ?_
  refine collects_cons (readItem?_hour (.inl rfl) (.inl rfl) hours _) ?_
  refine collects_cons (readItem?_mark _ _ _) ?_
  refine collects_cons (readItem?_minute (.inl rfl) minutes _) ?_
  refine collects_cons (readItem?_mark _ _ _) ?_
  refine collects_cons (readItem?_second (.inl rfl) seconds _) ?_
  refine collects_cons (readItem?_blank (trimStart_writtenOffset _ _)) ?_
  exact collects_cons (readItem?_offset (.inl rfl) wholeMinutes short _) rfl

/-! ### Points in time -/

/-- A point in time on a day of the calendar; even a leap second is over after two. -/
structure Instant.IsKept (instant : Instant) : Prop where
  nanos : instant.nanos < 2 * nanosPerSecond
  inRange : instant.inRange = true

/-- A point in time on a day of the calendar, in UTC as well as on the clock at its offset, which
is one of whole minutes and less than a day. -/
structure Timestamp.IsKept (time : Timestamp) : Prop where
  instant : time.instant.IsKept
  wholeMinutes : time.offset % 60 = 0
  short : time.offset.natAbs < secondsPerDay
  localFirst : firstDay ≤ time.localSeconds / secondsPerDay
  localLast : time.localSeconds / secondsPerDay ≤ lastDay

/-- The beginning of the second that a clock shows. A leap second is kept where it makes the clock
show 60, at the end of a minute; elsewhere the clock shows the second behind it. -/
def Instant.wholeSecond (instant : Instant) : Instant :=
  if instant.nanos < nanosPerSecond then ⟨instant.seconds, 0⟩
  else if instant.seconds % 60 = 59 then ⟨instant.seconds, nanosPerSecond⟩
  else ⟨instant.seconds + 1, 0⟩

/-- Unless there is a leap second within a minute, only the part of the second is dropped. -/
theorem Instant.wholeSecond_of_usual {instant : Instant} (kept : instant.IsKept)
    (usual : nanosPerSecond ≤ instant.nanos → instant.seconds % 60 = 59) :
    instant.wholeSecond =
      { instant with nanos := instant.nanos - instant.nanos % nanosPerSecond } := by
  have bound : instant.nanos < 2000000000 := kept.nanos
  unfold wholeSecond
  unfold nanosPerSecond at usual ⊢
  by_cases whole : instant.nanos < 1000000000
  · rw [if_pos whole]
    simp only [Instant.mk.injEq, true_and]
    omega
  · rw [if_neg whole, if_pos (usual (Nat.not_lt.mp whole))]
    simp only [Instant.mk.injEq, true_and]
    omega

theorem date?_shownParts {date : Date} (valid : date.isValid = true) (hour minute second : Nat)
    (offset : Int) : (shownParts date hour minute second offset).date? = some date := by
  show (Date.of? date.year date.month date.day >>= fun read =>
    if Parts.fits (some date.weekday) read.weekday && Parts.fits none read.ordinal then some read
    else none) = _
  rw [Date.of?_of_isValid valid]
  show (if decide (date.weekday = date.weekday) && true then some date else none) = _
  simp

theorem time?_shownParts (date : Date) (hour minute second : Nat) (offset : Int) :
    (shownParts date hour minute second offset).time? =
      if second = 60 then some (hour * 3600 + minute * 60 + 59, nanosPerSecond)
      else some (hour * 3600 + minute * 60 + second, 0) := by
  show (if second == 60 then
      some ((hour / 12 * 12 + hour % 12) * 3600 + minute * 60 + 59, nanosPerSecond + 0)
    else some ((hour / 12 * 12 + hour % 12) * 3600 + minute * 60 + second, 0)) = _
  have whole : hour / 12 * 12 + hour % 12 = hour := by omega
  simp only [whole, beq_iff_eq, Nat.add_zero]

namespace Timestamp

variable {time : Timestamp}

theorem dayNumber_date (time : Timestamp) :
    time.date.dayNumber = time.localSeconds / secondsPerDay :=
  Date.dayNumber_ofDayNumber _

theorem IsKept.isValid_date (kept : time.IsKept) : time.date.isValid = true :=
  Date.isValid_ofDayNumber kept.localFirst kept.localLast

/-- What the clock shows is the beginning of the second. -/
theorem IsKept.instantAt_shown (kept : time.IsKept) :
    ∃ shown, (shownParts time.date time.hour time.minute time.second time.offset).time? =
        some shown ∧
      Parts.instantAt time.date shown time.offset = time.instant.wholeSecond := by
  have bound : time.instant.nanos < 2000000000 := kept.instant.nanos
  have wholeMinutes := kept.wholeMinutes
  have parts : time.hour * 3600 + time.minute * 60 + time.timeOfDay % 60 = time.timeOfDay := by
    unfold hour minute
    omega
  have clock : time.localSeconds / 86400 * 86400 + time.timeOfDay =
      time.instant.seconds + time.offset := by
    unfold timeOfDay localSeconds secondsPerDay
    omega
  have minuteEnds : ((time.timeOfDay % 60 : Nat) : Int) = time.instant.seconds % 60 := by
    unfold timeOfDay localSeconds secondsPerDay
    omega
  have place : ∀ shown : Nat × Nat, Parts.instantAt time.date shown time.offset =
      ⟨time.localSeconds / 86400 * 86400 + shown.1 - time.offset, shown.2⟩ := by
    intro shown
    rw [Parts.instantAt, dayNumber_date]
    rfl
  rw [time?_shownParts]
  unfold second Instant.wholeSecond nanosPerSecond
  by_cases whole : time.instant.nanos < 1000000000
  · rw [if_neg (by omega), if_pos whole]
    refine ⟨_, rfl, ?_⟩
    rw [place, Instant.mk.injEq]
    omega
  · rw [if_neg whole]
    by_cases ends : time.instant.seconds % 60 = 59
    · rw [if_pos (by omega), if_pos ends]
      refine ⟨_, rfl, ?_⟩
      rw [place, Instant.mk.injEq]
      omega
    · rw [if_neg (by omega), if_neg ends]
      refine ⟨_, rfl, ?_⟩
      rw [place, Instant.mk.injEq]
      omega

/-- A whole second is on the same day. -/
theorem inRange_wholeSecond {instant : Instant} (inRange : instant.inRange = true) :
    instant.wholeSecond.inRange = true := by
  have sameDay : instant.wholeSecond.dayNumber = instant.dayNumber := by
    unfold Instant.wholeSecond
    split
    · rfl
    · split
      · rfl
      · unfold Instant.dayNumber secondsPerDay
        show (instant.seconds + 1) / 86400 = instant.seconds / 86400
        omega
  rwa [Instant.inRange, sameDay]

/-- The canonical form of a point in time reads as that point in time, to the second, with the
same offset. -/
theorem IsKept.readCanonical?_writeCanonical (kept : time.IsKept) :
    readCanonical? (writeCanonical time) = some ⟨time.instant.wholeSecond, time.offset⟩ := by
  have short : time.offset.natAbs < 86400 := kept.short
  have hours : time.hour < 24 := by
    unfold hour timeOfDay secondsPerDay
    omega
  have minutes : time.minute < 60 := Nat.mod_lt _ (by decide)
  have seconds : time.second ≤ 60 := by
    have bound : time.instant.nanos < 2000000000 := kept.instant.nanos
    unfold second nanosPerSecond
    omega
  obtain ⟨shown, read, there⟩ := kept.instantAt_shown
  have within : (decide (-(secondsPerDay : Int) < time.offset) &&
      decide (time.offset < secondsPerDay)) = true := by
    have low : -86400 < time.offset := by omega
    have high : time.offset < 86400 := by omega
    exact (Bool.and_eq_true _ _).mpr ⟨decide_eq_true low, decide_eq_true high⟩
  have checked : time.instant.wholeSecond.checked = some time.instant.wholeSecond :=
    if_pos (inRange_wholeSecond kept.instant.inRange)
  rw [readCanonical?, readTimestamp?, toList_writeCanonical,
    readParts?_shownText kept.isValid_date hours minutes seconds kept.wholeMinutes kept.short]
  show ((shownParts time.date time.hour time.minute time.second time.offset).date? >>= fun date =>
    (shownParts time.date time.hour time.minute time.second time.offset).time? >>= fun shown =>
      if decide (-(secondsPerDay : Int) < time.offset) && decide (time.offset < secondsPerDay) then
        (Parts.instantAt date shown time.offset).checked >>= fun instant =>
          some (⟨instant, time.offset⟩ : Timestamp)
      else none) = _
  rw [date?_shownParts kept.isValid_date, read, Option.bind_eq_bind, Option.bind_some,
    Option.bind_eq_bind, Option.bind_some, if_pos within, there, checked]
  rfl

end Timestamp

end Metasearch.Calendar
