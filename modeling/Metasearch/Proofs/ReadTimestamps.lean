/-
This file settles that every point in time that a text gives with a pattern is on a day of the
calendar, in UTC and on the clock that the text was written by, with an offset of whole minutes
and less than a day. Each part is within its range when it is taken in, and stays so; a time of
day made of such parts is less than a day, and a date is checked when it is made.

The canonical form has no fraction of a second, so nothing of a point in time that it gives is lost
when it is written again.
-/
import Metasearch.Proofs.ToldParts

namespace Metasearch.Calendar

/-! ### Patterns -/

/-- A fraction has no more digits than a second has nanoseconds. -/
def PatternItem.IsFine : PatternItem → Prop
  | .fraction (some digits) => digits ≤ 9
  | _ => True

theorem isFine_itemOfLetter (letter : Char) : (itemOfLetter letter).IsFine := by
  unfold itemOfLetter
  split
  case h_10 => split <;> trivial
  all_goals trivial

theorem isFine_itemBehindPercent (text : List Char) : (itemBehindPercent text).1.IsFine := by
  unfold itemBehindPercent
  split
  case h_1 => split <;> trivial
  case h_8 => exact isFine_itemOfLetter _
  all_goals first | trivial | exact Nat.le_of_ble_eq_true rfl

theorem isFine_consChar {items : List PatternItem} (fine : ∀ item ∈ items, item.IsFine) (c : Char) :
    ∀ item ∈ consChar c items, item.IsFine := by
  unfold consChar
  split
  · split
    · exact List.forall_mem_cons.mpr ⟨trivial, (List.forall_mem_cons.mp fine).2⟩
    · exact List.forall_mem_cons.mpr ⟨trivial, fine⟩
  · split
    · exact List.forall_mem_cons.mpr ⟨trivial, (List.forall_mem_cons.mp fine).2⟩
    · exact List.forall_mem_cons.mpr ⟨trivial, fine⟩

theorem isFine_patternItems (skip : Nat) (text : List Char) :
    ∀ item ∈ patternItems skip text, item.IsFine := by
  induction text generalizing skip with
  | nil =>
    rw [patternItems]
    exact fun item member => absurd member List.not_mem_nil
  | cons c rest inductionHypothesis =>
    cases skip with
    | succ skip => exact inductionHypothesis skip
    | zero =>
      rw [patternItems]
      split
      · exact List.forall_mem_cons.mpr ⟨isFine_itemBehindPercent rest, inductionHypothesis _⟩
      · exact isFine_consChar (inductionHypothesis 0) c

/-! ### Parts within their ranges -/

namespace Parts

/-- Each part that was read of a time of day and of an offset is within its range. -/
structure InRanges (parts : Parts) : Prop where
  half : ∀ half ∈ parts.half, half ≤ 1
  hourOfHalf : ∀ hour ∈ parts.hourOfHalf, hour ≤ 11
  minute : ∀ minute ∈ parts.minute, minute ≤ 59
  second : ∀ second ∈ parts.second, second ≤ 60
  nanos : ∀ nanos ∈ parts.nanos, nanos < nanosPerSecond
  offset : ∀ offset ∈ parts.offset, offset % 60 = 0

theorem inRanges_empty : Parts.empty.InRanges := by
  constructor <;> rintro _ ⟨⟩

variable {parts next : Parts}

/-! ### What is read for a part -/

theorem readHalf?_le {text rest : List Char} {half : Nat}
    (read : readHalf? text = some (half, rest)) : half ≤ 1 := by
  unfold readHalf? at read
  split at read
  · cases read
    decide
  · obtain ⟨_, _, done⟩ := Option.map_eq_some_iff.mp read
    cases done
    decide

/-- So many digits make less than that power of ten. -/
theorem digitsValue_lt {digits : List Char} (each : ∀ c ∈ digits, c.isDigit = true) :
    digitsValue digits < 10 ^ digits.length := by
  induction digits using List.reverseRecOn with
  | nil => decide
  | append_singleton digits c inductionHypothesis =>
    obtain ⟨before, last⟩ := List.forall_mem_append.mp each
    have shorter := inductionHypothesis before
    have digit : Number.digitValue c ≤ 9 := by
      have isDigit := last c List.mem_cons_self
      simp only [Char.isDigit, Bool.and_eq_true, decide_eq_true_eq] at isDigit
      have high : c.toNat ≤ 57 := isDigit.2
      show c.toNat - 48 ≤ 9
      omega
    rw [digitsValue_append, List.length_append, List.length_singleton, Nat.pow_succ]
    omega

/-- Digits of a fraction, filled up to nine, are nanoseconds of one second. -/
theorem fraction_lt {digits : List Char} (each : ∀ c ∈ digits, c.isDigit = true)
    (few : digits.length ≤ 9) :
    digitsValue digits * Number.tenTo (9 - digits.length) < nanosPerSecond := by
  calc digitsValue digits * Number.tenTo (9 - digits.length)
      < 10 ^ digits.length * 10 ^ (9 - digits.length) :=
        Nat.mul_lt_mul_of_pos_right (digitsValue_lt each) (Nat.pow_pos (by decide))
    _ = 10 ^ 9 := by rw [← Nat.pow_add, Nat.add_sub_cancel' few]

theorem isDigit_of_mem_take {text : List Char} {count : Nat} :
    ∀ c ∈ (text.takeWhile Char.isDigit).take count, c.isDigit = true :=
  fun _ member => List.mem_takeWhile_imp (List.mem_of_mem_take member)

theorem readFraction?_lt {digits : Option Nat} (fine : ∀ count ∈ digits, count ≤ 9)
    {text rest : List Char} {nanos : Nat} (read : readFraction? digits text = some (nanos, rest)) :
    nanos < nanosPerSecond := by
  unfold readFraction? at read
  cases digits with
  | some count =>
    simp only at read
    split at read
    · next long =>
      cases read
      have length := List.length_take_of_le long
      have bound := fraction_lt (@isDigit_of_mem_take text count)
        (by rw [length]; exact fine count rfl)
      rwa [length] at bound
    · cases read
  | none =>
    simp only at read
    split at read
    · cases read
    · cases read
      exact fraction_lt isDigit_of_mem_take (List.length_take_le _ _)

theorem readOffset?_wholeMinutes {loose : Bool} {text rest : List Char} {offset : Int}
    (read : readOffset? loose text = some (offset, rest)) : offset % 60 = 0 := by
  -- Behind every sign the text is read in the same way.
  have behindSign : ∀ (sign : Int) (behind : List Char), (if sign = 0 then some (0, behind)
      else do
        let hours ← readTwoDigits? behind
        let behind := hours.2.dropWhile fun c => c == ':' || Text.isBlank c
        if loose && behind.isEmpty then return (sign * (hours.1 * 3600), [])
        else
          let minutes ← readTwoDigits? behind
          if minutes.1 ≤ 59 then return (sign * (hours.1 * 3600 + minutes.1 * 60), minutes.2)
          else none) = some (offset, rest) → offset % 60 = 0 := by
    intro sign behind read
    split at read
    · cases read
      rfl
    · obtain ⟨⟨hours, behind⟩, -, read⟩ := some_of_bind read
      simp only at read
      split at read
      · cases read
        exact Int.emod_eq_zero_of_dvd (Int.dvd_trans ⟨hours * 60, by omega⟩ (Int.dvd_mul_left sign _))
      · obtain ⟨⟨minutes, behind⟩, -, read⟩ := some_of_bind read
        simp only at read
        split at read
        · cases read
          exact Int.emod_eq_zero_of_dvd
            (Int.dvd_trans ⟨hours * 60 + minutes, by omega⟩ (Int.dvd_mul_left sign _))
        · cases read
  unfold readOffset? at read
  split at read
  · next behind => exact behindSign 1 behind read
  · next behind =>
    generalize (-1 : Int) = sign at read
    exact behindSign sign behind read
  · next behind =>
    generalize (-1 : Int) = sign at read
    exact behindSign sign behind read
  · split at read
    · exact behindSign 0 _ read
    · cases read
  · cases read

/-! ### Items one after the other -/

theorem forall_mem_some {Part : Type} {holds : Part → Prop} {part : Part} (there : holds part) :
    ∀ member ∈ some part, holds member := by
  rintro _ ⟨⟩
  exact there

/-- What an item tells is within its range. -/
theorem inRanges_of_tells {text rest : List Char} {item : PatternItem} (fine : item.IsFine)
    {told : Parts} (tells : Tells text rest item told) : told.InRanges := by
  have nothing := inRanges_empty
  cases tells with
  | literal | blanks | zoneName | noFraction => exact nothing
  | year | monthName | weekdayName => exact { nothing with }
  | half read => exact { nothing with half := forall_mem_some (readHalf?_le read) }
  | offset read | looseOffset read =>
    exact { nothing with offset := forall_mem_some (readOffset?_wholeMinutes read) }
  | fraction point read =>
    have few := readFraction?_lt (by rintro count ⟨⟩; exact fine) read
    exact { nothing with nanos := forall_mem_some few }
  | @number part _ value _ _ allowed =>
    cases part with
    | year | yearOfCentury | month | day | ordinal => exact { nothing with }
    | hour =>
      have few : value ≤ 23 := allowed
      exact { nothing with
        half := forall_mem_some (by omega)
        hourOfHalf := forall_mem_some (by omega) }
    | hourOfHalf =>
      exact { nothing with hourOfHalf := forall_mem_some (by omega) }
    | minute => exact { nothing with minute := forall_mem_some allowed }
    | second => exact { nothing with second := forall_mem_some allowed }

theorem InRanges.over {told : Parts} (toldSound : told.InRanges) (sound : parts.InRanges) :
    (told.over parts).InRanges := by
  have both : ∀ {Part : Type} {holds : Part → Prop} {first second : Option Part},
      (∀ part ∈ first, holds part) → (∀ part ∈ second, holds part) →
        ∀ part ∈ first.or second, holds part := by
    intro Part holds first second here there
    cases first with
    | none => exact there
    | some part => exact here
  exact ⟨both toldSound.half sound.half, both toldSound.hourOfHalf sound.hourOfHalf,
    both toldSound.minute sound.minute, both toldSound.second sound.second,
    both toldSound.nanos sound.nanos, both toldSound.offset sound.offset⟩

theorem InRanges.readItem? (sound : parts.InRanges) {item : PatternItem} (fine : item.IsFine)
    {text rest : List Char} (read : readItem? parts text item = some (next, rest)) :
    next.InRanges := by
  obtain ⟨told, tells, grows⟩ := exists_tells read
  rw [grows.all]
  exact (inRanges_of_tells fine tells).over sound

/-- What every item keeps holds of the parts that are collected with all of them. -/
theorem readParts?_keeps (holds : Parts → Prop) {items : List PatternItem}
    (each : ∀ item ∈ items, ∀ {before after : Parts} {text rest : List Char},
      holds before → Calendar.readItem? before text item = some (after, rest) → holds after)
    (start : holds empty) {text : List Char} (read : readParts? items text = some parts) :
    holds parts := by
  have keeps : ∀ {before : Parts} {text : List Char} {after : Parts × List Char}, holds before →
      items.foldlM (fun taken item => Calendar.readItem? taken.1 taken.2 item) (before, text) =
        some after → holds after.1 := by
    clear read
    induction items with
    | nil =>
      intro before text after sound done
      cases done
      exact sound
    | cons item rest inductionHypothesis =>
      intro before text after sound done
      obtain ⟨here, later⟩ := List.forall_mem_cons.mp each
      rw [List.foldlM_cons] at done
      obtain ⟨⟨between, behind⟩, first, done⟩ := some_of_bind done
      exact inductionHypothesis later (here sound first) done
  obtain ⟨⟨collected, rest⟩, collects, read⟩ := some_of_bind read
  have sound := keeps start collects
  simp only at read
  split at read
  · cases read
    exact sound
  · cases read

theorem inRanges_readParts? {pattern : String} {text : List Char}
    (read : readParts? (itemsOf pattern) text = some parts) : parts.InRanges :=
  readParts?_keeps InRanges (fun item member _ _ _ _ sound taken =>
    sound.readItem? (isFine_patternItems 0 pattern.toList item member) taken) inRanges_empty read

/-! ### Dates and times put together -/

theorem isValid_date? {date : Date} (found : parts.date? = some date) : date.isValid = true := by
  unfold date? at found
  obtain ⟨year, -, found⟩ := some_of_bind found
  split at found
  · obtain ⟨made, exists?, found⟩ := some_of_bind found
    split at found
    · cases found
      exact (Date.of?_eq_some exists?).2
    · cases found
  · obtain ⟨made, exists?, found⟩ := some_of_bind found
    split at found
    · cases found
      exact Date.isValid_ofOrdinal? exists?
    · cases found
  · cases found

/-- A time of day made of parts within their ranges is one. -/
theorem InRanges.time? (sound : parts.InRanges) {time : Nat × Nat}
    (found : parts.time? = some time) : time.1 < secondsPerDay ∧ time.2 < 2 * nanosPerSecond := by
  obtain ⟨half, isHalf, found⟩ := some_of_bind found
  obtain ⟨hour, isHour, found⟩ := some_of_bind found
  obtain ⟨minute, isMinute, found⟩ := some_of_bind found
  have halves := sound.half half isHalf
  have hours := sound.hourOfHalf hour isHour
  have minutes := sound.minute minute isMinute
  unfold secondsPerDay nanosPerSecond
  -- Seconds are at most 60, and 60 of them are kept as the last of the minute.
  cases isSecond : parts.second with
  | none =>
    rw [isSecond] at found
    cases isNanos : parts.nanos with
    | some nanos =>
      rw [isNanos] at found
      cases found
    | none =>
      rw [isNanos] at found
      cases found
      show (half * 12 + hour) * 3600 + minute * 60 + 0 < 86400 ∧ 0 < 2 * 1000000000
      omega
  | some second =>
    have seconds := sound.second second isSecond
    have fraction : parts.nanos.getD 0 < 1000000000 := by
      cases isNanos : parts.nanos with
      | none => decide
      | some nanos => exact sound.nanos nanos isNanos
    rw [isSecond] at found
    change (if second == 60 then
        some ((half * 12 + hour) * 3600 + minute * 60 + 59, nanosPerSecond + parts.nanos.getD 0)
      else some ((half * 12 + hour) * 3600 + minute * 60 + second, parts.nanos.getD 0)) =
        some time at found
    split at found
    · cases found
      show _ + 59 < 86400 ∧ 1000000000 + parts.nanos.getD 0 < 2 * 1000000000
      omega
    · next usual =>
      have fewer : second ≠ 60 := by simpa using usual
      cases found
      show _ + second < 86400 ∧ parts.nanos.getD 0 < 2 * 1000000000
      omega

/-- A time of day on a day of the calendar is kept, if its instant is in range. -/
theorem isKept_instantAt {date : Date} (valid : date.isValid = true) {shown : Nat × Nat}
    (inDay : shown.1 < secondsPerDay) (nanos : shown.2 < 2 * nanosPerSecond) {offset : Int}
    (wholeMinutes : offset % 60 = 0) (short : offset.natAbs < secondsPerDay)
    (inRange : (instantAt date shown offset).inRange = true) :
    (⟨instantAt date shown offset, offset⟩ : Timestamp).IsKept := by
  have inDay : shown.1 < 86400 := inDay
  have day : (⟨instantAt date shown offset, offset⟩ : Timestamp).localSeconds / secondsPerDay =
      date.dayNumber := by
    show (date.dayNumber * 86400 + shown.1 - offset + offset) / 86400 = date.dayNumber
    omega
  obtain ⟨first, last⟩ := Date.dayNumber_inRange valid
  exact ⟨⟨nanos, inRange⟩, wholeMinutes, short, by rwa [day], by rwa [day]⟩

/-- What a point in time is put together from. -/
theorem timestamp?_eq_some {time : Timestamp} (found : parts.timestamp? = some time) :
    ∃ offset date shown, parts.offset = some offset ∧ parts.date? = some date ∧
      parts.time? = some shown ∧ time = ⟨instantAt date shown offset, offset⟩ ∧
      offset.natAbs < secondsPerDay ∧ (instantAt date shown offset).inRange = true := by
  obtain ⟨offset, isOffset, found⟩ := some_of_bind found
  obtain ⟨date, isDate, found⟩ := some_of_bind found
  obtain ⟨shown, isTime, found⟩ := some_of_bind found
  split at found
  · next short =>
    simp only [Bool.and_eq_true, decide_eq_true_eq] at short
    obtain ⟨instant, isChecked, found⟩ := some_of_bind found
    cases found
    unfold Instant.checked at isChecked
    split at isChecked
    · next inRange =>
      cases isChecked
      exact ⟨offset, date, shown, isOffset, isDate, isTime, rfl, by omega, inRange⟩
    · cases isChecked
  · cases found

theorem InRanges.isKept_timestamp? (sound : parts.InRanges) {time : Timestamp}
    (found : parts.timestamp? = some time) : time.IsKept := by
  obtain ⟨offset, date, shown, isOffset, isDate, isTime, rfl, short, inRange⟩ :=
    timestamp?_eq_some found
  obtain ⟨inDay, nanos⟩ := sound.time? isTime
  exact isKept_instantAt (isValid_date? isDate) inDay nanos (sound.offset offset isOffset) short
    inRange

end Parts

/-- A point in time read from a text is kept: without an offset it is on the clock of UTC. -/
theorem isKept_readLoosely? {pattern text : String} {time : Timestamp}
    (read : readLoosely? (itemsOf pattern) text = some time) : time.IsKept := by
  obtain ⟨parts, isRead, read⟩ := Parts.some_of_bind read
  have sound := Parts.inRanges_readParts? isRead
  split at read
  · next found =>
    cases read
    exact sound.isKept_timestamp? found
  · obtain ⟨date, isDate, read⟩ := Parts.some_of_bind read
    cases read
    have valid := Parts.isValid_date? isDate
    have bounds : (parts.time?.getD (0, 0)).1 < secondsPerDay ∧
        (parts.time?.getD (0, 0)).2 < 2 * nanosPerSecond := by
      cases isTime : parts.time? with
      | none => decide
      | some shown => exact sound.time? isTime
    refine Parts.isKept_instantAt valid bounds.1 bounds.2 rfl (by decide) ?_
    have inDay : (parts.time?.getD (0, 0)).1 < 86400 := bounds.1
    have day : (Parts.instantAt date (parts.time?.getD (0, 0)) 0).dayNumber = date.dayNumber := by
      show (date.dayNumber * 86400 + ((parts.time?.getD (0, 0)).1 : Int) - 0) / 86400 =
        date.dayNumber
      omega
    obtain ⟨first, last⟩ := Date.dayNumber_inRange valid
    rw [Instant.inRange, day, Bool.and_eq_true]
    exact ⟨decide_eq_true first, decide_eq_true last⟩

/-! ### Points in time without a fraction -/

namespace Parts

variable {parts next : Parts}

/-- Only a fraction among the items of a pattern gives a part of the second. -/
theorem nanos_readItem? {item : PatternItem} (noFraction : ∀ digits, item ≠ .fraction digits)
    {text rest : List Char} (read : readItem? parts text item = some (next, rest)) :
    next.nanos = parts.nanos := by
  obtain ⟨told, tells, grows⟩ := exists_tells read
  have silent : told.nanos = none := by
    cases tells with
    | fraction => exact absurd rfl (noFraction _)
    | @number part _ _ _ _ _ => cases part <;> rfl
    | _ => rfl
  rw [grows.all]
  show told.nanos.or parts.nanos = parts.nanos
  rw [silent, Option.none_or]

/-- Without a fraction a time of day is a whole second, or the leap second at the end of a
minute. -/
theorem time?_of_noFraction (noFraction : parts.nanos = none) {shown : Nat × Nat}
    (found : parts.time? = some shown) :
    shown.2 = 0 ∨ shown.2 = nanosPerSecond ∧ shown.1 % 60 = 59 := by
  obtain ⟨half, -, found⟩ := some_of_bind found
  obtain ⟨hour, -, found⟩ := some_of_bind found
  obtain ⟨minute, -, found⟩ := some_of_bind found
  rw [noFraction] at found
  cases isSecond : parts.second with
  | none =>
    rw [isSecond] at found
    cases found
    exact .inl rfl
  | some second =>
    rw [isSecond] at found
    change (if second == 60 then
        some ((half * 12 + hour) * 3600 + minute * 60 + 59, nanosPerSecond + 0)
      else some ((half * 12 + hour) * 3600 + minute * 60 + second, 0)) = some shown at found
    split at found
    · cases found
      refine .inr ⟨rfl, ?_⟩
      show ((half * 12 + hour) * 3600 + minute * 60 + 59) % 60 = 59
      omega
    · cases found
      exact .inl rfl

end Parts

/-- The canonical form has no fraction, so what is read with it is a whole second. -/
theorem wholeSecond_of_readCanonical? {text : String} {time : Timestamp}
    (read : readCanonical? text = some time) : time.instant.wholeSecond = time.instant := by
  obtain ⟨parts, isRead, found⟩ := Parts.some_of_bind read
  have noFraction : parts.nanos = none := by
    refine Parts.readParts?_keeps (·.nanos = none)
      (fun item member before after text rest fresh taken => ?_) rfl isRead
    rw [Parts.nanos_readItem? ?_ taken, fresh]
    rintro digits rfl
    rw [canonicalItems] at member
    simp at member
  obtain ⟨offset, date, shown, isOffset, -, isTime, rfl, -, -⟩ := Parts.timestamp?_eq_some found
  have wholeMinutes := (Parts.inRanges_readParts? isRead).offset offset isOffset
  rcases Parts.time?_of_noFraction noFraction isTime with whole | ⟨leap, minuteEnds⟩
  · show (⟨_, shown.2⟩ : Instant).wholeSecond = ⟨_, shown.2⟩
    rw [whole]
    rfl
  · have ends : (date.dayNumber * secondsPerDay + shown.1 - offset) % 60 = 59 := by
      unfold secondsPerDay
      omega
    show (⟨date.dayNumber * secondsPerDay + shown.1 - offset, shown.2⟩ : Instant).wholeSecond =
      ⟨_, shown.2⟩
    rw [leap, Instant.wholeSecond, if_neg (Nat.lt_irrefl _), if_pos ends]

/-- A point in time in the canonical form is written in a form that is read as the same. -/
theorem readCanonical?_rewritten {text : String} {time : Timestamp}
    (read : readCanonical? text = some time) :
    readCanonical? (writeCanonical time) = some time := by
  obtain ⟨parts, isRead, found⟩ := Parts.some_of_bind read
  have kept := (Parts.inRanges_readParts? isRead).isKept_timestamp? found
  rw [kept.readCanonical?_writeCanonical, wholeSecond_of_readCanonical? read]

end Metasearch.Calendar
