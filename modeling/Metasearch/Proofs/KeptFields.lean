/-
This file settles when the hour and the offset that a value writes are those of the point in time
that is read from it. They are if the layout and the value make a whole time of day: the layout
shows the hour and the minute, and the second too if the value writes a fraction of it. The offset
has to be less than a day too, and to lead to a day that dates are kept for. Otherwise they are
dropped without a word: without a whole time of day the hour and the offset both, as if the value
had written midnight in UTC.
-/
import Metasearch.Proofs.LayoutRoundTrips
import Metasearch.Proofs.ReadTimestamps

namespace Metasearch

/-! ### Points in time put together -/

namespace Calendar

/-- The clock may have an offset: it is less than a day, and the instant is in range. -/
def Timestamp.MayHave (time : Timestamp) (offset : Int) : Prop :=
  offset.natAbs < secondsPerDay ∧
    (⟨time.localSeconds - offset, time.instant.nanos⟩ : Instant).inRange = true

namespace Parts

variable {parts : Parts}

/-- A whole time of day has an hour and a minute, and a second if it has a fraction. -/
structure ShowTime (parts : Parts) : Prop where
  half : parts.half ≠ none
  hourOfHalf : parts.hourOfHalf ≠ none
  minute : parts.minute ≠ none
  second : parts.nanos ≠ none → parts.second ≠ none

theorem time?_isSome_iff : parts.time?.isSome = true ↔ parts.ShowTime := by
  unfold time?
  constructor
  · intro isSome
    obtain ⟨shown, found⟩ := Option.isSome_iff_exists.mp isSome
    obtain ⟨half, isHalf, found⟩ := some_of_bind found
    obtain ⟨hour, isHour, found⟩ := some_of_bind found
    obtain ⟨minute, isMinute, found⟩ := some_of_bind found
    refine ⟨by simp [isHalf], by simp [isHour], by simp [isMinute], fun fraction none => ?_⟩
    obtain ⟨nanos, isNanos⟩ := Option.ne_none_iff_exists'.mp fraction
    rw [none, isNanos] at found
    cases found
  · rintro ⟨half, hour, minute, second⟩
    obtain ⟨half, isHalf⟩ := Option.ne_none_iff_exists'.mp half
    obtain ⟨hour, isHour⟩ := Option.ne_none_iff_exists'.mp hour
    obtain ⟨minute, isMinute⟩ := Option.ne_none_iff_exists'.mp minute
    rw [isHalf, isHour, isMinute]
    cases isSecond : parts.second with
    | none =>
      have noNanos : parts.nanos = none := by
        by_contra fraction
        exact second fraction isSecond
      rw [noNanos]
      rfl
    | some seconds =>
      simp only [Option.bind_eq_bind, Option.bind_some]
      split <;> rfl

/-- The hour of a time of day is the one that was read. -/
theorem InRanges.time?_hour (sound : parts.InRanges) {shown : Nat × Nat}
    (found : parts.time? = some shown) {hour : Nat} (half : parts.half = some (hour / 12))
    (hourOfHalf : parts.hourOfHalf = some (hour % 12)) : shown.1 / 3600 = hour := by
  obtain ⟨_, isHalf, found⟩ := some_of_bind found
  obtain ⟨_, isHour, found⟩ := some_of_bind found
  obtain ⟨minute, isMinute, found⟩ := some_of_bind found
  cases half.symm.trans isHalf
  cases hourOfHalf.symm.trans isHour
  have minutes := sound.minute minute isMinute
  have within : ∀ seconds < 60,
      ((hour / 12 * 12 + hour % 12) * 3600 + minute * 60 + seconds) / 3600 = hour := by
    intro seconds few
    omega
  cases isSecond : parts.second with
  | none =>
    rw [isSecond] at found
    cases isNanos : parts.nanos with
    | some nanos =>
      rw [isNanos] at found
      cases found
    | none =>
      rw [isNanos] at found
      cases found
      exact within 0 (by decide)
  | some second =>
    have seconds := sound.second second isSecond
    rw [isSecond] at found
    change (if second == 60 then
        some ((hour / 12 * 12 + hour % 12) * 3600 + minute * 60 + 59,
          nanosPerSecond + parts.nanos.getD 0)
      else some ((hour / 12 * 12 + hour % 12) * 3600 + minute * 60 + second,
        parts.nanos.getD 0)) = some shown at found
    split at found
    · cases found
      exact within 59 (by decide)
    · next usual =>
      have fewer : second ≠ 60 := by simpa using usual
      cases found
      exact within second (by omega)

theorem timestamp?_of_parts {offset : Int} {date : Date} {shown : Nat × Nat}
    (isOffset : parts.offset = some offset) (isDate : parts.date? = some date)
    (isTime : parts.time? = some shown) (short : offset.natAbs < secondsPerDay)
    (inRange : (instantAt date shown offset).inRange = true) :
    parts.timestamp? = some ⟨instantAt date shown offset, offset⟩ := by
  have small : (decide (-(secondsPerDay : Int) < offset) && decide (offset < secondsPerDay)) =
      true := by
    rw [Bool.and_eq_true, decide_eq_true_eq, decide_eq_true_eq]
    omega
  simp only [timestamp?, isOffset, isDate, isTime, Option.bind_eq_bind, Option.bind_some, small,
    if_true, Instant.checked, inRange]
  rfl

end Parts

/-- The clock shows the time of day that was read, or midnight; and it has the offset that was read
if there is a time of day and the clock may have it, or else none. -/
theorem offset_of_readLoosely? {items : List PatternItem} {text : String} {parts : Parts}
    {time : Timestamp} (isRead : readParts? items text.toList = some parts)
    (read : readLoosely? items text = some time) :
    (∃ day : Int, time.localSeconds = day * secondsPerDay + (parts.time?.getD (0, 0)).1) ∧
    (parts.offset = some time.offset ∧ parts.ShowTime ∧ time.MayHave time.offset ∨
      time.offset = 0 ∧
        ∀ offset, parts.offset = some offset → parts.ShowTime → ¬ time.MayHave offset) := by
  rw [readLoosely?, isRead, Option.bind_eq_bind, Option.bind_some] at read
  split at read
  · next found =>
    cases read
    obtain ⟨offset, date, shown, isOffset, -, isTime, rfl, short, inRange⟩ :=
      Parts.timestamp?_eq_some found
    have clock : (⟨Parts.instantAt date shown offset, offset⟩ : Timestamp).localSeconds =
        date.dayNumber * secondsPerDay + shown.1 := by
      show date.dayNumber * secondsPerDay + shown.1 - offset + offset = _
      omega
    refine ⟨⟨date.dayNumber, by rw [clock, isTime]; rfl⟩, .inl ⟨isOffset, ?_, short, ?_⟩⟩
    · exact Parts.time?_isSome_iff.mp (by rw [isTime]; rfl)
    · rw [clock]
      exact inRange
  · next notFound =>
    obtain ⟨date, isDate, read⟩ := Parts.some_of_bind read
    cases read
    generalize isShown : parts.time?.getD (0, 0) = shown
    have clock : (⟨Parts.instantAt date shown 0, 0⟩ : Timestamp).localSeconds =
        date.dayNumber * secondsPerDay + shown.1 := by
      show date.dayNumber * secondsPerDay + shown.1 - 0 + 0 = _
      omega
    -- a whole time of day with an offset that the clock may have would have been found before
    refine ⟨⟨date.dayNumber, clock⟩, .inr ⟨rfl, fun offset isOffset showTime may => ?_⟩⟩
    obtain ⟨isTime, there⟩ := Option.isSome_iff_exists.mp (Parts.time?_isSome_iff.mpr showTime)
    rw [there, Option.getD_some] at isShown
    subst isShown
    obtain ⟨short, inRange⟩ := may
    rw [clock] at inRange
    have found := Parts.timestamp?_of_parts isOffset isDate there short inRange
    rw [notFound] at found
    cases found

end Calendar

namespace Layout

open Calendar

/-! ### What a value writes -/

/-- A text stands in a value at the place of a part: what the layout has in front of the part leaves
it when it is read. -/
def StandsAt (layout value part : String) (text : List Char) : Prop :=
  ∃ before after parts, piecesOf layout = before ++ .part part :: after ∧
    Calendar.readItems? (before.map Piece.item) Parts.empty value.toList = some (parts, text)

/-- A value writes an hour: the hour of the day, or an hour of one half of the day and the half. -/
inductive WritesHour (layout value : String) : Nat → Prop
  | ofDay {text rest hour} (place : StandsAt layout value "15" text)
      (read : readNumber? 2 (Text.trimStart text) = some (hour, rest)) :
      WritesHour layout value hour
  | ofHalf {part mark text rest markText markRest number half} (isHour : part ∈ ["03", "3"])
      (isMark : mark ∈ ["PM", "pm"]) (place : StandsAt layout value part text)
      (read : readNumber? 2 (Text.trimStart text) = some (number, rest))
      (markPlace : StandsAt layout value mark markText)
      (readMark : readHalf? markText = some (half, markRest)) :
      WritesHour layout value (half * 12 + number % 12)

/-- The parts that show an offset, and whether its minutes may be missing. -/
def offsetParts : List (String × Bool) :=
  [("-07:00:00", false), ("-070000", false), ("-07:00", false), ("-0700", false), ("-07", true),
   ("Z07:00", false), ("Z0700", false), ("Z07", true)]

/-- A value writes an offset. -/
def WritesOffset (layout value : String) (offset : Int) : Prop :=
  ∃ token ∈ offsetParts, ∃ text rest, StandsAt layout value token.1 text ∧
    readOffset? token.2 (Text.trimStart text) = some (offset, rest)

/-- The parts that show a fraction of a second. -/
def fractionParts : List String :=
  [".000000000", ".000000", ".000", ".999999999", ".999999", ".999"]

/-- A value writes a fraction of a second, which begins with its point. -/
def WritesFraction (layout value : String) : Prop :=
  ∃ part ∈ fractionParts, ∃ behind, StandsAt layout value part ('.' :: behind)

/-! ### What a layout shows -/

/-- One of some parts is in a layout. -/
def Uses (layout : String) (some : List String) : Prop :=
  ∃ part ∈ some, part ∈ usedParts layout

/-- A layout shows the hour: of the day, or of one half of the day and which half. -/
def HasHour (layout : String) : Prop :=
  Uses layout ["15"] ∨ Uses layout ["03", "3"] ∧ Uses layout ["PM", "pm"]

/-- A layout shows the offset. -/
def HasOffset (layout : String) : Prop :=
  Uses layout (offsetParts.map Prod.fst)

/-- The layout and the value make a whole time of day. -/
structure ShowsTime (layout value : String) : Prop where
  hour : HasHour layout
  minute : Uses layout ["04", "4"]
  second : WritesFraction layout value → Uses layout ["05", "5"]

/-! ### Parts collected with a layout -/

/-- The parts that a value gives with a layout. -/
def Collects (layout value : String) (parts : Parts) : Prop :=
  Calendar.readItems? ((piecesOf layout).map Piece.item) Parts.empty value.toList = some (parts, [])

section Collected

variable {layout value : String} {parts : Parts} (collects : Collects layout value parts)

include collects

/-- What stands at the place of a part tells what is among the parts. -/
theorem Collects.tells {part : String} {text : List Char}
    (stands : StandsAt layout value part text) :
    ∃ rest told, Tells text rest (itemOf part) told ∧ told.IsAmong parts := by
  obtain ⟨before, after, between, split, reads⟩ := stands
  have whole := collects
  rw [Collects, split, List.map_append, List.map_cons] at whole
  obtain ⟨_, here, rest, told, readsToo, tells, among⟩ := exists_tells_at whole
  rw [reads] at readsToo
  cases readsToo
  exact ⟨rest, told, tells, among⟩

/-- Something stands at the place of every part of the layout. -/
theorem Collects.exists_stands {part : String} (used : part ∈ usedParts layout) :
    ∃ text, StandsAt layout value part text := by
  obtain ⟨before, after, split⟩ := List.append_of_mem (mem_usedParts.mp used)
  have whole := collects
  rw [Collects, split, List.map_append, List.map_cons] at whole
  obtain ⟨between, here, _, _, reads, -, -⟩ := exists_tells_at whole
  exact ⟨here, before, after, between, split, reads⟩

/-- A part of the time of day or an offset that was collected was told at the place of a part of the
layout that may tell it. -/
theorem Collects.exists_part {Part : Type} {field : Parts → Option Part}
    (isField : Parts.IsField field) (found : field parts ≠ none) :
    ∃ part ∈ usedParts layout, ∃ text rest told, StandsAt layout value part text ∧
      Tells text rest (itemOf part) told ∧ field told ≠ none ∧
      field (itemOf part).mayTell ≠ none := by
  obtain ⟨before, item, after, between, here, behind, told, split, reads, tells, isTold⟩ :=
    exists_told field isField.joins collects isField.clear found
  obtain ⟨front, tail, pieces, rfl, mapsTail⟩ := List.map_eq_append_iff.mp split
  obtain ⟨piece, back, rfl, rfl, rfl⟩ := List.map_eq_cons_iff.mp mapsTail
  have may := isField.covers tells.isCovered isTold
  cases piece with
  | char c =>
    have nothing : (charItem c).mayTell = Parts.empty := by
      unfold charItem
      split <;> rfl
    rw [Piece.item, nothing] at may
    exact absurd isField.clear may
  | part part =>
    have used : part ∈ usedParts layout :=
      mem_usedParts.mpr (pieces ▸ List.mem_append_right _ List.mem_cons_self)
    exact ⟨part, used, here, behind, told, ⟨front, back, between, pieces, reads⟩, tells, isTold,
      may⟩

/-- A part of the time of day or an offset is only collected with parts that may tell it. -/
theorem Collects.uses {Part : Type} {field : Parts → Option Part}
    (isField : Parts.IsField field) {some : List String}
    (only : ∀ part ∈ Layout.parts, field (itemOf part).mayTell ≠ none → part ∈ some)
    (found : field parts ≠ none) : Uses layout some := by
  obtain ⟨part, used, -, -, -, -, -, -, may⟩ := collects.exists_part isField found
  exact ⟨part, only part (mem_parts_of_usedParts used) may, used⟩

/-- The number that stands at the place of a part is among the parts. -/
theorem Collects.number {part : String} {text : List Char}
    (stands : StandsAt layout value part text) {kind : NumberPart} {padding : Padding}
    (item : itemOf part = .number kind padding) (usual : kind ≠ .year) :
    ∃ number rest, readNumber? kind.width (Text.trimStart text) = some (number, rest) ∧
      (kind.told number).IsAmong parts := by
  obtain ⟨rest, told, tells, among⟩ := collects.tells stands
  rw [item] at tells
  cases tells with
  | year _ => exact absurd rfl usual
  | number _ read => exact ⟨_, rest, read, among⟩

/-- A number that the layout shows is among the parts. -/
theorem Collects.told_of_uses {some : List String} {kind : NumberPart} (usual : kind ≠ .year)
    (items : ∀ part ∈ some, ∃ padding ∈ [Padding.zeros, .nothing],
      itemOf part = .number kind padding) (uses : Uses layout some) :
    ∃ number, (kind.told number).IsAmong parts := by
  obtain ⟨part, listed, used⟩ := uses
  obtain ⟨padding, -, item⟩ := items part listed
  obtain ⟨text, place⟩ := collects.exists_stands used
  obtain ⟨number, -, -, among⟩ := collects.number place item usual
  exact ⟨number, among⟩

/-- The half of the day that stands at the place of a part is among the parts. -/
theorem Collects.mark {part : String} {text : List Char}
    (stands : StandsAt layout value part text) (isMark : part ∈ ["PM", "pm"]) :
    ∃ half rest, readHalf? text = some (half, rest) ∧ parts.half = some half := by
  obtain ⟨rest, told, tells, among⟩ := collects.tells stands
  obtain ⟨capital, item⟩ : ∃ capital, itemOf part = .half capital := by
    rcases List.mem_pair.mp isMark with rfl | rfl
    · exact ⟨true, rfl⟩
    · exact ⟨false, rfl⟩
  rw [item] at tells
  cases tells with
  | half read =>
    exact ⟨_, rest, read, Parts.eq_some_of_among among.half⟩

/-! ### The hour -/

theorem Collects.hourOfDay {text : List Char} (stands : StandsAt layout value "15" text) :
    ∃ hour rest, readNumber? 2 (Text.trimStart text) = some (hour, rest) ∧
      parts.half = some (hour / 12) ∧ parts.hourOfHalf = some (hour % 12) := by
  have item : itemOf "15" = .number .hour .zeros := rfl
  obtain ⟨hour, rest, read, among⟩ := collects.number stands item (by decide)
  exact ⟨hour, rest, read, Parts.eq_some_of_among among.half,
    Parts.eq_some_of_among among.hourOfHalf⟩

theorem Collects.hourOfHalf {part : String} {text : List Char}
    (stands : StandsAt layout value part text) (isHour : part ∈ ["03", "3"]) :
    ∃ number rest, readNumber? 2 (Text.trimStart text) = some (number, rest) ∧
      parts.hourOfHalf = some (number % 12) := by
  obtain ⟨padding, item⟩ : ∃ padding, itemOf part = .number .hourOfHalf padding := by
    rcases List.mem_pair.mp isHour with rfl | rfl
    · exact ⟨.zeros, rfl⟩
    · exact ⟨.nothing, rfl⟩
  obtain ⟨number, rest, read, among⟩ := collects.number stands item (by decide)
  exact ⟨number, rest, read, Parts.eq_some_of_among among.hourOfHalf⟩

/-- The hour that is written is the one that was collected. -/
theorem Collects.hour_of_writes {hour : Nat} (writes : WritesHour layout value hour) :
    parts.half = some (hour / 12) ∧ parts.hourOfHalf = some (hour % 12) := by
  cases writes with
  | ofDay place read =>
    obtain ⟨_, _, readToo, half, hourOfHalf⟩ := collects.hourOfDay place
    cases read.symm.trans readToo
    exact ⟨half, hourOfHalf⟩
  | @ofHalf _ _ _ _ _ _ number half isHour isMark place read markPlace readMark =>
    obtain ⟨_, _, readToo, isHourOfHalf⟩ := collects.hourOfHalf place isHour
    obtain ⟨_, _, readMarkToo, isHalf⟩ := collects.mark markPlace isMark
    cases read.symm.trans readToo
    cases readMark.symm.trans readMarkToo
    have few : number % 12 < 12 := Nat.mod_lt _ (by decide)
    have first : (half * 12 + number % 12) / 12 = half := by omega
    have second : (half * 12 + number % 12) % 12 = number % 12 := by omega
    rw [first, second]
    exact ⟨isHalf, isHourOfHalf⟩

theorem Collects.exists_writesHour (has : HasHour layout) :
    ∃ hour, WritesHour layout value hour := by
  rcases has with ⟨part, isPart, used⟩ | ⟨⟨part, isHour, used⟩, mark, isMark, usedMark⟩
  · cases List.mem_singleton.mp isPart
    obtain ⟨text, place⟩ := collects.exists_stands used
    obtain ⟨hour, rest, read, -⟩ := collects.hourOfDay place
    exact ⟨hour, .ofDay place read⟩
  · obtain ⟨text, place⟩ := collects.exists_stands used
    obtain ⟨markText, markPlace⟩ := collects.exists_stands usedMark
    obtain ⟨number, rest, read, -⟩ := collects.hourOfHalf place isHour
    obtain ⟨half, markRest, readMark, -⟩ := collects.mark markPlace isMark
    exact ⟨_, .ofHalf isHour isMark place read markPlace readMark⟩

theorem Collects.hasHour (half : parts.half ≠ none) (hourOfHalf : parts.hourOfHalf ≠ none) :
    HasHour layout := by
  have isHalf : Parts.IsField (·.half) := ⟨rfl, fun _ _ => rfl, (·.half)⟩
  have isHourOfHalf : Parts.IsField (·.hourOfHalf) := ⟨rfl, fun _ _ => rfl, (·.hourOfHalf)⟩
  obtain ⟨part, isPart, used⟩ : Uses layout ["15", "PM", "pm"] :=
    collects.uses isHalf (by decide) half
  obtain ⟨other, isOther, usedToo⟩ : Uses layout ["15", "03", "3"] :=
    collects.uses isHourOfHalf (by decide) hourOfHalf
  rcases List.mem_cons.mp isPart with rfl | isMark
  · exact .inl ⟨"15", List.mem_cons_self, used⟩
  · rcases List.mem_cons.mp isOther with rfl | isHour
    · exact .inl ⟨"15", List.mem_cons_self, usedToo⟩
    · exact .inr ⟨⟨other, isHour, usedToo⟩, part, isMark, used⟩

/-! ### The minute and the second -/

theorem Collects.minute_iff : parts.minute ≠ none ↔ Uses layout ["04", "4"] := by
  have isField : Parts.IsField (·.minute) := ⟨rfl, fun _ _ => rfl, (·.minute)⟩
  constructor
  · exact collects.uses isField (by decide)
  · intro uses
    have usual : NumberPart.minute ≠ .year := by decide
    obtain ⟨minute, among⟩ := collects.told_of_uses usual (by decide) uses
    rw [Parts.eq_some_of_among among.minute]
    exact Option.some_ne_none _

theorem Collects.second_iff : parts.second ≠ none ↔ Uses layout ["05", "5"] := by
  have isField : Parts.IsField (·.second) := ⟨rfl, fun _ _ => rfl, (·.second)⟩
  constructor
  · exact collects.uses isField (by decide)
  · intro uses
    have usual : NumberPart.second ≠ .year := by decide
    obtain ⟨second, among⟩ := collects.told_of_uses usual (by decide) uses
    rw [Parts.eq_some_of_among among.second]
    exact Option.some_ne_none _

theorem Collects.nanos_iff : parts.nanos ≠ none ↔ WritesFraction layout value := by
  constructor
  · intro found
    obtain ⟨part, used, text, rest, told, place, tells, isTold, may⟩ :=
      collects.exists_part ⟨rfl, fun _ _ => rfl, (·.nanos)⟩ found
    have only : ∀ part ∈ Layout.parts, (itemOf part).mayTell.nanos ≠ none →
        part ∈ fractionParts ∧ ∃ digits ∈ [none, some 3, some 6, some 9],
          itemOf part = .fraction digits := by decide
    obtain ⟨isFraction, digits, -, item⟩ := only part (mem_parts_of_usedParts used) may
    rw [item] at tells
    cases tells with
    | @fraction _ behind _ point _ => exact ⟨part, isFraction, behind, point ▸ place⟩
    | noFraction _ _ => exact absurd rfl isTold
  · rintro ⟨part, isFraction, behind, place⟩
    have each : ∀ part ∈ fractionParts, ∃ digits ∈ [none, some 3, some 6, some 9],
        itemOf part = .fraction digits := by decide
    obtain ⟨digits, -, item⟩ := each part isFraction
    obtain ⟨rest, told, tells, among⟩ := collects.tells place
    rw [item] at tells
    cases tells with
    | fraction _ _ =>
      rw [Parts.eq_some_of_among among.nanos]
      exact Option.some_ne_none _
    | noFraction noPoint _ => exact absurd rfl (noPoint behind)

/-! ### The offset -/

theorem Collects.offset {token : String × Bool} (isOffset : token ∈ offsetParts) {text : List Char}
    (stands : StandsAt layout value token.1 text) :
    ∃ offset rest, readOffset? token.2 (Text.trimStart text) = some (offset, rest) ∧
      parts.offset = some offset := by
  have each : ∀ token ∈ offsetParts, token.2 = true ∧ itemOf token.1 = .looseOffset ∨
      token.2 = false ∧ ∃ colon ∈ [true, false], itemOf token.1 = .offset colon := by
    decide
  obtain ⟨rest, told, tells, among⟩ := collects.tells stands
  rcases each token isOffset with ⟨loose, item⟩ | ⟨strict, colon, -, item⟩
  · rw [item] at tells
    rw [loose]
    cases tells with
    | looseOffset read =>
      exact ⟨_, rest, read, Parts.eq_some_of_among among.offset⟩
  · rw [item] at tells
    rw [strict]
    cases tells with
    | offset read =>
      exact ⟨_, rest, read, Parts.eq_some_of_among among.offset⟩

theorem Collects.offset_of_writes {offset : Int} (writes : WritesOffset layout value offset) :
    parts.offset = some offset := by
  obtain ⟨token, isOffset, text, rest, place, read⟩ := writes
  obtain ⟨_, _, readToo, isThere⟩ := collects.offset isOffset place
  cases read.symm.trans readToo
  exact isThere

theorem Collects.exists_writesOffset (has : HasOffset layout) :
    ∃ offset, WritesOffset layout value offset := by
  obtain ⟨part, isOffset, used⟩ := has
  obtain ⟨token, isToken, rfl⟩ := List.mem_map.mp isOffset
  obtain ⟨text, place⟩ := collects.exists_stands used
  obtain ⟨offset, rest, read, -⟩ := collects.offset isToken place
  exact ⟨offset, token, isToken, text, rest, place, read⟩

/-! ### What is kept -/

theorem Collects.showTime_iff : parts.ShowTime ↔ ShowsTime layout value := by
  constructor
  · intro ⟨half, hourOfHalf, minute, second⟩
    exact ⟨collects.hasHour half hourOfHalf, collects.minute_iff.mp minute,
      fun fraction => collects.second_iff.mp (second (collects.nanos_iff.mpr fraction))⟩
  · intro ⟨hour, minute, second⟩
    obtain ⟨written, writes⟩ := collects.exists_writesHour hour
    obtain ⟨half, hourOfHalf⟩ := collects.hour_of_writes writes
    exact ⟨half ▸ Option.some_ne_none _, hourOfHalf ▸ Option.some_ne_none _,
      collects.minute_iff.mpr minute,
      fun fraction => collects.second_iff.mpr (second (collects.nanos_iff.mp fraction))⟩

end Collected

variable {layout value : String} {time : Timestamp}

/-- A value that is read gives parts with the layout. -/
theorem exists_collects (read : read? value (pattern layout) = some time) :
    ∃ parts, Collects layout value parts ∧
      readParts? (itemsOf (pattern layout)) value.toList = some parts := by
  obtain ⟨parts, isRead, -⟩ := Parts.some_of_bind read
  have taken := isRead
  rw [readParts?_eq, itemsOf, pattern, String.toList_ofList,
    (scans_piecesOf layout).readItems?] at taken
  obtain ⟨⟨all, rest⟩, collects, taken⟩ := Parts.some_of_bind taken
  simp only at taken
  split at taken
  · next isEmpty =>
    cases taken
    rw [List.isEmpty_iff.mp isEmpty] at collects
    exact ⟨parts, collects, isRead⟩
  · cases taken

/-- The hour and the offset that a value writes are kept if the layout and the value make a whole
time of day, and the offset if the clock may have it besides. -/
theorem kept_of_writes (read : read? value (pattern layout) = some time)
    (shows : ShowsTime layout value) :
    (∀ hour, WritesHour layout value hour → time.hour = hour) ∧
      ∀ offset, WritesOffset layout value offset → time.MayHave offset → time.offset = offset := by
  obtain ⟨parts, collects, isRead⟩ := exists_collects read
  have sound := Parts.inRanges_readParts? isRead
  obtain ⟨⟨day, clock⟩, offsets⟩ := offset_of_readLoosely? isRead read
  have showTime := collects.showTime_iff.mpr shows
  refine ⟨fun hour writes => ?_, fun offset writes may => ?_⟩
  · obtain ⟨half, hourOfHalf⟩ := collects.hour_of_writes writes
    obtain ⟨shown, isTime⟩ := Option.isSome_iff_exists.mp (Parts.time?_isSome_iff.mpr showTime)
    have inDay : shown.1 < 86400 := (sound.time? isTime).1
    have isHour := sound.time?_hour isTime half hourOfHalf
    rw [isTime, Option.getD_some] at clock
    have seconds : time.timeOfDay = shown.1 := by
      rw [Timestamp.timeOfDay, clock]
      unfold secondsPerDay
      omega
    rw [Timestamp.hour, seconds, isHour]
  · have isOffset := collects.offset_of_writes writes
    rcases offsets with ⟨kept, -, -⟩ | ⟨-, dropped⟩
    · exact Option.some.inj (kept.symm.trans isOffset)
    · exact absurd may (dropped offset isOffset showTime)

/-- Without a whole time of day the point in time is midnight in UTC. -/
theorem midnight_of_not_showsTime (read : read? value (pattern layout) = some time)
    (lacks : ¬ ShowsTime layout value) : time.timeOfDay = 0 ∧ time.offset = 0 := by
  obtain ⟨parts, collects, isRead⟩ := exists_collects read
  obtain ⟨⟨day, clock⟩, offsets⟩ := offset_of_readLoosely? isRead read
  have noTime : ¬ parts.ShowTime := mt collects.showTime_iff.mp lacks
  have absent : parts.time? = none :=
    Option.not_isSome_iff_eq_none.mp (mt Parts.time?_isSome_iff.mp noTime)
  constructor
  · rw [absent] at clock
    rw [Timestamp.timeOfDay, clock]
    show ((day * secondsPerDay + 0) % secondsPerDay).toNat = 0
    unfold secondsPerDay
    omega
  · rcases offsets with ⟨-, whole, -⟩ | ⟨dropped, -⟩
    · exact absurd whole noTime
    · exact dropped

/-- A value that is read writes one hour and one offset, where the layout shows them. If the layout
and the value make a whole time of day, the point in time has this hour, and this offset too unless
the clock cannot have it, in which case it is taken as UTC; so no two such values with different
hours, or with different offsets that the clock may have, give the same. Without a whole time of day
the hour and the offset are dropped, and the point in time is midnight in UTC. -/
theorem read?_fields (read : read? value (pattern layout) = some time) :
    (HasHour layout → ∃ hour, (∀ other, WritesHour layout value other ↔ other = hour) ∧
      (ShowsTime layout value → time.hour = hour)) ∧
    (HasOffset layout → ∃ offset, (∀ other, WritesOffset layout value other ↔ other = offset) ∧
      (ShowsTime layout value → time.MayHave offset → time.offset = offset) ∧
      (¬ time.MayHave offset → time.offset = 0)) ∧
    (¬ ShowsTime layout value → time.timeOfDay = 0 ∧ time.offset = 0) ∧
    ∀ valueToo, read? valueToo (pattern layout) = some time →
      ShowsTime layout value → ShowsTime layout valueToo →
      (∀ hour hourToo, WritesHour layout value hour → WritesHour layout valueToo hourToo →
        hour = hourToo) ∧
      ∀ offset offsetToo, WritesOffset layout value offset →
        WritesOffset layout valueToo offsetToo → time.MayHave offset → time.MayHave offsetToo →
        offset = offsetToo := by
  obtain ⟨parts, collects, isRead⟩ := exists_collects read
  refine ⟨fun has => ?_, fun has => ?_, midnight_of_not_showsTime read,
    fun valueToo readToo shows showsToo => ⟨?_, ?_⟩⟩
  · obtain ⟨hour, writes⟩ := collects.exists_writesHour has
    obtain ⟨half, hourOfHalf⟩ := collects.hour_of_writes writes
    refine ⟨hour, fun other => ⟨fun writesOther => ?_, fun same => same ▸ writes⟩,
      fun shows => (kept_of_writes read shows).1 hour writes⟩
    obtain ⟨halfToo, hourToo⟩ := collects.hour_of_writes writesOther
    have first := Option.some.inj (half.symm.trans halfToo)
    have second := Option.some.inj (hourOfHalf.symm.trans hourToo)
    omega
  · obtain ⟨offset, writes⟩ := collects.exists_writesOffset has
    have isOffset := collects.offset_of_writes writes
    refine ⟨offset, fun other => ⟨fun writesOther => ?_, fun same => same ▸ writes⟩,
      fun shows => (kept_of_writes read shows).2 offset writes, fun cannot => ?_⟩
    · exact Option.some.inj ((collects.offset_of_writes writesOther).symm.trans isOffset)
    · rcases (offset_of_readLoosely? isRead read).2 with ⟨kept, -, may⟩ | ⟨dropped, -⟩
      · rw [Option.some.inj (isOffset.symm.trans kept)] at cannot
        exact absurd may cannot
      · exact dropped
  · intro hour hourToo writes writesToo
    rw [← (kept_of_writes read shows).1 hour writes]
    exact (kept_of_writes readToo showsToo).1 hourToo writesToo
  · intro offset offsetToo writes writesToo may mayToo
    rw [← (kept_of_writes read shows).2 offset writes may]
    exact (kept_of_writes readToo showsToo).2 offsetToo writesToo mayToo

theorem read?_fields_wholeTime :
    read? "2016-03-12 10:30:00 +0200" (pattern "2006-01-02 15:04:05 -0700") =
        some ⟨⟨1457771400, 0⟩, 7200⟩ ∧
      WritesHour "2006-01-02 15:04:05 -0700" "2016-03-12 10:30:00 +0200" 10 ∧
      WritesOffset "2006-01-02 15:04:05 -0700" "2016-03-12 10:30:00 +0200" 7200 := by
  have read : read? "2016-03-12 10:30:00 +0200" (pattern "2006-01-02 15:04:05 -0700") =
      some ⟨⟨1457771400, 0⟩, 7200⟩ := by decide +kernel
  have used : usedParts "2006-01-02 15:04:05 -0700" =
      ["2006", "01", "02", "15", "04", "05", "-0700"] := by decide +kernel
  have uses : ∀ part ∈ ["15", "04", "05", "-0700"],
      part ∈ usedParts "2006-01-02 15:04:05 -0700" := by
    rw [used]
    decide
  have shows : ShowsTime "2006-01-02 15:04:05 -0700" "2016-03-12 10:30:00 +0200" :=
    ⟨.inl ⟨"15", by decide, uses _ (by decide)⟩, ⟨"04", by decide, uses _ (by decide)⟩,
      fun _ => ⟨"05", by decide, uses _ (by decide)⟩⟩
  have has : HasOffset "2006-01-02 15:04:05 -0700" := ⟨"-0700", by decide, uses _ (by decide)⟩
  obtain ⟨hours, offsets, -⟩ := read?_fields read
  obtain ⟨hour, writes, isHour⟩ := hours shows.hour
  obtain ⟨offset, writesOffset, isOffset, isDropped⟩ := offsets has
  refine ⟨read, (writes 10).mpr (isHour shows), (writesOffset 7200).mpr ?_⟩
  by_cases may : (⟨⟨1457771400, 0⟩, 7200⟩ : Timestamp).MayHave offset
  · exact isOffset shows may
  · exact absurd (isDropped may) (by decide)

/-- The hour and the offset of a value without minutes are dropped: two values with different ones
give the same. -/
theorem read?_fields_dropped :
    WritesHour "2006-01-02 15 -0700" "2016-03-12 10 +0200" 10 ∧
      WritesOffset "2006-01-02 15 -0700" "2016-03-12 10 +0200" 7200 ∧
      read? "2016-03-12 10 +0200" (pattern "2006-01-02 15 -0700") =
        some ⟨⟨1457740800, 0⟩, 0⟩ ∧
      (⟨⟨1457740800, 0⟩, 0⟩ : Timestamp).hour = 0 ∧
      read? "2016-03-12 11 -0700" (pattern "2006-01-02 15 -0700") =
        some ⟨⟨1457740800, 0⟩, 0⟩ := by
  have place : StandsAt "2006-01-02 15 -0700" "2016-03-12 10 +0200" "15" "10 +0200".toList :=
    ⟨[.part "2006", .char '-', .part "01", .char '-', .part "02", .char ' '],
      [.char ' ', .part "-0700"],
      { Parts.empty with year := some 2016, month := some 3, day := some 12 },
      by decide +kernel, by decide +kernel⟩
  have offsetPlace :
      StandsAt "2006-01-02 15 -0700" "2016-03-12 10 +0200" "-0700" "+0200".toList :=
    ⟨[.part "2006", .char '-', .part "01", .char '-', .part "02", .char ' ', .part "15",
        .char ' '], [],
      { Parts.empty with
        year := some 2016, month := some 3, day := some 12, half := some 0,
        hourOfHalf := some 10 },
      by decide +kernel, by decide +kernel⟩
  exact ⟨.ofDay place (by decide +kernel : _ = some (10, " +0200".toList)),
    ⟨("-0700", false), by decide, "+0200".toList, [], offsetPlace, by decide +kernel⟩,
    by decide +kernel, by decide, by decide +kernel⟩

end Layout

end Metasearch
