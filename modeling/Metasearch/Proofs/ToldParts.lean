/-
This file settles what each item of a pattern tells of a date and a time, and that matching a text
loses nothing of it: what an item tells at its place is among the parts in the end, and every part
in the end was told by an item at its place. Items that tell the same part have to agree on it.
-/
import Metasearch.Proofs.CanonicalTimestamps

namespace Metasearch.Calendar

/-! ### Parts on the way -/

namespace Parts

/-- Everything that was read is among all parts. -/
structure IsAmong (parts all : Parts) : Prop where
  year : parts.year = none ∨ parts.year = all.year
  yearOfCentury : parts.yearOfCentury = none ∨ parts.yearOfCentury = all.yearOfCentury
  month : parts.month = none ∨ parts.month = all.month
  day : parts.day = none ∨ parts.day = all.day
  ordinal : parts.ordinal = none ∨ parts.ordinal = all.ordinal
  weekday : parts.weekday = none ∨ parts.weekday = all.weekday
  half : parts.half = none ∨ parts.half = all.half
  hourOfHalf : parts.hourOfHalf = none ∨ parts.hourOfHalf = all.hourOfHalf
  minute : parts.minute = none ∨ parts.minute = all.minute
  second : parts.second = none ∨ parts.second = all.second
  nanos : parts.nanos = none ∨ parts.nanos = all.nanos
  offset : parts.offset = none ∨ parts.offset = all.offset

theorem isAmong_refl (parts : Parts) : parts.IsAmong parts := by
  constructor <;> exact .inr rfl

theorem isAmong_empty (all : Parts) : empty.IsAmong all := by
  constructor <;> exact .inl rfl

theorem among_trans {Part : Type} {first next last : Option Part}
    (grows : first = none ∨ first = next) (among : next = none ∨ next = last) :
    first = none ∨ first = last := by
  rcases grows with none | same
  · exact .inl none
  · exact same ▸ among

theorem IsAmong.trans {parts next all : Parts} (grows : parts.IsAmong next)
    (among : next.IsAmong all) : parts.IsAmong all where
  year := among_trans grows.year among.year
  yearOfCentury := among_trans grows.yearOfCentury among.yearOfCentury
  month := among_trans grows.month among.month
  day := among_trans grows.day among.day
  ordinal := among_trans grows.ordinal among.ordinal
  weekday := among_trans grows.weekday among.weekday
  half := among_trans grows.half among.half
  hourOfHalf := among_trans grows.hourOfHalf among.hourOfHalf
  minute := among_trans grows.minute among.minute
  second := among_trans grows.second among.second
  nanos := among_trans grows.nanos among.nanos
  offset := among_trans grows.offset among.offset

theorem eq_some_of_among {Part : Type} {part : Part} {last : Option Part}
    (among : some part = none ∨ some part = last) : last = some part :=
  (among.resolve_left (Option.some_ne_none part)).symm

end Parts

/-! ### What an item tells -/

/-- Some parts, and those of others that they do not have. -/
def Parts.over (told before : Parts) : Parts where
  year := told.year.or before.year
  yearOfCentury := told.yearOfCentury.or before.yearOfCentury
  month := told.month.or before.month
  day := told.day.or before.day
  ordinal := told.ordinal.or before.ordinal
  weekday := told.weekday.or before.weekday
  half := told.half.or before.half
  hourOfHalf := told.hourOfHalf.or before.hourOfHalf
  minute := told.minute.or before.minute
  second := told.second.or before.second
  nanos := told.nanos.or before.nanos
  offset := told.offset.or before.offset

/-- The parts that a number tells. -/
def NumberPart.told (value : Nat) : NumberPart → Parts
  | .year => { Parts.empty with year := some value }
  | .yearOfCentury => { Parts.empty with yearOfCentury := some value }
  | .month => { Parts.empty with month := some value }
  | .day => { Parts.empty with day := some value }
  | .ordinal => { Parts.empty with ordinal := some value }
  | .hour => { Parts.empty with half := some (value / 12), hourOfHalf := some (value % 12) }
  | .hourOfHalf => { Parts.empty with hourOfHalf := some (value % 12) }
  | .minute => { Parts.empty with minute := some value }
  | .second => { Parts.empty with second := some value }

/-- A number is one that the part may have. -/
def NumberPart.Allows (value : Nat) : NumberPart → Prop
  | .year => Number.isWithin Number.maxSigned32 value = true
  | .yearOfCentury => True
  | .month => 1 ≤ value ∧ value ≤ 12
  | .day => 1 ≤ value ∧ value ≤ 31
  | .ordinal => 1 ≤ value ∧ value ≤ 366
  | .hour => value ≤ 23
  | .hourOfHalf => 1 ≤ value ∧ value ≤ 12
  | .minute => value ≤ 59
  | .second => value ≤ 60

/-- What an item tells at the beginning of a text, of which it leaves the rest. -/
inductive Tells (text rest : List Char) : PatternItem → Parts → Prop
  | literal {expected} (begins : Text.dropBeginning? expected text = some rest) :
      Tells text rest (.literal expected) Parts.empty
  | blanks {run} (trimmed : rest = Text.trimStart text) : Tells text rest (.blanks run) Parts.empty
  | year {padding year} (read : readYear? (Text.trimStart text) = some (year, rest))
      (allowed : Number.isWithin Number.maxSigned32 year = true) :
      Tells text rest (.number .year padding) { Parts.empty with year := some year }
  | number {part padding value} (other : part ≠ .year)
      (read : readNumber? part.width (Text.trimStart text) = some (value, rest))
      (allowed : part.Allows value) : Tells text rest (.number part padding) (part.told value)
  | monthName {full index} (read : readName? monthNames full text = some (index, rest))
      (allowed : index + 1 ≤ 12) :
      Tells text rest (.monthName full) { Parts.empty with month := some (index + 1) }
  | weekdayName {full index} (read : readName? weekdayNames full text = some (index, rest)) :
      Tells text rest (.weekdayName full) { Parts.empty with weekday := some index }
  | half {capital half} (read : readHalf? text = some (half, rest)) :
      Tells text rest (.half capital) { Parts.empty with half := some half }
  | zoneName (word : rest = text.dropWhile fun c => !Text.isBlank c) :
      Tells text rest .zoneName Parts.empty
  | offset {colon offset} (read : readOffset? false (Text.trimStart text) = some (offset, rest)) :
      Tells text rest (.offset colon) { Parts.empty with offset := some offset }
  | looseOffset {offset} (read : readOffset? true (Text.trimStart text) = some (offset, rest)) :
      Tells text rest .looseOffset { Parts.empty with offset := some offset }
  | fraction {digits behind nanos} (point : text = '.' :: behind)
      (read : readFraction? digits behind = some (nanos, rest)) :
      Tells text rest (.fraction digits) { Parts.empty with nanos := some nanos }
  | noFraction {digits} (noPoint : ∀ behind, text ≠ '.' :: behind) (same : rest = text) :
      Tells text rest (.fraction digits) Parts.empty

namespace Parts

/-- Some parts have grown by what was told, and keep what they were before. -/
structure GrowsBy (before told after : Parts) : Prop where
  all : after = told.over before
  keeps : before.IsAmong after

variable {parts next : Parts}

theorem some_of_bind {First Second : Type} {first : Option First} {next : First → Option Second}
    {result : Second} (found : (first >>= next) = some result) :
    ∃ value, first = some value ∧ next value = some result :=
  Option.bind_eq_some_iff.mp found

theorem eq_some_of_agree {Part : Type} [DecidableEq Part] {before after : Option Part} {part : Part}
    (agreed : agree before part = some after) : after = some part := by
  unfold agree at agreed
  split at agreed
  · exact (Option.some.inj agreed).symm
  · next old =>
    split at agreed
    · next same => rw [← Option.some.inj agreed, same]
    · cases agreed

/-- What is taken in is there afterwards, and was not another before. -/
theorem taken_of_agree {Part : Type} [DecidableEq Part] {before : Option Part} {part : Part}
    {put : Option Part → Parts}
    (set : (agree before part >>= fun after => some (put after)) = some next) :
    next = put (some part) ∧ MayTake before part := by
  obtain ⟨after, agreed, done⟩ := some_of_bind set
  cases done
  refine ⟨congrArg put (eq_some_of_agree agreed), ?_⟩
  unfold agree at agreed
  split at agreed
  · exact .inl rfl
  · split at agreed
    · next same => exact .inr (congrArg some same)
    · cases agreed

/-- What is read for a part is what the part is set to. -/
theorem exists_set {Part : Type} (set : Part → Option Parts) {found : Option (Part × List Char)}
    {rest : List Char}
    (read : (do let taken ← found; let after ← set taken.1; return (after, taken.2)) =
      some (next, rest)) :
    ∃ part, found = some (part, rest) ∧ set part = some next := by
  obtain ⟨⟨part, behind⟩, here, read⟩ := some_of_bind read
  obtain ⟨after, there, done⟩ := some_of_bind read
  cases done
  exact ⟨part, here, there⟩

theorem growsBy_empty (parts : Parts) : parts.GrowsBy empty parts :=
  ⟨rfl, isAmong_refl parts⟩

theorem growsBy_setYear {year : Int} (set : parts.setYear year = some next) :
    Number.isWithin Number.maxSigned32 year = true ∧
      parts.GrowsBy { empty with year := some year } next := by
  unfold setYear at set
  split at set
  · next allowed =>
    obtain ⟨rfl, may⟩ := taken_of_agree set
    exact ⟨allowed, rfl, { isAmong_refl parts with year := may }⟩
  · cases set

theorem growsBy_setMonth {month : Nat} (set : parts.setMonth month = some next) :
    (1 ≤ month ∧ month ≤ 12) ∧ parts.GrowsBy { empty with month := some month } next := by
  unfold setMonth at set
  split at set
  · next allowed =>
    obtain ⟨rfl, may⟩ := taken_of_agree set
    exact ⟨by simpa using allowed, rfl, { isAmong_refl parts with month := may }⟩
  · cases set

theorem growsBy_setHourOfHalf {hour : Nat} (set : parts.setHourOfHalf hour = some next) :
    parts.GrowsBy { empty with hourOfHalf := some hour } next := by
  obtain ⟨rfl, may⟩ := taken_of_agree set
  exact ⟨rfl, { isAmong_refl parts with hourOfHalf := may }⟩

/-- A number that is taken in is one that its part may have. -/
theorem growsBy_setNumber {part : NumberPart} {value : Nat}
    (set : parts.setNumber part value = some next) :
    part.Allows value ∧ parts.GrowsBy (part.told value) next := by
  cases part with
  | year => exact growsBy_setYear set
  | month => exact growsBy_setMonth set
  | yearOfCentury =>
    obtain ⟨rfl, may⟩ := taken_of_agree set
    exact ⟨trivial, rfl, { isAmong_refl parts with yearOfCentury := may }⟩
  | day =>
    simp only [setNumber] at set
    split at set
    · next allowed =>
      have within : 1 ≤ value ∧ value ≤ 31 := by simpa using allowed
      obtain ⟨rfl, may⟩ := taken_of_agree set
      exact ⟨within, rfl, { isAmong_refl parts with day := may }⟩
    · cases set
  | ordinal =>
    simp only [setNumber] at set
    split at set
    · next allowed =>
      have within : 1 ≤ value ∧ value ≤ 366 := by simpa using allowed
      obtain ⟨rfl, may⟩ := taken_of_agree set
      exact ⟨within, rfl, { isAmong_refl parts with ordinal := may }⟩
    · cases set
  | hour =>
    simp only [setNumber] at set
    split at set
    · next allowed =>
      obtain ⟨between, first, second⟩ := some_of_bind set
      obtain ⟨rfl, mayHalf⟩ := taken_of_agree first
      obtain ⟨rfl, mayHour⟩ := taken_of_agree second
      exact ⟨allowed, rfl, { isAmong_refl parts with half := mayHalf, hourOfHalf := mayHour }⟩
    · cases set
  | hourOfHalf =>
    simp only [setNumber] at set
    split at set
    · next allowed =>
      have within : 1 ≤ value ∧ value ≤ 12 := by simpa using allowed
      exact ⟨within, growsBy_setHourOfHalf set⟩
    · cases set
  | minute =>
    simp only [setNumber] at set
    split at set
    · next allowed =>
      obtain ⟨rfl, may⟩ := taken_of_agree set
      exact ⟨allowed, rfl, { isAmong_refl parts with minute := may }⟩
    · cases set
  | second =>
    simp only [setNumber] at set
    split at set
    · next allowed =>
      obtain ⟨rfl, may⟩ := taken_of_agree set
      exact ⟨allowed, rfl, { isAmong_refl parts with second := may }⟩
    · cases set

end Parts

open Parts

variable {parts next last : Parts} {text rest : List Char} {item : PatternItem}
  {items : List PatternItem}

/-- An item that is matched adds what it tells to the parts. -/
theorem exists_tells (read : readItem? parts text item = some (next, rest)) :
    ∃ told, Tells text rest item told ∧ parts.GrowsBy told next := by
  cases item with
  | literal expected =>
    obtain ⟨_, begins, done⟩ := Option.map_eq_some_iff.mp read
    cases done
    exact ⟨_, .literal begins, growsBy_empty parts⟩
  | blanks _ =>
    cases read
    exact ⟨_, .blanks rfl, growsBy_empty parts⟩
  | zoneName =>
    cases read
    exact ⟨_, .zoneName rfl, growsBy_empty parts⟩
  | malformed => cases read
  | number part padding =>
    cases part with
    | year =>
      obtain ⟨_, found, set⟩ := exists_set parts.setYear read
      obtain ⟨allowed, grows⟩ := growsBy_setYear set
      exact ⟨_, .year found allowed, grows⟩
    | _ =>
      obtain ⟨_, found, set⟩ := exists_set (parts.setNumber _) read
      obtain ⟨allowed, grows⟩ := growsBy_setNumber set
      exact ⟨_, .number (by simp) found allowed, grows⟩
  | monthName full =>
    obtain ⟨_, found, set⟩ := exists_set (fun index => parts.setMonth (index + 1)) read
    obtain ⟨allowed, grows⟩ := growsBy_setMonth set
    exact ⟨_, .monthName found allowed.2, grows⟩
  | weekdayName full =>
    obtain ⟨_, found, set⟩ := exists_set parts.setWeekday read
    obtain ⟨rfl, may⟩ := taken_of_agree set
    exact ⟨_, .weekdayName found, rfl, { isAmong_refl parts with weekday := may }⟩
  | half capital =>
    obtain ⟨_, found, set⟩ := exists_set parts.setHalf read
    obtain ⟨rfl, may⟩ := taken_of_agree set
    exact ⟨_, .half found, rfl, { isAmong_refl parts with half := may }⟩
  | offset colon =>
    obtain ⟨_, found, set⟩ := exists_set parts.setOffset read
    obtain ⟨rfl, may⟩ := taken_of_agree set
    exact ⟨_, .offset found, rfl, { isAmong_refl parts with offset := may }⟩
  | looseOffset =>
    obtain ⟨_, found, set⟩ := exists_set parts.setOffset read
    obtain ⟨rfl, may⟩ := taken_of_agree set
    exact ⟨_, .looseOffset found, rfl, { isAmong_refl parts with offset := may }⟩
  | fraction digits =>
    unfold readItem? at read
    simp only at read
    split at read
    · obtain ⟨_, found, set⟩ := exists_set parts.setNanos read
      obtain ⟨rfl, may⟩ := taken_of_agree set
      exact ⟨_, .fraction rfl found, rfl, { isAmong_refl parts with nanos := may }⟩
    · next noPoint =>
      cases read
      exact ⟨_, .noFraction noPoint rfl, growsBy_empty parts⟩

/-! ### What items in a row tell -/

theorem isAmong_over (told before : Parts) : told.IsAmong (told.over before) := by
  have among : ∀ {Part : Type} (first second : Option Part),
      first = none ∨ first = first.or second := by
    intro Part first second
    cases first with
    | none => exact .inl rfl
    | some part => exact .inr rfl
  constructor <;> exact among _ _

/-- Matches a text against some items, and leaves the rest of it. -/
def readItems? (items : List PatternItem) (parts : Parts) (text : List Char) :
    Option (Parts × List Char) :=
  items.foldlM (fun (parts, rest) item => readItem? parts rest item) (parts, text)

theorem readItems?_cons (item : PatternItem) (items : List PatternItem) (parts : Parts)
    (text : List Char) :
    readItems? (item :: items) parts text =
      readItem? parts text item >>= fun taken => readItems? items taken.1 taken.2 := by
  exact List.foldlM_cons

theorem readParts?_eq (items : List PatternItem) (text : List Char) :
    readParts? items text = readItems? items Parts.empty text >>= fun taken =>
      if taken.2.isEmpty then some taken.1 else none := rfl

theorem readItems?_append (before after : List PatternItem) (parts : Parts) (text : List Char) :
    readItems? (before ++ after) parts text =
      readItems? before parts text >>= fun taken => readItems? after taken.1 taken.2 :=
  List.foldlM_append

theorem readItems?_keeps (collects : readItems? items parts text = some (last, rest)) :
    parts.IsAmong last := by
  induction items generalizing parts text with
  | nil =>
    cases collects
    exact isAmong_refl _
  | cons item more inductionHypothesis =>
    rw [readItems?_cons] at collects
    obtain ⟨⟨next, behind⟩, first, collects⟩ := some_of_bind collects
    obtain ⟨told, -, grows⟩ := exists_tells first
    exact grows.keeps.trans (inductionHypothesis collects)

/-- What an item tells at its place is among the parts in the end. -/
theorem exists_tells_at {before after : List PatternItem}
    (collects : readItems? (before ++ item :: after) parts text = some (last, rest)) :
    ∃ between here behind told, readItems? before parts text = some (between, here) ∧
      Tells here behind item told ∧ told.IsAmong last := by
  rw [readItems?_append] at collects
  obtain ⟨⟨between, here⟩, first, collects⟩ := some_of_bind collects
  rw [readItems?_cons] at collects
  obtain ⟨⟨next, behind⟩, second, collects⟩ := some_of_bind collects
  obtain ⟨told, tells, grows⟩ := exists_tells second
  refine ⟨between, here, behind, told, first, tells, ?_⟩
  have among := isAmong_over told between
  rw [← grows.all] at among
  exact among.trans (readItems?_keeps collects)

/-- A part that is there in the end, and was not at first, was told by an item at its place. -/
theorem exists_told {Part : Type} (field : Parts → Option Part)
    (joins : ∀ told before, field (Parts.over told before) = (field told).or (field before))
    (collects : readItems? items parts text = some (last, rest)) (fresh : field parts = none)
    (found : field last ≠ none) :
    ∃ before item after between here behind told, items = before ++ item :: after ∧
      readItems? before parts text = some (between, here) ∧ Tells here behind item told ∧
      field told ≠ none := by
  induction items generalizing parts text with
  | nil =>
    cases collects
    exact absurd fresh found
  | cons item more inductionHypothesis =>
    rw [readItems?_cons] at collects
    obtain ⟨⟨next, behind⟩, first, collects⟩ := some_of_bind collects
    obtain ⟨told, tells, grows⟩ := exists_tells first
    cases isTold : field told with
    | some part =>
      exact ⟨[], item, more, parts, text, behind, told, rfl, rfl, tells, by simp [isTold]⟩
    | none =>
      have stillFresh : field next = none := by rw [grows.all, joins, isTold, fresh]; rfl
      obtain ⟨before, other, after, between, here, left, later, split, reads, tellsLater,
        isThere⟩ := inductionHypothesis collects stillFresh
      refine ⟨item :: before, other, after, between, here, left, later, congrArg _ split, ?_,
        tellsLater, isThere⟩
      rw [readItems?_cons, first]
      exact reads

/-! ### What an item may tell -/

/-- The parts that an item may tell, with zero for each of them. -/
def PatternItem.mayTell : PatternItem → Parts
  | .number part _ => part.told 0
  | .monthName _ => { Parts.empty with month := some 0 }
  | .weekdayName _ => { Parts.empty with weekday := some 0 }
  | .half _ => { Parts.empty with half := some 0 }
  | .offset _ | .looseOffset => { Parts.empty with offset := some 0 }
  | .fraction _ => { Parts.empty with nanos := some 0 }
  | .literal _ | .blanks _ | .zoneName | .malformed => Parts.empty

/-- The parts of a time of day and of an offset that are there are there among others too. -/
structure Parts.IsCovered (parts others : Parts) : Prop where
  half : parts.half ≠ none → others.half ≠ none
  hourOfHalf : parts.hourOfHalf ≠ none → others.hourOfHalf ≠ none
  minute : parts.minute ≠ none → others.minute ≠ none
  second : parts.second ≠ none → others.second ≠ none
  nanos : parts.nanos ≠ none → others.nanos ≠ none
  offset : parts.offset ≠ none → others.offset ≠ none

theorem Tells.isCovered {told : Parts} (tells : Tells text rest item told) :
    told.IsCovered item.mayTell := by
  cases tells with
  | @number part _ _ _ _ _ =>
    cases part <;> constructor <;> first | exact id | exact fun _ => Option.some_ne_none _
  | noFraction _ _ => constructor <;> exact fun absent => absurd rfl absent
  | _ => constructor <;> first | exact id | exact fun _ => Option.some_ne_none _

/-- A part of the time of day or an offset as a field of the parts: it is there if it is told, and
only told by items that may tell it. -/
structure Parts.IsField {Part : Type} (field : Parts → Option Part) : Prop where
  clear : field Parts.empty = none
  joins : ∀ told before, field (Parts.over told before) = (field told).or (field before)
  covers : ∀ {told others : Parts}, told.IsCovered others → field told ≠ none → field others ≠ none

end Metasearch.Calendar
