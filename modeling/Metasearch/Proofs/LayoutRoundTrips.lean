/-
This file settles which layouts can be read back. A layout that shows the date and the time of day
to the second, with nothing in it but these parts and solid characters, gives back the instant that
was written with it, to the second, whatever the order of the parts and the characters between them:
every part is written in as many characters as are read for it, so that no character of the layout
is taken for a part.

There is one exception. A layout with a number sign between a percent sign and a z is written
without the number sign, which reading expects; so what it writes it never reads.
-/
import Mathlib.Data.List.DropRight
import Metasearch.Proofs.CanonicalTimestamps
import Metasearch.Proofs.LayoutPieces
import Metasearch.Proofs.ToldParts

namespace Metasearch

/-! ### Items in a row -/

namespace Calendar

/-- Without an offset, a date with a time of day is taken as UTC. -/
theorem readLoosely?_of_clock {items : List PatternItem} {text : String} {parts : Parts}
    (read : readParts? items text.toList = some parts) (noOffset : parts.offset = none)
    {date : Date} (isDate : parts.date? = some date) {shown : Nat × Nat}
    (isTime : parts.time? = some shown) :
    readLoosely? items text = some ⟨Parts.instantAt date shown 0, 0⟩ := by
  have noTimestamp : parts.timestamp? = none := by
    rw [Parts.timestamp?, noOffset]
    rfl
  rw [readLoosely?, read, Option.bind_eq_bind, Option.bind_some, noTimestamp, isDate, isTime]
  rfl

theorem dropBeginning_cons (c : Char) (expected text : List Char) :
    Text.dropBeginning? (c :: expected) text =
      Text.dropBeginning? [c] text >>= Text.dropBeginning? expected := by
  cases text with
  | nil => rfl
  | cons d text =>
    by_cases same : c = d
    · subst same
      simp [Text.dropBeginning?]
    · simp [Text.dropBeginning?, same]

theorem trimStart_trimStart (text : List Char) :
    Text.trimStart (Text.trimStart text) = Text.trimStart text :=
  List.dropWhile_idempotent _ _

/-- It makes no difference whether a character is read with the text behind it or before it. -/
theorem readItems?_consChar (c : Char) (items : List PatternItem) (parts : Parts)
    (text : List Char) :
    readItems? (consChar c items) parts text = readItems? (charItem c :: items) parts text := by
  unfold consChar charItem
  split
  · split
    · next blanks rest =>
      show readItems? rest parts (Text.trimStart text) =
        readItems? rest parts (Text.trimStart (Text.trimStart text))
      rw [trimStart_trimStart]
    · rfl
  · split
    · next literal rest =>
      rw [readItems?_cons, readItems?_cons]
      simp only [readItem?, dropBeginning_cons c literal]
      cases Text.dropBeginning? [c] text with
      | none => rfl
      | some behind =>
        rw [Option.map_some, Option.bind_eq_bind, Option.bind_some, Option.bind_eq_bind,
          Option.bind_some, readItems?_cons]
        rfl
    · rfl

/-- What is written for some items is written for their characters one by one. -/
theorem flatMap_writtenItem_spread (time : Timestamp) (zone : String) (items : List PatternItem) :
    (items.flatMap PatternItem.spread).flatMap (writtenItem time zone) =
      items.flatMap (writtenItem time zone) := by
  induction items with
  | nil => rfl
  | cons item rest inductionHypothesis =>
    rw [List.flatMap_cons, List.flatMap_append, List.flatMap_cons, inductionHypothesis]
    congr 1
    cases item <;> simp [PatternItem.spread, writtenItem, List.flatMap_map]

/-! ### Parts on the way -/

namespace Parts

/-- What an item tells of a date and a time has been read. -/
def Knows (parts all : Parts) : PatternItem → Prop
  | .number .year _ => parts.year = all.year
  | .number .month _ | .monthName _ => parts.month = all.month
  | .number .day _ => parts.day = all.day
  | .number .hour _ => parts.half = all.half ∧ parts.hourOfHalf = all.hourOfHalf
  | .number .minute _ => parts.minute = all.minute
  | .number .second _ => parts.second = all.second
  | _ => True

/-- A part that has its last value keeps it. -/
theorem eq_of_between {Part : Type} {first next last : Option Part}
    (grows : first = none ∨ first = next) (among : next = none ∨ next = last)
    (known : first = last) : next = last := by
  rcases grows with none | same
  · rcases among with noneToo | same
    · rw [noneToo, ← known, none]
    · exact same
  · rw [← same, known]

theorem Knows.grows {parts next all : Parts} {item : PatternItem} (known : parts.Knows all item)
    (grows : parts.IsAmong next) (among : next.IsAmong all) : next.Knows all item := by
  cases item with
  | monthName _ => exact eq_of_between grows.month among.month known
  | number part _ =>
    cases part with
    | year => exact eq_of_between grows.year among.year known
    | month => exact eq_of_between grows.month among.month known
    | day => exact eq_of_between grows.day among.day known
    | minute => exact eq_of_between grows.minute among.minute known
    | second => exact eq_of_between grows.second among.second known
    | hour =>
      exact ⟨eq_of_between grows.half among.half known.1,
        eq_of_between grows.hourOfHalf among.hourOfHalf known.2⟩
    | _ => trivial
  | _ => trivial

end Parts

/-! ### What the clock shows -/

/-- A clock of UTC in the usual years, outside a leap second. -/
structure Timestamp.IsUsual (time : Timestamp) : Prop where
  early : 0 ≤ time.date.year
  late : time.date.year ≤ 9999
  nanos : time.instant.nanos < nanosPerSecond
  utc : time.offset = 0

/-- The parts that a clock of UTC shows. -/
def clockParts (time : Timestamp) : Parts :=
  { shownParts time.date time.hour time.minute time.second 0 with offset := none }

namespace Timestamp

variable {time : Timestamp}

/-- The date of a day in the years of the calendar exists. -/
theorem IsUsual.isValid_date (usual : time.IsUsual) : time.date.isValid = true := by
  obtain ⟨year, one, twelve, some, few, -⟩ :=
    Date.ofPlace_spec (Date.ofDayNumber_inside (time.localSeconds / secondsPerDay))
  have early : 0 ≤ time.date.year := usual.early
  have late : time.date.year ≤ 9999 := usual.late
  have first : firstYear ≤ time.date.year := Int.le_trans (by decide) early
  have last : time.date.year ≤ lastYear := Int.le_trans late (by decide)
  simp only [Date.isValid, Bool.and_eq_true, decide_eq_true_eq]
  rw [← year] at few
  exact ⟨⟨⟨⟨⟨first, last⟩, one⟩, twelve⟩, some⟩, few⟩

theorem IsUsual.isKept (usual : time.IsUsual) : time.IsKept := by
  obtain ⟨first, last⟩ := Date.dayNumber_inRange usual.isValid_date
  rw [dayNumber_date] at first last
  have utc : time.localSeconds = time.instant.seconds := by
    rw [localSeconds, usual.utc, Int.add_zero]
  have nanos : time.instant.nanos < 1000000000 := usual.nanos
  have inRange : time.instant.inRange = true := by
    rw [Instant.inRange_iff, Instant.dayNumber, ← utc]
    exact ⟨first, last⟩
  refine ⟨⟨?_, inRange⟩, ?_, ?_, first, last⟩
  · unfold nanosPerSecond
    omega
  · rw [usual.utc]
    rfl
  · rw [usual.utc]
    decide

theorem hour_lt (time : Timestamp) : time.hour < 24 := by
  unfold hour timeOfDay secondsPerDay
  omega

theorem minute_lt (time : Timestamp) : time.minute < 60 := Nat.mod_lt _ (by decide)

theorem IsUsual.second_lt (usual : time.IsUsual) : time.second < 60 := by
  have nanos : time.instant.nanos < 1000000000 := usual.nanos
  unfold second nanosPerSecond
  omega

end Timestamp

end Calendar

namespace Layout

open Calendar

/-- The parts of the reference time that show the date and the time of day to the second, in as many
characters every time or in words. -/
def wholeParts : List String :=
  ["2006", "01", "Jan", "January", "02", "15", "04", "05", "Mon", "Monday"]

/-- A year of four digits is read back, whatever stands behind it. -/
theorem readItem?_usualYear {parts : Parts} {year : Int} (may : MayTake parts.year year)
    (early : 0 ≤ year) (late : year ≤ 9999) (rest : List Char) :
    readItem? parts (writtenYear .zeros year ++ rest) (.number .year .zeros) =
      some ({ parts with year := some year }, rest) := by
  have usual : (decide (0 ≤ year) && decide (year ≤ 9999)) = true := by simp [early, late]
  have written : writtenYear .zeros year = padded 4 '0' year.toNat := if_pos usual
  have read : readYear? (padded 4 '0' year.toNat ++ rest) = some (year, rest) := by
    obtain ⟨head, tail, text, digit⟩ := padded_head 4 year.toNat
    have number := @readNumber?_padded 4 year.toNat (by decide) (by omega)
      (Nat.le_trans (show year.toNat ≤ 9999 by omega) (by decide)) rest
    rw [text, List.cons_append] at number ⊢
    rw [readYear?_of_digit digit, number, Option.map_some]
    show some ((year.toNat : Int), rest) = _
    rw [Int.toNat_of_nonneg early]
  have set := setYear_of_mayTake may (Int.le_trans (by decide) early)
    (Int.le_trans late (by decide))
  simp only [readItem?, written, trimStart_padded, read, set, Option.bind_eq_bind,
    Option.bind_some]
  rfl

/-- What is written for an item is read back for it, among parts that the clock shows, and is then
known besides what was known before. -/
def ReadsBack (time : Timestamp) (zone : String) (parts : Parts) (item : PatternItem) : Prop :=
  ∃ next, (∀ rest, readItem? parts (writtenItem time zone item ++ rest) item = some (next, rest)) ∧
    parts.IsAmong next ∧ next.IsAmong (clockParts time) ∧ next.Knows (clockParts time) item

/-- What the clock shows for a part of the reference time is read back. -/
theorem readsBack_itemOf {time : Timestamp} (usual : time.IsUsual) (zone : String)
    {part : String} (whole : part ∈ wholeParts) {parts : Parts}
    (among : parts.IsAmong (clockParts time)) : ReadsBack time zone parts (itemOf part) := by
  have valid := usual.isValid_date
  simp only [Date.isValid, Bool.and_eq_true, decide_eq_true_eq] at valid
  obtain ⟨⟨⟨⟨-, one⟩, twelve⟩, present⟩, few⟩ := valid
  have days := Nat.le_trans few (daysInMonth_le _ _)
  have same := Parts.isAmong_refl parts
  have monthName : ∀ full, ReadsBack time zone parts (.monthName full) := fun full =>
    ⟨{ parts with month := some time.date.month },
      readItem?_month full among.month one twelve, { same with month := among.month },
      { among with month := .inr rfl }, rfl⟩
  have weekdayName : ∀ full, ReadsBack time zone parts (.weekdayName full) := fun full =>
    ⟨{ parts with weekday := some time.date.weekday },
      readItem?_weekday full among.weekday (weekday_lt _), { same with weekday := among.weekday },
      { among with weekday := .inr rfl }, trivial⟩
  simp only [wholeParts, List.mem_cons, List.not_mem_nil, or_false] at whole
  rcases whole with rfl | rfl | rfl | rfl | rfl | rfl | rfl | rfl | rfl | rfl
  · exact ⟨{ parts with year := some time.date.year },
      readItem?_usualYear among.year usual.early usual.late, { same with year := among.year },
      { among with year := .inr rfl }, rfl⟩
  · exact ⟨{ parts with month := some time.date.month },
      readItem?_monthNumber among.month one twelve, { same with month := among.month },
      { among with month := .inr rfl }, rfl⟩
  · exact monthName false
  · exact monthName true
  · exact ⟨{ parts with day := some time.date.day }, readItem?_day among.day present days,
      { same with day := among.day }, { among with day := .inr rfl }, rfl⟩
  · exact ⟨{ parts with half := some (time.hour / 12), hourOfHalf := some (time.hour % 12) },
      readItem?_hour among.half among.hourOfHalf time.hour_lt,
      { same with half := among.half, hourOfHalf := among.hourOfHalf },
      { among with half := .inr rfl, hourOfHalf := .inr rfl }, rfl, rfl⟩
  · exact ⟨{ parts with minute := some time.minute }, readItem?_minute among.minute time.minute_lt,
      { same with minute := among.minute }, { among with minute := .inr rfl }, rfl⟩
  · exact ⟨{ parts with second := some time.second },
      readItem?_second among.second (Nat.le_of_lt usual.second_lt),
      { same with second := among.second }, { among with second := .inr rfl }, rfl⟩
  · exact weekdayName false
  · exact weekdayName true

theorem readsBack_charItem {c : Char} (solid : Text.isBlank c = false) (time : Timestamp)
    (zone : String) {parts : Parts} (among : parts.IsAmong (clockParts time)) :
    ReadsBack time zone parts (charItem c) := by
  have single : charItem c = .literal [c] := if_neg (by simp [solid])
  rw [single]
  exact ⟨parts, readItem?_mark parts c, Parts.isAmong_refl parts, among, trivial⟩

section Items

variable {time : Timestamp} {zone : String} {items : List PatternItem} {parts : Parts}

/-- Items that are each read back are read back one after the other. -/
theorem readItems?_written
    (each : ∀ item ∈ items, ∀ parts, parts.IsAmong (clockParts time) →
      ReadsBack time zone parts item) (among : parts.IsAmong (clockParts time)) :
    ∃ all, readItems? items parts (items.flatMap (writtenItem time zone)) = some (all, []) ∧
      parts.IsAmong all ∧ all.IsAmong (clockParts time) ∧
      ∀ item ∈ items, all.Knows (clockParts time) item := by
  induction items generalizing parts with
  | nil => exact ⟨parts, rfl, Parts.isAmong_refl parts, among, fun _ member => by cases member⟩
  | cons item rest inductionHypothesis =>
    obtain ⟨here, later⟩ := List.forall_mem_cons.mp each
    obtain ⟨next, read, grows, amongNext, known⟩ := here parts among
    obtain ⟨all, readLater, growsLater, amongAll, knownLater⟩ :=
      inductionHypothesis later amongNext
    refine ⟨all, ?_, grows.trans growsLater, amongAll,
      List.forall_mem_cons.mpr ⟨known.grows growsLater amongAll, knownLater⟩⟩
    rw [readItems?_cons, List.flatMap_cons, read]
    exact readLater

theorem writtenItems_z (rest : List PatternItem) :
    writtenItems false (.literal ['z'] :: rest) = .literal ['z'] :: writtenItems false rest := rfl

/-- Where a number sign is lost, reading stops: it expects the number sign and finds a z. -/
theorem readItems?_lost
    (each : ∀ item ∈ items, ∀ parts, parts.IsAmong (clockParts time) →
      ReadsBack time zone parts item) (full : ∀ item ∈ items, inFull item = item)
    {behindPercent : Bool} (lost : writtenItems behindPercent items ≠ items)
    (among : parts.IsAmong (clockParts time)) :
    readItems? items parts ((writtenItems behindPercent items).flatMap (writtenItem time zone)) =
      none := by
  induction items generalizing parts behindPercent with
  | nil => exact absurd rfl lost
  | cons item rest inductionHypothesis =>
    obtain ⟨here, later⟩ := List.forall_mem_cons.mp each
    obtain ⟨sameHere, sameLater⟩ := List.forall_mem_cons.mp full
    rw [writtenItems] at lost ⊢
    split at lost
    · next dropped =>
      rw [if_pos dropped]
      simp only [Bool.and_eq_true, beq_iff_eq] at dropped
      obtain ⟨⟨-, rfl⟩, z⟩ := dropped
      obtain ⟨behind, rfl⟩ := List.head?_eq_some_iff.mp z
      rw [writtenItems_z, readItems?_cons, List.flatMap_cons]
      rfl
    · next kept =>
      obtain ⟨next, read, -, amongNext, -⟩ := here parts among
      have lostLater : writtenItems (item == .literal ['%']) rest ≠ rest :=
        fun same => lost (by rw [sameHere, same])
      rw [if_neg kept, readItems?_cons, List.flatMap_cons, sameHere, read]
      exact inductionHypothesis later sameLater lostLater amongNext

end Items

/-- Reading with the pattern of a layout is reading with the items of its pieces. -/
theorem Scans.readItems? {text : List Char} {pieces : List Piece} (scans : Scans text pieces)
    (parts : Parts) (value : List Char) :
    Calendar.readItems? (patternItems 0 (patternFrom 0 text)) parts value =
      Calendar.readItems? (pieces.map Piece.item) parts value := by
  induction scans generalizing parts value with
  | nil => rfl
  | part found _ inductionHypothesis =>
    obtain ⟨directive, listed, pattern⟩ := patternFrom_of_isLongest found
    rw [pattern, patternItems_directive listed, List.map_cons, readItems?_cons, readItems?_cons]
    exact congrArg _ (funext fun taken => inductionHypothesis taken.1 taken.2)
  | @char c rest pieces absent _ inductionHypothesis =>
    have same :
        Calendar.readItems? (charItem c :: patternItems 0 (patternFrom 0 rest)) parts value =
          Calendar.readItems? ((Piece.char c :: pieces).map Piece.item) parts value := by
      rw [List.map_cons, readItems?_cons, readItems?_cons]
      exact congrArg _ (funext fun taken => inductionHypothesis taken.1 taken.2)
    rw [patternFrom_of_absent absent, ← same]
    by_cases percent : c = '%'
    · subst percent
      rfl
    · have single : copied c = [c] := if_neg (by simpa using percent)
      have ordinary : patternItems 0 (c :: patternFrom 0 rest) =
          consChar c (patternItems 0 (patternFrom 0 rest)) := if_neg (by simpa using percent)
      rw [single, List.singleton_append, ordinary, readItems?_consChar]

/-! ### Where a number sign is lost -/

theorem length_writtenItems_le (behindPercent : Bool) (items : List PatternItem) :
    (writtenItems behindPercent items).length ≤ items.length := by
  induction items generalizing behindPercent with
  | nil => exact Nat.le_refl _
  | cons item rest inductionHypothesis =>
    rw [writtenItems]
    split
    · exact Nat.le_succ_of_le (inductionHypothesis false)
    · exact Nat.succ_le_succ (inductionHypothesis _)

/-- Parts have no percent sign, and do not begin with a number sign or a z. -/
theorem part_begins {part : String} (listed : part ∈ parts) :
    '%' ∉ part.toList ∧ ∃ c more, part.toList = c :: more ∧ c ≠ '#' ∧ c ≠ 'z' := by
  have each : ∀ part ∈ parts, '%' ∉ part.toList ∧ part.toList ≠ [] ∧
      part.toList.head? ≠ some '#' ∧ part.toList.head? ≠ some 'z' := by decide
  obtain ⟨noPercent, present, noSign, noZ⟩ := each part listed
  obtain ⟨c, more, text⟩ := List.exists_cons_of_ne_nil present
  rw [text] at noSign noZ
  exact ⟨noPercent, c, more, text, fun same => noSign (same ▸ rfl), fun same => noZ (same ▸ rfl)⟩

variable {text : List Char} {pieces : List Piece}

theorem Scans.head?_z (scans : Scans text pieces) :
    text.head? = some 'z' ↔ (pieces.map Piece.item).head? = some (.literal ['z']) := by
  cases scans with
  | nil => simp
  | part found _ =>
    obtain ⟨-, c, more, letters, -, noZ⟩ := part_begins found.listed
    have isDirective := isDirective_itemOf found.listed
    rw [found.begins, letters]
    refine iff_of_false (fun same => noZ (Option.some.inj same)) fun same => ?_
    have literal : itemOf _ = .literal ['z'] := Option.some.inj same
    rw [literal] at isDirective
    cases isDirective
  | char _ _ =>
    have solid : Text.isBlank 'z' = false := by decide
    simp [Piece.item, charItem_eq_literal solid]

/-- Nothing is lost unless a number sign stands between a percent sign and a z. -/
theorem Scans.writtenItems_eq_iff (scans : Scans text pieces)
    (full : ∀ item ∈ pieces.map Piece.item, inFull item = item) :
    (writtenItems false (pieces.map Piece.item) = pieces.map Piece.item ↔
        ¬ ['%', '#', 'z'] <:+: text) ∧
      (writtenItems true (pieces.map Piece.item) = pieces.map Piece.item ↔
        ¬ ['#', 'z'] <+: text ∧ ¬ ['%', '#', 'z'] <:+: text) := by
  -- both starts at once: behind a percent sign the number sign may come first in the rest
  induction scans with
  | nil => simp [writtenItems]
  | @part part _ rest pieces found _ inductionHypothesis =>
    rw [List.map_cons] at full
    obtain ⟨sameHere, sameLater⟩ := List.forall_mem_cons.mp full
    obtain ⟨noPercent, c, more, letters, noSign, -⟩ := part_begins found.listed
    have items : ∀ behindPercent, writtenItems behindPercent
          ((Piece.part part :: pieces).map Piece.item) =
        itemOf part :: writtenItems false (pieces.map Piece.item) := by
      intro behindPercent
      rw [List.map_cons, Piece.item, writtenItems_directive (isDirective_itemOf found.listed)]
      exact congrArg (· :: _) sameHere
    have noPrefix : ¬ ['#', 'z'] <+: part.toList ++ rest := by
      rw [letters]
      exact fun begins => noSign (List.cons_prefix_cons.mp begins).1.symm
    rw [items, items, List.map_cons, Piece.item, List.cons.injEq, found.begins,
      Text.infix_append_of_not_mem noPercent, and_iff_right rfl, and_iff_right noPrefix]
    exact ⟨(inductionHypothesis sameLater).1, (inductionHypothesis sameLater).1⟩
  | @char c rest pieces absent later inductionHypothesis =>
    rw [List.map_cons] at full
    obtain ⟨-, sameLater⟩ := List.forall_mem_cons.mp full
    obtain ⟨fromStart, behindPercent⟩ := inductionHypothesis sameLater
    have occurs : ['%', '#', 'z'] <:+: c :: rest ↔
        c = '%' ∧ ['#', 'z'] <+: rest ∨ ['%', '#', 'z'] <:+: rest := by
      rw [List.infix_cons_iff, List.cons_prefix_cons, eq_comm]
    have kept : charItem c :: writtenItems (decide (c = '%')) (pieces.map Piece.item) =
        charItem c :: pieces.map Piece.item ↔ ¬ ['%', '#', 'z'] <:+: c :: rest := by
      rw [List.cons.injEq, and_iff_right rfl, occurs, not_or]
      by_cases percent : c = '%'
      · subst percent
        rw [not_and, forall_prop_of_true rfl]
        exact behindPercent
      · rw [decide_eq_false percent, fromStart, and_iff_right fun both => percent both.1]
    have lost : c = '#' ∧ (pieces.map Piece.item).head? = some (.literal ['z']) ↔
        ['#', 'z'] <+: c :: rest := by
      rw [← later.head?_z, List.cons_prefix_cons, List.singleton_prefix_iff_head?_eq_some, eq_comm]
    rw [List.map_cons, Piece.item, writtenItems_charItem, writtenItems_charItem_behind]
    refine ⟨kept, ?_⟩
    by_cases isLost : ['#', 'z'] <+: c :: rest
    · rw [if_pos (lost.mpr isLost)]
      refine iff_of_false (fun same => ?_) fun both => both.1 isLost
      have shorter := length_writtenItems_le false (pieces.map Piece.item)
      rw [same, List.length_cons] at shorter
      omega
    · rw [if_neg (mt lost.mp isLost), kept, and_iff_right isLost]

/-! ### Layouts to the second -/

theorem Scans.mem_of_char (scans : Scans text pieces) {c : Char} (member : .char c ∈ pieces) :
    c ∈ text := by
  induction scans with
  | nil => cases member
  | part found _ inductionHypothesis =>
    rcases List.mem_cons.mp member with same | later
    · cases same
    · exact found.begins ▸ List.mem_append_right _ (inductionHypothesis later)
  | char _ _ inductionHypothesis =>
    rcases List.mem_cons.mp member with same | later
    · cases same
      exact List.mem_cons_self
    · exact List.mem_cons_of_mem _ (inductionHypothesis later)

theorem Scans.mem_parts (scans : Scans text pieces) {part : String}
    (member : .part part ∈ pieces) : part ∈ parts := by
  induction scans with
  | nil => cases member
  | part found _ inductionHypothesis =>
    rcases List.mem_cons.mp member with same | later
    · cases same
      exact found.listed
    · exact inductionHypothesis later
  | char _ _ inductionHypothesis =>
    rcases List.mem_cons.mp member with same | later
    · cases same
    · exact inductionHypothesis later

/-- The part of the reference time that a piece is. -/
def Piece.part? : Piece → Option String
  | .part name => some name
  | .char _ => none

/-- The parts of the reference time in a layout, one after the other. -/
def usedParts (layout : String) : List String :=
  (piecesOf layout).filterMap Piece.part?

theorem mem_usedParts {layout part : String} :
    part ∈ usedParts layout ↔ .part part ∈ piecesOf layout := by
  rw [usedParts, List.mem_filterMap]
  constructor
  · rintro ⟨piece, member, isPart⟩
    cases piece with
    | part other =>
      cases isPart
      exact member
    | char c => cases isPart
  · exact fun member => ⟨_, member, rfl⟩

theorem mem_parts_of_usedParts {layout part : String} (used : part ∈ usedParts layout) :
    part ∈ parts :=
  (scans_piecesOf layout).mem_parts (mem_usedParts.mp used)

/-- A layout with the year, the month, the day, the hour, the minute and the second, each of them in
any place and once or more often, maybe with the day of the week, and with nothing else but
characters that are not blank. -/
structure ShowsSeconds (layout : String) : Prop where
  only : ∀ part ∈ usedParts layout, part ∈ wholeParts
  year : "2006" ∈ usedParts layout
  month : "01" ∈ usedParts layout ∨ "Jan" ∈ usedParts layout ∨ "January" ∈ usedParts layout
  day : "02" ∈ usedParts layout
  hour : "15" ∈ usedParts layout
  minute : "04" ∈ usedParts layout
  second : "05" ∈ usedParts layout
  solid : ∀ c ∈ layout.toList, Text.isBlank c = false

theorem solid_of_all {text : List Char} (each : (text.all fun c => !Text.isBlank c) = true) :
    ∀ c ∈ text, Text.isBlank c = false := by
  intro c member
  have solid := List.all_eq_true.mp each c member
  rwa [Bool.not_eq_true'] at solid

variable {layout : String} {time : Timestamp}

theorem ShowsSeconds.readsBack (whole : ShowsSeconds layout) (usual : time.IsUsual)
    (zone : String) : ∀ item ∈ (piecesOf layout).map Piece.item, ∀ parts,
      parts.IsAmong (clockParts time) → ReadsBack time zone parts item := by
  intro item member parts among
  obtain ⟨piece, inPieces, rfl⟩ := List.mem_map.mp member
  cases piece with
  | part part =>
    exact readsBack_itemOf usual zone (whole.only part (mem_usedParts.mpr inPieces)) among
  | char c =>
    have inLayout := (scans_piecesOf layout).mem_of_char inPieces
    exact readsBack_charItem (whole.solid c inLayout) time zone among

theorem ShowsSeconds.inFull_item (whole : ShowsSeconds layout) :
    ∀ item ∈ (piecesOf layout).map Piece.item, inFull item = item := by
  have each : ∀ part ∈ wholeParts, inFull (itemOf part) = itemOf part := by decide
  intro item member
  obtain ⟨piece, inPieces, rfl⟩ := List.mem_map.mp member
  cases piece with
  | part part => exact each part (whole.only part (mem_usedParts.mpr inPieces))
  | char c => exact inFull_charItem c

/-- Parts that are among those of a clock make its date and its time of day, if all is known that a
layout to the second shows. -/
theorem ShowsSeconds.date?_and_time? (whole : ShowsSeconds layout) (usual : time.IsUsual)
    {all : Parts} (among : all.IsAmong (clockParts time))
    (known : ∀ item ∈ (piecesOf layout).map Piece.item, all.Knows (clockParts time) item) :
    all.date? = some time.date ∧
      all.time? = (shownParts time.date time.hour time.minute time.second time.offset).time? := by
  have of : ∀ {part : String}, part ∈ usedParts layout →
      all.Knows (clockParts time) (itemOf part) :=
    fun used => known _ (List.mem_map_of_mem (mem_usedParts.mp used))
  have year : all.year = some time.date.year := of whole.year
  have month : all.month = some time.date.month := by
    rcases whole.month with number | short | long
    · exact of number
    · exact of short
    · exact of long
  have day : all.day = some time.date.day := of whole.day
  obtain ⟨half, hourOfHalf⟩ : all.half = some (time.hour / 12) ∧
      all.hourOfHalf = some (time.hour % 12) := of whole.hour
  have minute : all.minute = some time.minute := of whole.minute
  have second : all.second = some time.second := of whole.second
  have yearOfCentury : all.yearOfCentury = none := among.yearOfCentury.elim id id
  have ordinal : all.ordinal = none := among.ordinal.elim id id
  have nanos : all.nanos = none := among.nanos.elim id id
  have weekday : Parts.fits all.weekday time.date.weekday = true := by
    rcases among.weekday with none | same
    · rw [none]
      rfl
    · rw [same]
      exact decide_eq_true rfl
  constructor
  · simp only [Parts.date?, Parts.fullYear?, year, yearOfCentury, month, day, ordinal,
      Option.bind_eq_bind, Option.bind_some, Date.of?_of_isValid usual.isValid_date, weekday]
    rfl
  · simp only [Parts.time?, half, hourOfHalf, minute, second, nanos]
    rfl

/-- A layout that shows the date and the time of day to the second reads what it writes as the
instant that was written, to the second and in UTC; unless it has a number sign between a percent
sign and a z: then it never reads what it writes. -/
theorem read?_write_toTheSecond (whole : ShowsSeconds layout) {instant : Instant}
    (usual : (⟨instant, 0⟩ : Timestamp).IsUsual) :
    read? (write instant layout) (pattern layout) =
      if ['%', '#', 'z'] <:+: layout.toList then none
      else some ⟨{ instant with nanos := 0 }, 0⟩ := by
  have among := Parts.isAmong_empty (clockParts ⟨instant, 0⟩)
  have scans := scans_piecesOf layout
  have each := whole.readsBack usual "UTC"
  have text : (write instant layout).toList =
      (writtenItems false ((piecesOf layout).map Piece.item)).flatMap
        (writtenItem ⟨instant, 0⟩ "UTC") := by
    rw [write, writeWith, String.toList_ofList, ← flatMap_writtenItem_spread,
      spread_itemsOf_writingPattern scans]
  have read : ∀ value, readParts? (itemsOf (pattern layout)) value =
      Calendar.readItems? ((piecesOf layout).map Piece.item) Parts.empty value >>= fun taken =>
        if taken.2.isEmpty then some taken.1 else none := by
    intro value
    rw [readParts?_eq, itemsOf, pattern, String.toList_ofList, scans.readItems?]
  have lost := (scans.writtenItems_eq_iff whole.inFull_item).1
  by_cases sign : ['%', '#', 'z'] <:+: layout.toList
  · have stops := readItems?_lost each whole.inFull_item (mt lost.mp (not_not.mpr sign)) among
    rw [if_pos sign, read?, readLoosely?, text, read, stops]
    rfl
  · obtain ⟨all, collects, -, amongAll, known⟩ := readItems?_written each among
    obtain ⟨date, clock⟩ := whole.date?_and_time? usual amongAll known
    obtain ⟨shown, isTime, there⟩ := usual.isKept.instantAt_shown
    have readAll : readParts? (itemsOf (pattern layout)) (write instant layout).toList =
        some all := by
      rw [text, lost.mpr sign, read, collects]
      rfl
    have second : instant.wholeSecond = { instant with nanos := 0 } := if_pos usual.nanos
    have noOffset : all.offset = none := amongAll.offset.elim id id
    rw [if_neg sign, ← second, ← there]
    exact readLoosely?_of_clock readAll noOffset date (clock.trans isTime)

/-- Noon of 29 February 2016, and half a second. -/
def leapNoon : Instant := ⟨1456747200, 500000000⟩

theorem isUsual_leapNoon : (⟨leapNoon, 0⟩ : Timestamp).IsUsual :=
  ⟨by decide, by decide, by decide, rfl⟩

theorem read?_write_toTheSecond_leapNoon : ShowsSeconds "Monday,02-January-2006T15:04:05%" ∧
    (⟨leapNoon, 0⟩ : Timestamp).IsUsual ∧
    read? (write leapNoon "Monday,02-January-2006T15:04:05%")
        (pattern "Monday,02-January-2006T15:04:05%") = some ⟨⟨1456747200, 0⟩, 0⟩ := by
  have used : usedParts "Monday,02-January-2006T15:04:05%" =
      ["Monday", "02", "January", "2006", "15", "04", "05"] := by decide +kernel
  have whole : ShowsSeconds "Monday,02-January-2006T15:04:05%" := by
    constructor
    case solid => exact solid_of_all (by decide +kernel)
    all_goals rw [used]; decide
  refine ⟨whole, isUsual_leapNoon, ?_⟩
  rw [read?_write_toTheSecond whole isUsual_leapNoon]
  decide +kernel

/-- Not every layout to the second is read back. -/
theorem read?_write_losesSign : ShowsSeconds "2006-01-02T15:04:05%#z" ∧
    (⟨leapNoon, 0⟩ : Timestamp).IsUsual ∧
    write leapNoon "2006-01-02T15:04:05%#z" = "2016-02-29T12:00:00%z" ∧
    read? (write leapNoon "2006-01-02T15:04:05%#z") (pattern "2006-01-02T15:04:05%#z") = none := by
  have used : usedParts "2006-01-02T15:04:05%#z" = ["2006", "01", "02", "15", "04", "05"] := by
    decide +kernel
  refine ⟨?_, isUsual_leapNoon, by decide +kernel, by decide +kernel⟩
  constructor
  case solid => exact solid_of_all (by decide +kernel)
  all_goals rw [used]; decide

end Layout

end Metasearch
