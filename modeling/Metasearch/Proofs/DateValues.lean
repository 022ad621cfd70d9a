/-
This file settles what becomes of the dates of a row. A filter for dates writes the point in time
that it read in a layout, or that a phrase led to, in the canonical form. Such a point in time is
always on a day of the calendar: one that was read is checked, and every step of a phrase is. So
what the filter wrote reads back to the second, and an item takes it as its date without a
warning.
-/
import Metasearch.Proofs.ReadTimestamps
import Metasearch.Proofs.RowValues

namespace Metasearch

/-! ### Steps back in time -/

namespace Calendar.Instant

variable {instant next : Instant}

theorem IsKept.of_checked (nanos : instant.nanos < 2 * nanosPerSecond)
    (found : instant.checked = some next) : next.IsKept := by
  unfold checked at found
  split at found
  · next inRange =>
    cases found
    exact ⟨nanos, inRange⟩
  · cases found

/-- However far a span leads, the part of a second stays one, within a leap second or not. -/
theorem plus_nanos (bound : instant.nanos < 2 * nanosPerSecond) (span : Span) :
    (instant.plus span).nanos < 2 * nanosPerSecond := by
  have bound : instant.nanos < 2000000000 := bound
  have small : Int.tmod span 1000000000 < 1000000000 := Int.tmod_lt_of_pos span (by decide)
  unfold plus
  dsimp only
  split
  · next stays =>
    -- Within the leap second, what is added does not lead out of it.
    simp only [Bool.and_eq_true, Bool.not_eq_true', Bool.or_eq_false_iff, decide_eq_true_eq,
      Bool.and_eq_false_iff, decide_eq_false_iff_not] at stays
    obtain ⟨⟨-, -, notOver⟩, -⟩ := stays
    unfold nanosPerSecond at notOver ⊢
    show (_ : Int).toNat < _
    omega
  · unfold nanosPerSecond
    show (_ % _ : Int).toNat < _
    omega

theorem IsKept.plus? (kept : instant.IsKept) {span : Span}
    (found : instant.plus? span = some next) : next.IsKept :=
  .of_checked (plus_nanos kept.nanos span) found

theorem IsKept.minusDays? (kept : instant.IsKept) {days : Nat}
    (found : instant.minusDays? days = some next) : next.IsKept :=
  @of_checked (instant.onDay (instant.dayNumber - days)) _ kept.nanos found

theorem IsKept.minusMonths? (kept : instant.IsKept) {months : Nat}
    (found : instant.minusMonths? months = some next) : next.IsKept := by
  obtain ⟨date, exists?, rfl⟩ := Option.map_eq_some_iff.mp found
  obtain ⟨-, valid⟩ := Date.of?_eq_some exists?
  obtain ⟨first, last⟩ := Date.dayNumber_inRange valid
  refine ⟨kept.nanos, inRange_iff.mpr ?_⟩
  rw [dayNumber_onDay]
  exact ⟨first, last⟩

end Calendar.Instant

namespace RelativeTime

open Calendar (Instant)
open Calendar.Parts (some_of_bind)

variable {instant next : Instant}

theorem isKept_minusSeconds? (kept : instant.IsKept) {seconds : Nat}
    (found : minusSeconds? instant seconds = some next) : next.IsKept :=
  kept.plus? found

theorem isKept_minusShareOfMonths? (kept : instant.IsKept) {months : Nat}
    {fraction : Number.Binary64}
    (found : minusShareOfMonths? instant months fraction = some next) : next.IsKept := by
  unfold minusShareOfMonths? at found
  split at found
  · cases found
    exact kept
  · obtain ⟨earlier, -, found⟩ := some_of_bind found
    exact kept.plus? found

/-- Every step of a phrase leads to a day of the calendar, or nowhere. -/
theorem isKept_step? (kept : instant.IsKept) {quantity : Quantity} {unit : TimeUnit}
    (found : step? instant quantity unit = some next) : next.IsKept := by
  cases unit with
  | year | month =>
    obtain ⟨between, first, found⟩ := some_of_bind found
    exact isKept_minusShareOfMonths? (kept.minusMonths? first) found
  | week =>
    obtain ⟨between, first, found⟩ := some_of_bind found
    split at found
    · cases found
      exact kept.minusDays? first
    · exact (kept.minusDays? first).plus? found
  | day =>
    obtain ⟨between, first, found⟩ := some_of_bind found
    split at found
    · cases found
      exact kept.minusDays? first
    · exact isKept_minusSeconds? (kept.minusDays? first) found
  | hour | minute =>
    obtain ⟨between, first, found⟩ := some_of_bind found
    split at found
    · cases found
      exact isKept_minusSeconds? kept first
    · exact isKept_minusSeconds? (isKept_minusSeconds? kept first) found
  | second => exact isKept_minusSeconds? kept found

theorem isKept_goBack (kept : instant.IsKept) {tokens : List Token}
    (reached : goBack instant tokens = .ok next) : next.IsKept := by
  fun_induction goBack instant tokens with
  | case1 instant =>
    cases reached
    exact kept
  | case2 _ _ _ _ inductionHypothesis => exact inductionHypothesis kept reached
  | case3 | case4 | case5 | case6 => cases reached
  | case7 instant _ _ _ _ _ _ _ _ between stepped inductionHypothesis =>
    exact inductionHypothesis (isKept_step? kept stepped) reached

theorem isKept_read {phrase : String} {now : Instant} (kept : now.IsKept)
    (reached : read phrase now = .ok next) : next.IsKept :=
  isKept_goBack kept reached

end RelativeTime

/-! ### Filters -/

namespace Filter

open Calendar (Timestamp readCanonical? writeCanonical)

/-- The filter writes dates. -/
def WritesDates (filter : Filter) : Prop :=
  filter = .timeAgo ∨ ∃ layout, filter = .dateParse layout

/-- The point in time that a filter for dates makes of a text. -/
def timeOf? (context : Context) (filter : Filter) (value : String) : Option Timestamp :=
  match filter with
  | .dateParse layout => Layout.read? value (Layout.pattern layout)
  | .timeAgo => (RelativeTime.read value context.now).toOption.map fun instant => ⟨instant, 0⟩
  | _ => none

/-- A filter for dates writes its point in time in the canonical form, and one that is kept. -/
theorem isKept_timeOf? {context : Context} (kept : context.now.IsKept) {filter : Filter}
    (dates : filter.WritesDates) {value text : String}
    (filtered : filter.apply context value = .ok text) :
    ∃ time, filter.timeOf? context value = some time ∧ time.IsKept ∧ text = writeCanonical time := by
  rcases dates with rfl | ⟨layout, rfl⟩
  · obtain ⟨instant, reached, written⟩ := map_eq_ok.mp filtered
    have reached := mapError_eq_ok.mp reached
    have keptThere := RelativeTime.isKept_read kept reached
    refine ⟨⟨instant, 0⟩, by rw [timeOf?, reached]; rfl, ?_, written.symm⟩
    obtain ⟨first, last⟩ := (Bool.and_eq_true _ _).mp keptThere.inRange
    have day : (⟨instant, 0⟩ : Timestamp).localSeconds / Calendar.secondsPerDay =
        instant.dayNumber := by
      rw [Timestamp.localSeconds, Int.add_zero]
      rfl
    have short : (0 : Int).natAbs < Calendar.secondsPerDay := by decide
    exact ⟨keptThere, rfl, short, day ▸ of_decide_eq_true first,
      day ▸ of_decide_eq_true last⟩
  · rw [apply] at filtered
    split at filtered
    · next time read =>
      exact ⟨time, read, Calendar.isKept_readLoosely? read, (Except.ok.inj filtered).symm⟩
    · cases filtered

end Filter

/-! ### Items -/

namespace Extraction

open Calendar (Timestamp readCanonical?)

/-- Rows with the text as their date, among values of different names, have items with that date
and no warning about it; and they have items, if there is nothing unknown among their values. -/
def GivesDate (text : String) (time : Timestamp) : Prop :=
  ∀ site row base values, (values.map Prod.fst).Nodup → ("date", text) ∈ values →
    (∀ item warnings, buildItem site row values base = .ok (item, warnings) →
      item.publishDate = some time ∧ ∀ warning ∈ warnings, warning.field ≠ "date") ∧
    ((∀ value ∈ values, value.1 ∈ Definition.resultFields) →
      ∃ made, buildItem site row values base = .ok made)

theorem givesDate_of_read {text : String} {time : Timestamp}
    (read : readCanonical? text = some time) : GivesDate text time := by
  intro site row base values named member
  refine ⟨fun item warnings built => ⟨putValues_publishDate named member read built, ?_⟩,
    fun known => putValues_ok base row (Item.ofSite site) known⟩
  intro warning among about
  rw [putValues_warnings built] at among
  obtain ⟨field, value, warned⟩ := List.mem_filterMap.mp among
  obtain ⟨reason, refused, rfl⟩ := Option.map_eq_some_iff.mp warned
  have same := List.inj_on_of_nodup_map named value member about
  rw [same, refusal?, readTime, read] at refused
  cases refused

end Extraction

namespace Filter

open Calendar (Timestamp readCanonical? writeCanonical nanosPerSecond)
open Extraction (GivesDate)

/-- The canonical form of every point in time that is kept reads back, with the same offset and to
the second: only the part of the second is dropped, unless there is a leap second within a minute.
So does what a filter for dates writes, whatever its layout, the text and the present instant; and
an item takes it as its date. -/
theorem canonical_readsBack :
    (∀ time : Timestamp, time.IsKept →
      readCanonical? (writeCanonical time) = some ⟨time.instant.wholeSecond, time.offset⟩ ∧
      ((nanosPerSecond ≤ time.instant.nanos → time.instant.seconds % 60 = 59) →
        time.instant.wholeSecond = { time.instant with
          nanos := time.instant.nanos - time.instant.nanos % nanosPerSecond })) ∧
    ∀ (context : Context) (filter : Filter) (value text : String), context.now.IsKept →
      filter.WritesDates → filter.apply context value = .ok text →
      ∃ time, filter.timeOf? context value = some time ∧ text = writeCanonical time ∧
        readCanonical? text = some ⟨time.instant.wholeSecond, time.offset⟩ ∧
        GivesDate text ⟨time.instant.wholeSecond, time.offset⟩ := by
  refine ⟨fun time kept =>
    ⟨kept.readCanonical?_writeCanonical, Calendar.Instant.wholeSecond_of_usual kept.instant⟩, ?_⟩
  intro context filter value text now dates filtered
  obtain ⟨time, computed, kept, rfl⟩ := isKept_timeOf? now dates filtered
  have read := kept.readCanonical?_writeCanonical
  exact ⟨time, computed, rfl, read, Extraction.givesDate_of_read read⟩

/-! ### A leap second -/

/-- In the middle of the leap second at the end of 2016. -/
def leapSecond : Calendar.Instant := ⟨1483228799, 1500000000⟩

theorem isKept_leapSecond : leapSecond.IsKept := ⟨by decide, by decide⟩

/-- The leap second, half past five hours to the east. -/
def leapMorning : Timestamp := ⟨leapSecond, 19800⟩

theorem isKept_leapMorning : leapMorning.IsKept :=
  ⟨isKept_leapSecond, by decide, by decide, by decide, by decide⟩

/-- A site without categories, at the leap second. -/
def leapContext : Context := ⟨.empty, leapSecond⟩

theorem apply_timeAgo_leapContext :
    Filter.timeAgo.apply leapContext "1 day ago" = .ok "Fri, 30 Dec 2016 23:59:60 +0000" := by
  decide +kernel

theorem canonical_readsBack_leapSecond :
    leapMorning.IsKept ∧ writeCanonical leapMorning = "Sun, 01 Jan 2017 05:29:60 +0530" ∧
      readCanonical? (writeCanonical leapMorning) =
        some ⟨⟨1483228799, nanosPerSecond⟩, 19800⟩ ∧
      leapContext.now.IsKept ∧ WritesDates .timeAgo ∧
      Filter.timeAgo.apply leapContext "1 day ago" = .ok "Fri, 30 Dec 2016 23:59:60 +0000" ∧
      ∃ time, Filter.timeAgo.timeOf? leapContext "1 day ago" = some time ∧
        GivesDate "Fri, 30 Dec 2016 23:59:60 +0000" ⟨time.instant.wholeSecond, time.offset⟩ := by
  obtain ⟨readsBack, filters⟩ := canonical_readsBack
  obtain ⟨read, usual⟩ := readsBack leapMorning isKept_leapMorning
  obtain ⟨time, computed, -, -, gives⟩ := filters leapContext .timeAgo "1 day ago" _
    isKept_leapSecond (.inl rfl) apply_timeAgo_leapContext
  refine ⟨isKept_leapMorning, by decide +kernel, ?_, isKept_leapSecond, .inl rfl,
    apply_timeAgo_leapContext, time, computed, gives⟩
  rw [read, usual fun _ => rfl]
  rfl

end Filter

end Metasearch
