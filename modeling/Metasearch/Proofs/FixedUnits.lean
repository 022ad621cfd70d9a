/-
This file settles what amounts of units with a fixed length come to, from weeks down to seconds,
however they are mixed. Each unit is taken off in its own way: days by the number of the day, all
smaller ones by the second. But outside a leap second each way takes off whole seconds and leaves
the part of the second as it is.

Every step goes back. So no instant on the way is before the last one: if that one is within the
calendar, so is each on the way; and if it is not, then some step leaves the calendar, which is the
only thing that can go wrong in a step. Hence nothing but the sum counts, and the order does not.
-/
import Mathlib.Algebra.GroupWithZero.Nat
import Metasearch.Proofs.PhraseWords

namespace Metasearch

/-! ### Whole seconds -/

namespace Calendar.Instant

/-- The instant some seconds earlier, wherever that is. -/
def earlierBy (instant : Instant) (seconds : Nat) : Instant :=
  { instant with seconds := instant.seconds - seconds }

/-- Midnight at the beginning of the first day of the calendar. -/
def earliest : Instant := ⟨firstDay * secondsPerDay, 0⟩

variable {instant : Instant}

theorem earlierBy_zero (instant : Instant) : instant.earlierBy 0 = instant := by
  rw [earlierBy, Int.natCast_zero, Int.sub_zero]

theorem earlierBy_earlierBy (instant : Instant) (first second : Nat) :
    (instant.earlierBy first).earlierBy second = instant.earlierBy (first + second) := by
  unfold earlierBy
  rw [mk.injEq]
  simp only [and_true]
  omega

/-- Outside a leap second, whole seconds are taken off as they are. -/
theorem plus_ofSeconds (outside : instant.nanos < nanosPerSecond) (seconds : Nat) :
    instant.plus (Span.ofSeconds (-(seconds : Int))) = instant.earlierBy seconds := by
  have whole : Int.tdiv (Span.ofSeconds (-(seconds : Int))) nanosPerSecond = -(seconds : Int) :=
    Int.mul_tdiv_cancel _ (by decide)
  have nothing : Int.tmod (Span.ofSeconds (-(seconds : Int))) nanosPerSecond = 0 :=
    Int.mul_tmod_left _ _
  have noLeap : decide (nanosPerSecond ≤ instant.nanos) = false := by simpa using outside
  unfold plus
  simp only [whole, nothing, noLeap, Bool.false_and, Bool.false_eq_true, if_false, Int.add_zero]
  unfold earlierBy
  unfold nanosPerSecond at outside ⊢
  rw [mk.injEq]
  omega

/-- Days are taken off with all their seconds. -/
theorem onDay_before (instant : Instant) (days : Nat) :
    instant.onDay (instant.dayNumber - days) = instant.earlierBy (days * 86400) := by
  unfold onDay earlierBy dayNumber timeOfDay secondsPerDay
  rw [mk.injEq]
  omega

/-- An earlier instant is within the calendar as long as it is not before the earliest one. -/
theorem inRange_earlierBy (inRange : instant.inRange = true) (seconds : Nat) :
    (instant.earlierBy seconds).inRange = true ↔
      earliest.seconds ≤ (instant.earlierBy seconds).seconds := by
  have last := (inRange_iff.mp inRange).2
  rw [inRange_iff]
  unfold earlierBy earliest
  unfold dayNumber secondsPerDay at last ⊢
  simp only
  omega

end Calendar.Instant

namespace RelativeTime

open Calendar (Instant)
open Calendar.Instant (earliest plus_ofSeconds onDay_before inRange_earlierBy)
open Number (Binary64)

variable {now : Instant}

/-! ### Lengths -/

/-- The seconds of a unit, if it has as many every time. -/
def TimeUnit.length? : TimeUnit → Option Nat
  | .year | .month => none
  | .week => some (7 * 86400)
  | .day => some 86400
  | .hour => some 3600
  | .minute => some 60
  | .second => some 1

/-- How often the unit of an amount counts: a week once, whatever number is in front of it. -/
def Amount.times (amount : Amount) : Nat :=
  if amount.unit = .week then 1 else amount.count

/-- The seconds of an amount, if its unit has a fixed length. -/
def Amount.seconds? (amount : Amount) : Option Nat :=
  amount.unit.length?.map fun length => amount.times * length

/-- An amount of a unit with a fixed length is its seconds earlier. -/
theorem step?_of_seconds (outside : now.nanos < Calendar.nanosPerSecond) {amount : Amount}
    {seconds : Nat} (fixed : amount.seconds? = some seconds) :
    step? now ⟨amount.count, Binary64.zero⟩ amount.unit = (now.earlierBy seconds).checked := by
  have noFraction : Binary64.zero.isZero = true := rfl
  have inSeconds : ∀ count, minusSeconds? now count = (now.earlierBy count).checked := by
    intro count
    rw [minusSeconds?, Instant.plus?, plus_ofSeconds outside]
  have inDays : ∀ count, now.minusDays? count = (now.earlierBy (count * 86400)).checked := by
    intro count
    rw [Instant.minusDays?, onDay_before]
  obtain ⟨count, unit, width, plural, fits⟩ := amount
  simp only [Amount.seconds?, Amount.times, Option.map_eq_some_iff] at fixed
  obtain ⟨length, hasLength, rfl⟩ := fixed
  cases unit <;> cases hasLength <;>
    simp only [step?, noFraction, if_true, inSeconds, inDays, reduceCtorEq, if_false, Nat.mul_one,
      Nat.one_mul, Nat.mul_comm, Option.pure_def, Option.bind_eq_bind, Option.bind_fun_some]

/-! ### Phrases -/

/-- A part of a phrase in plain words. -/
inductive Piece
  | filler (word : String) (fills : word ∈ fillers)
  | amount (content : Amount)

def Piece.words : Piece → List String
  | .filler word _ => [word]
  | .amount content => content.words

def Piece.amount? : Piece → Option Amount
  | .filler _ _ => none
  | .amount content => some content

/-- All words of some pieces, with a space between any two. -/
def phrase (pieces : List Piece) : String :=
  " ".intercalate (pieces.flatMap Piece.words)

/-- The amounts among some pieces, in their order. -/
def amountsOf (pieces : List Piece) : List Amount :=
  pieces.filterMap Piece.amount?

/-- The seconds of some amounts together. -/
def secondsOf (amounts : List Amount) : Nat :=
  (amounts.filterMap Amount.seconds?).sum

theorem secondsOf_cons {amount : Amount} {seconds : Nat} (fixed : amount.seconds? = some seconds)
    (rest : List Amount) : secondsOf (amount :: rest) = seconds + secondsOf rest := by
  rw [secondsOf, List.filterMap_cons_some fixed, List.sum_cons]
  rfl

theorem secondsOf_perm {first second : List Amount} (same : first.Perm second) :
    secondsOf first = secondsOf second :=
  (same.filterMap Amount.seconds?).sum_nat

theorem isSome_seconds? {amount : Amount} (fixed : amount.unit.length?.isSome = true) :
    ∃ seconds, amount.seconds? = some seconds := by
  obtain ⟨length, hasLength⟩ := Option.isSome_iff_exists.mp fixed
  exact ⟨amount.times * length, by rw [Amount.seconds?, hasLength]; rfl⟩

/-- The instant so many seconds earlier, unless the calendar begins behind it. -/
def secondsBefore (now : Instant) (seconds : Nat) : Except Reason Instant :=
  if earliest.seconds ≤ (now.earlierBy seconds).seconds then .ok (now.earlierBy seconds)
  else .error .outOfRange

/-- The pieces of amounts and fillers lead as far back as the amounts together. The instant on the
way is within the calendar and outside a leap second, like the first one. -/
theorem goBack_pieces (inRange : now.inRange = true) (outside : now.nanos < Calendar.nanosPerSecond)
    {pieces : List Piece}
    (fixed : ∀ amount ∈ amountsOf pieces, amount.unit.length?.isSome = true) :
    goBack now ((pieces.flatMap Piece.words).flatMap fun word => tokens word.toList) =
      secondsBefore now (secondsOf (amountsOf pieces)) := by
  induction pieces generalizing now with
  | nil =>
    have here := (inRange_earlierBy inRange 0).mp (by rwa [Calendar.Instant.earlierBy_zero])
    show Except.ok now = secondsBefore now 0
    rw [secondsBefore, if_pos here, Calendar.Instant.earlierBy_zero]
  | cons piece rest inductionHypothesis =>
    rw [List.flatMap_cons, List.flatMap_append]
    cases piece with
    | filler word fills =>
      rw [Piece.words, goBack_fillers (List.forall_mem_singleton.mpr fills)]
      exact inductionHypothesis inRange outside fixed
    | amount amount =>
      have amounts : amountsOf (.amount amount :: rest) = amount :: amountsOf rest := rfl
      rw [amounts] at fixed ⊢
      obtain ⟨here, later⟩ := List.forall_mem_cons.mp fixed
      obtain ⟨seconds, taken⟩ := isSome_seconds? here
      rw [Piece.words, goBack_amount, step?_of_seconds outside taken, secondsOf_cons taken]
      by_cases within : (now.earlierBy seconds).inRange = true
      · rw [Instant.checked, if_pos within]
        exact (inductionHypothesis within outside later).trans
          (by rw [secondsBefore, Calendar.Instant.earlierBy_earlierBy, secondsBefore])
      · -- What is behind a step out of the calendar leads no less far back.
        have beyond := mt (inRange_earlierBy inRange seconds).mpr within
        have farther : ¬ earliest.seconds ≤
            (now.earlierBy (seconds + secondsOf (amountsOf rest))).seconds := by
          unfold Calendar.Instant.earlierBy at beyond ⊢
          simp only at beyond ⊢
          omega
        rw [Instant.checked, if_neg within, secondsBefore, if_neg farther, Option.elim_none]

/-- Amounts of units with a fixed length, mixed with fillers in any way, lead back by the exact sum
of their seconds, each week being seven days whatever its number; and the phrase fails only if that
is before the earliest instant of the calendar, and because of that. So phrases with the same
amounts come to the same, in whatever order and with whatever fillers. -/
theorem read_fixedUnits (inRange : now.inRange = true) (outside : now.nanos < Calendar.nanosPerSecond)
    {pieces : List Piece}
    (fixed : ∀ amount ∈ amountsOf pieces, amount.unit.length?.isSome = true) :
    read (phrase pieces) now =
        (if earliest.seconds ≤ now.seconds - secondsOf (amountsOf pieces) then
          .ok { now with seconds := now.seconds - secondsOf (amountsOf pieces) }
        else .error .outOfRange) ∧
      ∀ others : List Piece, (amountsOf others).Perm (amountsOf pieces) →
        read (phrase others) now = read (phrase pieces) now := by
  have sums : ∀ pieces, (∀ amount ∈ amountsOf pieces, amount.unit.length?.isSome = true) →
      read (phrase pieces) now = secondsBefore now (secondsOf (amountsOf pieces)) := by
    intro pieces fixed
    rw [read, phrase, tokens_intercalate, goBack_pieces inRange outside fixed]
  refine ⟨sums pieces fixed, fun others same => ?_⟩
  have fixedToo : ∀ amount ∈ amountsOf others, amount.unit.length?.isSome = true :=
    fun amount member => fixed amount (same.mem_iff.mp member)
  rw [sums others fixedToo, sums pieces fixed, secondsOf_perm same]

/-- As many seconds as fit, and two weeks, and three days. -/
def longAgo : List Piece :=
  [.amount ⟨4294967295, .second, 0, true, by decide⟩, .filler "," (by decide),
    .amount ⟨2, .week, 0, true, by decide⟩, .filler "and" (by decide),
    .amount ⟨3, .day, 3, false, by decide⟩, .filler "ago" (by decide)]

theorem read_fixedUnits_longAgo :
    summerNoon.inRange = true ∧ summerNoon.nanos < Calendar.nanosPerSecond ∧
      (∀ amount ∈ amountsOf longAgo, amount.unit.length?.isSome = true) ∧
      phrase longAgo = "4294967295 seconds , 2 weeks and 003 day ago" ∧
      read (phrase longAgo) summerNoon = .ok ⟨-2829839295, 0⟩ ∧
      phrase longAgo.reverse = "ago 003 day and 2 weeks , 4294967295 seconds" ∧
      read (phrase longAgo.reverse) summerNoon = .ok ⟨-2829839295, 0⟩ := by
  have inRange : summerNoon.inRange = true := by decide
  have outside : summerNoon.nanos < Calendar.nanosPerSecond := by decide
  have fixed : ∀ amount ∈ amountsOf longAgo, amount.unit.length?.isSome = true := by decide
  obtain ⟨sum, anyOrder⟩ := read_fixedUnits inRange outside fixed
  have reached : read (phrase longAgo) summerNoon = .ok ⟨-2829839295, 0⟩ :=
    sum.trans (by decide)
  have backwards : (amountsOf longAgo.reverse).Perm (amountsOf longAgo) :=
    longAgo.reverse_perm.filterMap Piece.amount?
  exact ⟨inRange, outside, fixed, by decide +kernel, reached, by decide +kernel,
    (anyOrder longAgo.reverse backwards).trans reached⟩

end RelativeTime

end Metasearch
