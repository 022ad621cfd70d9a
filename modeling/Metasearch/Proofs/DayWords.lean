/-
This file settles when the words for today and yesterday are replaced as one would expect: each of
them where it stands in the text, all in one pass, and nothing else. They are replaced one after the
other, so the second pass also replaces what the first one has made into the second word. Neither
word can overlap the other or itself; so such a word stands between two places where the text itself
has the second word, and made of what is put in for the first word there, alone or with the text on
either side of it.

Hence both passes together come to one pass over the text exactly if no such word comes about, or if
the second word is replaced by itself. And they do so for every text exactly if what is put in for
the first word cannot complete the second one.
-/
import Metasearch.Filter
import Metasearch.Proofs.FixedUnits
import Metasearch.Proofs.ReplacedText

namespace Metasearch

/-! ### Several words in one pass -/

namespace Text

/-- A text with words replaced in one pass from the left, each by what the table has for it; the
first `skip` characters belong to a word already replaced. -/
def replaceEach (table : List (List Char × List Char)) (skip : Nat) : List Char → List Char
  | [] => []
  | c :: rest =>
    match skip with
    | skip + 1 => replaceEach table skip rest
    | 0 =>
      match table.find? fun entry => entry.1.isPrefixOf (c :: rest) with
      | some (word, replacement) => replacement ++ replaceEach table (word.length - 1) rest
      | none => c :: replaceEach table 0 rest

theorem replaceEach_skip (table : List (List Char × List Char)) (front rest : List Char) :
    replaceEach table front.length (front ++ rest) = replaceEach table 0 rest := by
  induction front with
  | nil => rfl
  | cons c front inductionHypothesis => exact inductionHypothesis

/-- The first word of the table that stands here is replaced. -/
theorem replaceEach_of_find? {table : List (List Char × List Char)} {c : Char}
    {more replacement rest : List Char}
    (found : table.find? (fun entry => entry.1.isPrefixOf (c :: more ++ rest)) =
      some (c :: more, replacement)) :
    replaceEach table 0 (c :: more ++ rest) = replacement ++ replaceEach table 0 rest := by
  rw [List.cons_append] at found ⊢
  rw [replaceEach, found]
  exact congrArg (replacement ++ ·) (replaceEach_skip table more rest)

theorem replaceEach_cons {table : List (List Char × List Char)} {c : Char} {rest : List Char}
    (absent : ∀ entry ∈ table, ¬ entry.1 <+: c :: rest) :
    replaceEach table 0 (c :: rest) = c :: replaceEach table 0 rest := by
  have none : table.find? (fun entry => entry.1.isPrefixOf (c :: rest)) = none :=
    List.find?_eq_none.mpr fun entry member =>
      mt List.isPrefixOf_iff_prefix.mp (absent entry member)
  rw [replaceEach, none]

/-- A text completes a word if the word stands in it, alone or with a beginning of the word before
it and an end of the word behind it. -/
def Completes (text word : List Char) : Prop :=
  ∃ left ∈ word.inits, ∃ right ∈ word.tails,
    left ≠ word ∧ right ≠ word ∧ word <:+: left ++ text ++ right

instance (text word : List Char) : Decidable (Completes text word) :=
  inferInstanceAs (Decidable (∃ left ∈ word.inits, ∃ right ∈ word.tails,
    left ≠ word ∧ right ≠ word ∧ word <:+: left ++ text ++ right))

/-- Between texts without a word, another text with which the word comes about completes it. -/
theorem completes_of_occurs {word left text right : List Char} (inLeft : ¬ word <:+: left)
    (inRight : ¬ word <:+: right) (occurs : word <:+: left ++ (text ++ right)) :
    Completes text word := by
  have completes : ∀ front behind, front <+: word → behind <:+ word → front ≠ word →
      behind ≠ word → word <:+: front ++ text ++ behind → Completes text word :=
    fun front behind begins ends notFront notBehind here =>
      ⟨front, (List.mem_inits _ _).mpr begins, behind, (List.mem_tails _ _).mpr ends, notFront,
        notBehind, here⟩
  have present : [] ≠ word := fun empty => inLeft (empty ▸ List.nil_infix)
  rcases List.infix_append_iff.mp occurs with here | here | ⟨front, rest, rfl, ends, begins⟩
  · exact absurd here inLeft
  · rcases List.infix_append_iff.mp here with inText | here | ⟨rest, behind, rfl, ends, begins⟩
    · refine completes [] [] List.nil_prefix List.nil_suffix present present ?_
      rw [List.nil_append, List.append_nil]
      exact inText
    · exact absurd here inRight
    · refine completes [] behind List.nil_prefix (List.suffix_append _ _) present
        (fun same => inRight (same ▸ begins.isInfix)) ?_
      exact ((List.suffix_append_self_iff).mpr ends).isInfix
  · have notFront : front ≠ front ++ rest := fun same => inLeft (same ▸ ends.isInfix)
    obtain ⟨further, whole⟩ := begins
    rcases List.append_eq_append_iff.mp whole with ⟨more, rfl, -⟩ | ⟨behind, rfl, isRight⟩
    · refine completes front [] (List.prefix_append _ _) List.nil_suffix notFront present ?_
      rw [List.append_nil, ← List.append_assoc]
      exact (List.prefix_append _ _).isInfix
    · refine completes front behind (List.prefix_append _ _) ?_ notFront (fun same => ?_) ?_
      · rw [← List.append_assoc]
        exact List.suffix_append _ _
      · rw [← same, isRight] at inRight
        exact inRight (List.prefix_append _ _).isInfix
      · rw [List.append_assoc]

/-! ### Two words one after the other -/

section InTurn

variable {a b : Char} {first second : List Char} {replacement other : List Char}

/-- Replacing the first word leaves the occurrences of the second one as they are. -/
theorem replaceAll_intercalate (noB : b ∉ a :: first) (noA : a ∉ second)
    (parts : List (List Char)) :
    replaceAll (a :: first) replacement ((b :: second).intercalate parts) =
      (b :: second).intercalate (parts.map (replaceAll (a :: first) replacement)) := by
  induction parts with
  | nil => rfl
  | cons part rest inductionHypothesis =>
    cases rest with
    | nil => rw [List.map_singleton, List.intercalate_singleton, List.intercalate_singleton]
    | cons next rest =>
      rw [List.intercalate_cons_cons, List.map_cons, List.map_cons, List.intercalate_cons_cons,
        ← List.map_cons, ← inductionHypothesis, List.append_assoc, List.append_assoc,
        List.cons_append, replaceAll_append_cons noB, replaceAll_append_of_not_mem noA]
      rfl

/-- Where texts stand between occurrences of a word that cannot overlap itself, the word is replaced
in each of them and between them. -/
theorem replaceAll_intercalate_self (single : b ∉ second) {parts : List (List Char)}
    (some : parts ≠ []) :
    replaceAll (b :: second) other ((b :: second).intercalate parts) =
      other.intercalate (parts.map (replaceAll (b :: second) other)) := by
  induction parts with
  | nil => exact absurd rfl some
  | cons part rest inductionHypothesis =>
    cases rest with
    | nil => rw [List.map_singleton, List.intercalate_singleton, List.intercalate_singleton]
    | cons next rest =>
      have behind := inductionHypothesis (List.cons_ne_nil _ _)
      rw [List.intercalate_cons_cons, List.map_cons, List.map_cons, List.intercalate_cons_cons,
        ← List.map_cons, ← behind, List.append_assoc, List.append_assoc,
        replaceAll_append_append single]

theorem replaceEach_first (rest : List Char) :
    replaceEach [(a :: first, replacement), (b :: second, other)] 0 (a :: first ++ rest) =
      replacement ++ replaceEach [(a :: first, replacement), (b :: second, other)] 0 rest :=
  replaceEach_of_find?
    (List.find?_cons_of_pos (List.isPrefixOf_iff_prefix.mpr (List.prefix_append _ _)))

theorem replaceEach_second (differ : a ≠ b) (rest : List Char) :
    replaceEach [(a :: first, replacement), (b :: second, other)] 0 (b :: second ++ rest) =
      other ++ replaceEach [(a :: first, replacement), (b :: second, other)] 0 rest := by
  refine replaceEach_of_find? ((List.find?_cons_of_neg ?_).trans (List.find?_cons_of_pos ?_))
  · exact fun begins =>
      differ (List.cons_prefix_cons.mp (List.isPrefixOf_iff_prefix.mp begins)).1
  · exact List.isPrefixOf_iff_prefix.mpr (List.prefix_append _ _)

/-- Replacing both words in one pass is replacing the first one in the texts between the occurrences
of the second one, and putting what the second one is replaced by between them. -/
theorem replaceEach_eq (noB : b ∉ a :: first) (text : List Char) :
    replaceEach [(a :: first, replacement), (b :: second, other)] 0 text =
      other.intercalate
        ((splitOn (b :: second) text).map (replaceAll (a :: first) replacement)) := by
  have differ : a ≠ b := fun same => noB (same ▸ List.mem_cons_self)
  induction length : text.length using Nat.strongRecOn generalizing text with
  | ind size inductionHypothesis =>
    by_cases hasFirst : a :: first <+: text
    · obtain ⟨rest, rfl⟩ := hasFirst
      obtain ⟨head, tail, pieces, longer⟩ := splitOn_append_of_not_mem noB second rest
      rw [List.length_append, List.length_cons] at length
      rw [replaceEach_first, inductionHypothesis _ (by omega) rest rfl, longer, pieces,
        List.map_cons, List.map_cons, replaceAll_append (List.cons_ne_nil _ _),
        intercalate_append_cons]
    · by_cases hasSecond : b :: second <+: text
      · obtain ⟨rest, rfl⟩ := hasSecond
        obtain ⟨head, tail, pieces⟩ :=
          List.exists_cons_of_ne_nil (splitOn_ne_nil (b :: second) rest)
        rw [List.length_append, List.length_cons] at length
        rw [replaceEach_second differ, inductionHypothesis _ (by omega) rest rfl,
          splitOn_append (List.cons_ne_nil _ _), pieces, List.map_cons, List.map_cons,
          List.map_cons, List.intercalate_cons_cons]
        rfl
      · cases text with
        | nil => rfl
        | cons c rest =>
          obtain ⟨head, tail, pieces, longer⟩ := splitOn_cons hasSecond
          have notHere : ¬ a :: first <+: c :: head := fun begins =>
            hasFirst (begins.trans ((List.prefix_cons_inj c).mpr
              (prefix_of_splitOn (List.cons_ne_nil _ _) pieces)))
          rw [List.length_cons] at length
          rw [replaceEach_cons (by simp [hasFirst, hasSecond]),
            inductionHypothesis _ (by omega) rest rfl, longer, pieces, List.map_cons,
            List.map_cons, replaceAll_cons notHere]
          exact (intercalate_append_cons other [c] _ _).symm

/-- Replacing one word after the other comes to the same as replacing both in one pass exactly if
the second word does not come about where only the first one was replaced. -/
theorem replaceAll_replaceAll_eq_iff (noB : b ∉ a :: first) (noA : a ∉ second)
    (single : b ∉ second) (text : List Char) :
    replaceAll (b :: second) other (replaceAll (a :: first) replacement text) =
        replaceEach [(a :: first, replacement), (b :: second, other)] 0 text ↔
      other = b :: second ∨ ∀ part ∈ splitOn (b :: second) text,
        ¬ b :: second <:+: replaceAll (a :: first) replacement part := by
  have present : b :: second ≠ [] := List.cons_ne_nil _ _
  have some := splitOn_ne_nil (b :: second) text
  have inTurn : replaceAll (a :: first) replacement text =
      (b :: second).intercalate
        ((splitOn (b :: second) text).map (replaceAll (a :: first) replacement)) := by
    rw [← replaceAll_intercalate noB noA, intercalate_splitOn present]
  rw [replaceEach_eq noB, inTurn,
    replaceAll_intercalate_self single (mt List.map_eq_nil_iff.mp some), List.map_map]
  by_cases same : other = b :: second
  · refine iff_of_true ?_ (.inl same)
    subst same
    refine congrArg _ (List.map_congr_left fun part _ => ?_)
    exact intercalate_splitOn present _
  · rw [or_iff_right same]
    have unchanged : ∀ part, replaceAll (b :: second) other part = part ↔ _ :=
      replaceAll_eq_self_iff present same
    constructor
    · intro equal part member
      rw [← unchanged]
      -- as texts replaced by a longer or a shorter one, all of them would differ to the same side
      rcases Nat.le_total other.length (b :: second).length with shorter | longer
      · exact eq_of_intercalate_eq other
          (fun part _ => length_replaceAll_le present shorter _) equal part member
      · exact (eq_of_intercalate_eq other
          (fun part _ => le_length_replaceAll present longer _) equal.symm part member).symm
    · intro absent
      refine congrArg _ (List.map_congr_left fun part member => ?_)
      exact (unchanged _).mpr (absent part member)

/-- What a text without the second word turns into has the second word only if what was put in
completes it. -/
theorem not_infix_replaceAll (never : ¬ Completes replacement (b :: second)) {text : List Char}
    (without : ¬ b :: second <:+: text) :
    ¬ b :: second <:+: replaceAll (a :: first) replacement text := by
  have each : ∀ piece ∈ splitOn (a :: first) text, ¬ b :: second <:+: piece := by
    intro piece isPiece inside
    have inText := infix_of_mem_intercalate (a :: first) isPiece
    rw [intercalate_splitOn (List.cons_ne_nil _ _)] at inText
    exact without (inside.trans inText)
  rw [replaceAll]
  generalize splitOn (a :: first) text = pieces at each
  induction pieces with
  | nil => exact fun occurs => List.cons_ne_nil _ _ (List.eq_nil_of_infix_nil occurs)
  | cons piece rest inductionHypothesis =>
    obtain ⟨here, later⟩ := List.forall_mem_cons.mp each
    cases rest with
    | nil => rwa [List.intercalate_singleton]
    | cons next rest =>
      rw [List.intercalate_cons_cons, List.append_assoc]
      exact fun occurs => never (completes_of_occurs here (inductionHypothesis later) occurs)

/-- A text that completes the second word makes a difference somewhere. -/
theorem exists_infix_replaceAll (noB : b ∉ a :: first) (noA : a ∉ second)
    (completes : Completes replacement (b :: second)) :
    ∃ text, ¬ b :: second <:+: text ∧
      b :: second <:+: replaceAll (a :: first) replacement text := by
  obtain ⟨left, isInit, right, isTail, notLeft, notRight, occurs⟩ := completes
  rw [List.mem_inits] at isInit
  rw [List.mem_tails] at isTail
  have noMark : a ∉ b :: second := by
    rw [List.mem_cons, not_or]
    exact ⟨fun same => noB (same ▸ List.mem_cons_self), noA⟩
  have noneLeft : a ∉ left := fun member => noMark (isInit.subset member)
  have noneRight : a ∉ right := fun member => noMark (isTail.subset member)
  refine ⟨left ++ (a :: first ++ right), ?_, ?_⟩
  · rw [List.cons_append, infix_append_cons noMark, not_or,
      infix_append_of_not_mem fun member => noB (List.mem_cons_of_mem _ member)]
    exact ⟨fun inside => notLeft (isInit.eq_of_length_le inside.length_le),
      fun inside => notRight (isTail.eq_of_length_le inside.length_le)⟩
  · have kept : replaceAll (a :: first) replacement (right ++ []) = right ++ [] :=
      replaceAll_append_of_not_mem noneRight []
    rw [List.append_nil] at kept
    rw [replaceAll_append_of_not_mem noneLeft, replaceAll_append (List.cons_ne_nil _ _), kept,
      ← List.append_assoc]
    exact occurs

/-- It comes to the same for every text exactly if what the first word is replaced by does not
complete the second one. -/
theorem forall_replaceAll_replaceAll_eq_iff (noB : b ∉ a :: first) (noA : a ∉ second)
    (single : b ∉ second) :
    (∀ text, replaceAll (b :: second) other (replaceAll (a :: first) replacement text) =
        replaceEach [(a :: first, replacement), (b :: second, other)] 0 text) ↔
      other = b :: second ∨ ¬ Completes replacement (b :: second) := by
  constructor
  · intro equal
    by_contra neither
    rw [not_or, not_not] at neither
    obtain ⟨text, without, inside⟩ := exists_infix_replaceAll noB noA neither.2
    rcases (replaceAll_replaceAll_eq_iff noB noA single text).mp (equal text) with same | absent
    · exact neither.1 same
    · refine absent text ?_ inside
      rw [splitOn_of_none without]
      exact List.mem_singleton_self text
  · rintro (same | never) text
    · exact (replaceAll_replaceAll_eq_iff noB noA single text).mpr (.inl same)
    · exact (replaceAll_replaceAll_eq_iff noB noA single text).mpr (.inr fun part member =>
        not_infix_replaceAll never (not_infix_of_mem_splitOn (List.cons_ne_nil _ _) member))

end InTurn

end Text

/-! ### The day before -/

namespace Calendar.Instant

variable {instant : Instant}

/-- A day is taken off with the time of day left as it is. -/
theorem plus_dayBack (outside : instant.nanos < nanosPerSecond) :
    instant.plus (Span.ofSeconds (-(secondsPerDay : Int))) =
      instant.onDay (instant.dayNumber - 1) :=
  (plus_ofSeconds outside secondsPerDay).trans (onDay_before instant 1).symm

/-- The same part of the second behind a leap second. -/
def behindLeap (instant : Instant) : Instant :=
  ⟨instant.seconds + 1, instant.nanos - nanosPerSecond⟩

/-- In a leap second, a day is taken off the second behind it. -/
theorem plus_dayBack_of_leap (within : nanosPerSecond ≤ instant.nanos)
    (below : instant.nanos < 2 * nanosPerSecond) :
    instant.plus (Span.ofSeconds (-(secondsPerDay : Int))) =
      instant.behindLeap.onDay (instant.behindLeap.dayNumber - 1) := by
  have outside : instant.behindLeap.nanos < nanosPerSecond := by
    unfold behindLeap
    simp only
    omega
  have whole : Int.tdiv (Span.ofSeconds (-(secondsPerDay : Int))) nanosPerSecond =
      -(secondsPerDay : Int) := by decide
  have nothing : Int.tmod (Span.ofSeconds (-(secondsPerDay : Int))) nanosPerSecond = 0 := by
    decide
  rw [← plus_dayBack outside, plus_ofSeconds outside]
  unfold plus
  simp only [whole, nothing, within, decide_true, Bool.true_and, if_true, Int.add_zero]
  unfold earlierBy behindLeap
  unfold nanosPerSecond at within below ⊢
  unfold secondsPerDay
  simp
  omega

end Calendar.Instant

namespace Filter

open Calendar (Instant)
open RelativeTime (summerNoon)

/-- A value with the words for the days replaced where they stand, in one pass. -/
def daysInPlace (layout : String) (today yesterday : Instant) (value : String) : String :=
  String.ofList (Text.replaceEach
    [("Today".toList, (Layout.write today layout).toList),
      ("Yesterday".toList, (Layout.write yesterday layout).toList)] 0 value.toList)

/-- The words for today and yesterday are replaced where they stand, and nothing else is, exactly
if yesterday is written as its own word or the word for it does not come about between the places
where it stands already. It is so for every value exactly if today is not written as something that
completes that word. -/
theorem apply_relTime_eq_iff (context : Context) (layout : String) {before : Instant}
    (dayBack : context.now.plus?
      (Calendar.Span.ofSeconds (-(Calendar.secondsPerDay : Int))) = some before) :
    (∀ value, apply context (.relTime layout) value =
        .ok (daysInPlace layout context.now before value) ↔
      Layout.write before layout = "Yesterday" ∨
        ∀ part ∈ Text.splitOn "Yesterday".toList value.toList, ¬ "Yesterday".toList <:+:
          Text.replaceAll "Today".toList (Layout.write context.now layout).toList part) ∧
    ((∀ value, apply context (.relTime layout) value =
        .ok (daysInPlace layout context.now before value)) ↔
      Layout.write before layout = "Yesterday" ∨
        ¬ Text.Completes (Layout.write context.now layout).toList "Yesterday".toList) ∧
    (context.now.nanos < Calendar.nanosPerSecond →
      before = context.now.onDay (context.now.dayNumber - 1)) ∧
    (Calendar.nanosPerSecond ≤ context.now.nanos →
      context.now.nanos < 2 * Calendar.nanosPerSecond →
        before = context.now.behindLeap.onDay (context.now.behindLeap.dayNumber - 1)) := by
  have isBefore : context.now.plus (Calendar.Span.ofSeconds (-(Calendar.secondsPerDay : Int))) =
      before := by
    unfold Instant.plus? Instant.checked at dayBack
    split at dayBack
    · exact Option.some.inj dayBack
    · cases dayBack
  have asTexts : ∀ value, apply context (.relTime layout) value =
      .ok (daysInPlace layout context.now before value) ↔
        Text.replaceAll ('Y' :: "esterday".toList) (Layout.write before layout).toList
          (Text.replaceAll ('T' :: "oday".toList) (Layout.write context.now layout).toList
            value.toList) =
          Text.replaceEach
            [('T' :: "oday".toList, (Layout.write context.now layout).toList),
              ('Y' :: "esterday".toList, (Layout.write before layout).toList)] 0 value.toList := by
    intro value
    rw [apply, Except.ok.injEq, replaceDays, isBefore, daysInPlace, String.ofList_inj]
    rfl
  have isWord : Layout.write before layout = "Yesterday" ↔
      (Layout.write before layout).toList = 'Y' :: "esterday".toList :=
    String.toList_inj.symm
  have noB : 'Y' ∉ 'T' :: "oday".toList := by decide
  have noA : 'T' ∉ "esterday".toList := by decide
  have single : 'Y' ∉ "esterday".toList := by decide
  refine ⟨fun value => ?_, ?_, ?_, ?_⟩
  · rw [asTexts, isWord]
    exact Text.replaceAll_replaceAll_eq_iff noB noA single value.toList
  · rw [isWord]
    refine Iff.trans ⟨fun equal text => ?_, fun equal value => (asTexts value).mpr (equal _)⟩
      (Text.forall_replaceAll_replaceAll_eq_iff noB noA single)
    have asText := (asTexts (String.ofList text)).mp (equal (String.ofList text))
    rwa [@String.toList_ofList text] at asText
  · exact fun outside => isBefore ▸ Instant.plus_dayBack outside
  · exact fun within below => isBefore ▸ Instant.plus_dayBack_of_leap within below

theorem apply_relTime_summerNoon :
    summerNoon.plus? (Calendar.Span.ofSeconds (-(Calendar.secondsPerDay : Int))) =
        some ⟨1465905600, 0⟩ ∧
      ∀ value, apply ⟨.empty, summerNoon⟩ (.relTime "Jan 02 2006") value =
        .ok (daysInPlace "Jan 02 2006" summerNoon ⟨1465905600, 0⟩ value) := by
  have dayBack : summerNoon.plus? (Calendar.Span.ofSeconds (-(Calendar.secondsPerDay : Int))) =
      some ⟨1465905600, 0⟩ := by decide
  obtain ⟨-, always, -⟩ := apply_relTime_eq_iff ⟨.empty, summerNoon⟩ "Jan 02 2006" dayBack
  exact ⟨dayBack, always.mpr (.inr (by decide))⟩

/-- What was put in for today is not always left as it is. -/
theorem apply_relTime_twice :
    apply ⟨.empty, summerNoon⟩ (.relTime "Yesterday 2") "Today" = .ok "Yesterday 14 15" ∧
      daysInPlace "Yesterday 2" summerNoon ⟨1465905600, 0⟩ "Today" = "Yesterday 15" := by
  decide

end Filter

end Metasearch
