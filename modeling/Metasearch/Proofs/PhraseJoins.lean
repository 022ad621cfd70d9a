/-
This file settles how phrases go together. A space ends the piece in front of it, whatever that is:
no number and no word goes on behind it, and a point takes no digit from the other side. So the
pieces of two phrases with a space between them are those of the one and then those of the other.

Going back through the pieces keeps nothing but the instant it has come to. So the second phrase
starts where the first one led, and the two together come to what it comes to from there, be it an
instant or a reason; pieces between them that say nothing change nothing.
-/
import Metasearch.Filter
import Metasearch.Proofs.Outcomes

namespace Metasearch.RelativeTime

open Calendar (Instant)

/-! ### The pieces of two phrases -/

/-- What a run of characters takes of a text ends at the latest where one of another kind stands. -/
theorem takeWhile_append_stop {takes : Char → Bool} {stop : Char} (stops : takes stop = false)
    (text rest : List Char) : (text ++ stop :: rest).takeWhile takes = text.takeWhile takes := by
  rw [List.takeWhile_append, List.takeWhile_cons_of_neg (by simp [stops]), List.append_nil]
  split
  · next whole => exact (List.takeWhile_prefix takes).eq_of_length whole |>.symm
  · rfl

theorem length_takeWhile_le (takes : Char → Bool) (text : List Char) :
    (text.takeWhile takes).length ≤ text.length :=
  (List.takeWhile_prefix takes).length_le

/-- Whether a number begins does not depend on what is behind the next space. -/
theorem startsNumber_append_space (c : Char) (text rest : List Char) :
    startsNumber (c :: (text ++ ' ' :: rest)) = startsNumber (c :: text) := by
  by_cases point : c = '.'
  · subst point
    cases text <;> rfl
  · cases text <;> simp [startsNumber, point]

/-- A number ends at the next space at the latest. -/
theorem numberLength_append_space (text rest : List Char) :
    numberLength (text ++ ' ' :: rest) = numberLength text := by
  unfold numberLength
  have stops : ' '.isDigit = false := by decide
  simp only [takeWhile_append_stop stops,
    List.drop_append_of_le_length (length_takeWhile_le Char.isDigit text)]
  cases text.drop (text.takeWhile Char.isDigit).length with
  | nil => rfl
  | cons c behind =>
    by_cases point : c = '.'
    · subst point
      simp only [List.cons_append, takeWhile_append_stop stops]
    · simp [point]

theorem numberLength_le (text : List Char) : numberLength text ≤ text.length := by
  have digits := length_takeWhile_le Char.isDigit text
  unfold numberLength
  dsimp only
  split
  · next rest behind =>
    have more := length_takeWhile_le Char.isDigit rest
    have all := congrArg List.length behind
    rw [List.length_drop, List.length_cons] at all
    omega
  · exact digits

/-- A space ends the piece in front of it. -/
theorem tokensFrom_append_space {skip : Nat} {text : List Char} (inside : skip ≤ text.length)
    (rest : List Char) :
    tokensFrom skip (text ++ ' ' :: rest) = tokensFrom skip text ++ tokens rest := by
  induction text generalizing skip with
  | nil =>
    obtain rfl := Nat.le_zero.mp inside
    rfl
  | cons c text inductionHypothesis =>
    cases skip with
    | succ skip => exact inductionHypothesis (Nat.le_of_succ_le_succ inside)
    | zero =>
      have number : numberLength (c :: (text ++ ' ' :: rest)) = numberLength (c :: text) :=
        numberLength_append_space (c :: text) rest
      have numberInside : numberLength (c :: text) ≤ text.length + 1 := numberLength_le (c :: text)
      have word : (text ++ ' ' :: rest).takeWhile continuesWord = text.takeWhile continuesWord :=
        takeWhile_append_stop (by decide) text rest
      simp only [List.cons_append, tokensFrom, startsNumber_append_space, number, word]
      split
      · exact inductionHypothesis (Nat.zero_le _)
      · split
        · have taken : ((c :: text) ++ ' ' :: rest).take (numberLength (c :: text)) =
              (c :: text).take (numberLength (c :: text)) :=
            List.take_append_of_le_length numberInside
          rw [List.cons_append] at taken
          rw [taken, inductionHypothesis (by omega)]
          rfl
        · split
          · rw [inductionHypothesis (length_takeWhile_le continuesWord text)]
            rfl
          · rw [inductionHypothesis (Nat.zero_le _)]
            rfl

theorem tokens_append_space (text rest : List Char) :
    tokens (text ++ ' ' :: rest) = tokens text ++ tokens rest :=
  tokensFrom_append_space (Nat.zero_le _) rest

/-- The pieces of words with a space between any two are those of the words. -/
theorem tokens_intercalate (words : List String) :
    tokens (" ".intercalate words).toList = words.flatMap fun word => tokens word.toList := by
  rw [String.toList_intercalate]
  induction words with
  | nil => rfl
  | cons word rest inductionHypothesis =>
    cases rest with
    | nil =>
      rw [List.map_singleton, List.intercalate_singleton, List.flatMap_cons, List.flatMap_nil,
        List.append_nil]
    | cons next rest =>
      rw [List.map_cons, List.map_cons, List.intercalate_cons_cons, List.append_assoc,
        List.flatMap_cons, ← inductionHypothesis]
      exact tokens_append_space word.toList _

/-! ### Going back through the pieces -/

variable {now between : Instant}

theorem goBack_filler {token : Token} (filler : isFiller token.text = true) (rest : List Token) :
    goBack now (token :: rest) = goBack now rest := by
  conv => lhs; unfold goBack
  exact if_pos filler

/-- A quantity and its unit take one step. -/
theorem goBack_step {token unit : Token} (counts : ¬ isFiller token.text = true)
    {quantity : Quantity} (counted : readQuantity? token.text = some quantity)
    {timeUnit : TimeUnit} (named : readUnit? unit.text = some timeUnit) (rest : List Token) :
    goBack now (token :: unit :: rest) =
      (step? now quantity timeUnit).elim (.error .outOfRange) fun next => goBack next rest := by
  conv => lhs; unfold goBack
  simp only [if_neg counts, counted, named]
  cases step? now quantity timeUnit <;> rfl

/-- Pieces that lead to an instant leave the pieces behind them to go on from there. -/
theorem goBack_append {first : List Token} (reached : goBack now first = .ok between)
    (second : List Token) : goBack now (first ++ second) = goBack between second := by
  fun_induction goBack now first with
  | case1 now =>
    obtain rfl := Except.ok.inj reached
    rfl
  | case2 now token rest filler inductionHypothesis =>
    rw [List.cons_append, goBack_filler filler, inductionHypothesis reached]
  | case3 | case4 | case5 | case6 => cases reached
  | case7 now token counts quantity unit rest counted timeUnit named next stepped
      inductionHypothesis =>
    rw [List.cons_append, List.cons_append, goBack_step counts counted named, stepped]
    exact inductionHypothesis reached

/-- The words that may stand between quantities and say nothing. -/
def fillers : List String := [",", "and", "ago"]

/-- A filler is one piece, and one that is passed over. -/
theorem tokens_filler {word : String} (filler : word ∈ fillers) :
    ∃ token, tokens word.toList = [token] ∧ isFiller token.text = true := by
  simp only [fillers, List.mem_cons, List.not_mem_nil, or_false] at filler
  rcases filler with rfl | rfl | rfl
  · exact ⟨.mark [','], by decide, rfl⟩
  · exact ⟨.word ['a', 'n', 'd'], by decide, rfl⟩
  · exact ⟨.word ['a', 'g', 'o'], by decide, rfl⟩

theorem goBack_fillers {words : List String} (fill : ∀ word ∈ words, word ∈ fillers)
    (rest : List Token) :
    goBack now ((words.flatMap fun word => tokens word.toList) ++ rest) = goBack now rest := by
  induction words with
  | nil => rfl
  | cons word words inductionHypothesis =>
    obtain ⟨here, later⟩ := List.forall_mem_cons.mp fill
    obtain ⟨token, piece, filler⟩ := tokens_filler here
    rw [List.flatMap_cons, piece, List.append_assoc, List.singleton_append, goBack_filler filler,
      inductionHypothesis later]

/-! ### Two phrases -/

/-- Two phrases with some words between them, and a space between any two of all these. -/
def joinedBy (words : List String) (first second : String) : String :=
  " ".intercalate (first :: words ++ [second])

theorem read_joinedBy (reached : read first now = .ok between) {words : List String}
    (fill : ∀ word ∈ words, word ∈ fillers) (second : String) :
    read (joinedBy words first second) now = read second between := by
  have pieces : tokens (joinedBy words first second).toList =
      tokens first.toList ++ ((words.flatMap fun word => tokens word.toList) ++
        tokens second.toList) := by
    rw [joinedBy, tokens_intercalate, List.cons_append, List.flatMap_cons, List.flatMap_append,
      List.flatMap_cons, List.flatMap_nil, List.append_nil]
  rw [read, pieces, goBack_append reached, goBack_fillers fill]
  rfl

/-- A phrase that leads to an instant hands over to the phrase behind it: whatever that comes to
from there, an instant or a reason why there is none, the two come to with nothing but a space
between them or with fillers too. A filter for phrases writes the same text for both, or fails for
the same reason and quotes the text it was given. -/
theorem read_composes {first : String} (reached : read first now = .ok between)
    {words : List String} (fill : ∀ word ∈ words, word ∈ fillers) (second : String) :
    read (joinedBy words first second) now = read second between ∧
    ∀ categories,
      (∀ text, Filter.timeAgo.apply ⟨categories, now⟩ (joinedBy words first second) = .ok text ↔
        Filter.timeAgo.apply ⟨categories, between⟩ second = .ok text) ∧
      ∀ reason,
        Filter.timeAgo.apply ⟨categories, now⟩ (joinedBy words first second) =
            .error (.timeAgo (joinedBy words first second) reason) ↔
          Filter.timeAgo.apply ⟨categories, between⟩ second = .error (.timeAgo second reason) := by
  have composed := read_joinedBy reached fill second
  refine ⟨composed, fun categories => ⟨fun text => ?_, fun reason => ?_⟩⟩
  all_goals
    simp only [Filter.apply, composed]
    cases read second between with
    | ok instant => simp [Except.mapError, Except.map]
    | error reason => simp [Except.mapError, Except.map]

/-- Noon of 15 June 2016. -/
def summerNoon : Instant := ⟨1465992000, 0⟩

theorem read_composes_daysAndHours :
    read "2 days, 3 hours" summerNoon = .ok ⟨1465808400, 0⟩ ∧
      (∀ word ∈ ["ago", "and"], word ∈ fillers) ∧
      joinedBy ["ago", "and"] "2 days, 3 hours" "1.5 hours" =
        "2 days, 3 hours ago and 1.5 hours" ∧
      read "2 days, 3 hours ago and 1.5 hours" summerNoon = .ok ⟨1465803000, 0⟩ ∧
      read "2 days, 3 hours ago and 5 fortnights" summerNoon =
        .error (.unknownUnit "fortnights") := by
  have reached : read "2 days, 3 hours" summerNoon = .ok ⟨1465808400, 0⟩ := by decide +kernel
  have fill : ∀ word ∈ ["ago", "and"], word ∈ fillers := by decide
  refine ⟨reached, fill, by decide, ?_, ?_⟩
  · exact (read_composes reached fill "1.5 hours").1.trans (by decide +kernel)
  · exact (read_composes reached fill "5 fortnights").1.trans (by decide +kernel)

end Metasearch.RelativeTime
