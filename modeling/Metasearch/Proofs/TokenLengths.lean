/-
This file proves that cutting a text into tokens comes to an end: behind every token but the last
there is less text than before it.
-/
import Mathlib.Data.List.TakeWhile
import Metasearch.Markup.Token

namespace Metasearch.Markup

variable {text rest : List Char}

/-! ### Tags -/

/-- A character that is not passed over stands in front of what is left behind it. -/
theorem length_of_dropWhile {passes : Char → Bool} {c : Char}
    (order : text.dropWhile passes = c :: rest) : rest.length < text.length := by
  have shorter := List.length_dropWhile_le passes text
  rw [order] at shorter
  exact shorter

theorem length_of_readValue {value : String} (found : readValue? text = some (value, rest)) :
    rest.length ≤ text.length := by
  have blanks := List.length_dropWhile_le isSpace text
  unfold readValue? at found
  simp only at found
  split at found
  · cases found
  case h_2 inside opened =>
    have := length_of_dropWhile opened
    split at found
    · cases found
    case h_2 closed =>
      cases found
      have := length_of_dropWhile closed
      omega
  case h_3 inside opened =>
    have := length_of_dropWhile opened
    split at found
    · cases found
    case h_2 closed =>
      cases found
      have := length_of_dropWhile closed
      omega
  case h_4 order =>
    cases found
    exact order ▸ blanks
  case h_5 =>
    cases found
    rw [List.length_drop]
    omega

theorem length_of_readAttributes {fuel : Nat} {attributes all : List (String × String)}
    {closes : Bool} (found : readAttributes? fuel attributes text = some (all, closes, rest)) :
    rest.length < text.length := by
  induction fuel generalizing attributes text with
  | zero => cases found
  | succ fuel inductionHypothesis =>
    have blanks := List.length_dropWhile_le isSpace text
    unfold readAttributes? at found
    simp only at found
    split at found
    · cases found
    case h_2 order =>
      cases found
      exact length_of_dropWhile order
    case h_3 order =>
      cases found
      exact Nat.lt_of_succ_lt (length_of_dropWhile order)
    case h_4 order =>
      have := inductionHypothesis found
      simp only [order, List.length_cons] at blanks
      omega
    case h_5 c tail _ _ _ order =>
      simp only [order, List.length_cons] at blanks
      generalize (tail.takeWhile fun c => !(endsName c || c == '=')).length = taken at found
      have more := List.length_dropWhile_le isSpace (tail.drop taken)
      rw [List.length_drop] at more
      split at found
      case h_1 behind isValue =>
        simp only [isValue, List.length_cons] at more
        split at found
        case h_1 isRead =>
          have := inductionHypothesis found
          have := length_of_readValue isRead
          omega
        case h_2 => cases found
      case h_2 =>
        have := inductionHypothesis found
        omega

theorem length_of_readTag {tag : Tag} (found : readTag? text = some (tag, rest)) :
    rest.length < text.length := by
  unfold readTag? at found
  simp only at found
  split at found
  case h_1 isRead =>
    cases found
    have := length_of_readAttributes isRead
    rw [List.length_drop] at this
    omega
  case h_2 => cases found

/-! ### Comments and document types -/

theorem length_readComment (text : List Char) :
    (readComment text).2.length ≤ text.length := by
  fun_induction readComment text with
  | case1 rest => exact Nat.le_add_right rest.length 3
  | case2 rest => exact Nat.le_add_right rest.length 4
  | case3 c rest _ _ content behind found inductionHypothesis =>
    rw [found] at inductionHypothesis
    exact Nat.le_succ_of_le inductionHypothesis
  | case4 => exact Nat.le_refl 0

theorem length_readLooseComment (text : List Char) :
    (readLooseComment text).2.length ≤ text.length := by
  have := List.length_dropWhile_le (· != '>') text
  rw [readLooseComment, List.length_drop]
  omega

theorem length_of_dropWord {word : String} (found : dropWord? word text = some rest) :
    rest.length ≤ text.length := by
  unfold dropWord? at found
  simp only [Option.ite_none_right_eq_some, Option.some.injEq] at found
  rw [← found.2, List.length_drop]
  omega

theorem length_readDeclaration (inForeign : Bool) (text : List Char) :
    (readDeclaration inForeign text).2.length ≤ text.length := by
  unfold readDeclaration
  split
  case h_1 rest => exact Nat.le_add_right rest.length 3
  case h_2 rest => exact Nat.le_add_right rest.length 4
  case h_3 behind _ _ =>
    have := length_readComment behind
    simp only [List.length_cons]
    omega
  case h_4 =>
    split
    case h_1 behind isType =>
      have := length_of_dropWord isType
      have := List.length_dropWhile_le (· != '>') behind
      simp only [List.length_drop]
      omega
    case h_2 =>
      split
      case isTrue =>
        cases isCut : Text.cut "]]>".toList (text.drop 7) with
        | none => exact Nat.zero_le _
        | some parts =>
          have := Text.length_of_cut isCut
          simp only [Option.getD_some]
          rw [List.length_drop] at this
          omega
      case isFalse => exact length_readLooseComment text

/-! ### Text up to an end tag -/

theorem length_splitAtEndTag (name text : List Char) :
    (splitAtEndTag name text).1.length + (splitAtEndTag name text).2.length = text.length := by
  induction text with
  | nil => rfl
  | cons c rest inductionHypothesis =>
    unfold splitAtEndTag
    split
    · exact Nat.zero_add _
    · simp only [List.length_cons]
      omega

theorem length_splitScript (state : ScriptState) (dashes skip : Nat) (text : List Char) :
    (splitScript state dashes skip text).1.length +
      (splitScript state dashes skip text).2.length = text.length := by
  induction text generalizing state dashes skip with
  | nil => rfl
  | cons c rest inductionHypothesis =>
    unfold splitScript
    split
    case h_1 skip =>
      have := inductionHypothesis state (if c == '-' then dashes + 1 else 0) skip
      simp only [List.length_cons]
      omega
    case h_2 =>
      split
      · exact Nat.zero_add _
      · simp only [List.length_cons]
        split
        · have := inductionHypothesis .commented 0 3
          omega
        · have := inductionHypothesis (state.next dashes (c :: rest))
            (if c == '-' then dashes + 1 else 0) 0
          omega

/-! ### The next token -/

theorem endTagHere_progress (text : List Char) :
    (endTagHere text).1 = .endOfText ∨ (endTagHere text).2.length < text.length := by
  unfold endTagHere
  split
  case h_1 isRead =>
    have := length_of_readTag isRead
    rw [List.length_drop] at this
    exact .inr (by simp only; omega)
  case h_2 => exact .inl rfl

/-- Text up to an end tag, or that tag; `shows` tells what stands for the characters written. -/
theorem textThen_progress {parts : List Char × List Char} (shows : List Char → List Char)
    (empty : shows [] = []) (whole : parts.1.length + parts.2.length = text.length) :
    (textThen (shows parts.1) parts.2 (endTagHere parts.2)).1 = .endOfText ∨
      (textThen (shows parts.1) parts.2 (endTagHere parts.2)).2.length < text.length := by
  unfold textThen
  split
  case isTrue =>
    exact (endTagHere_progress parts.2).imp_right fun shorter => by omega
  case isFalse isShown =>
    have : 0 < parts.1.length := List.length_pos_iff.mpr fun isEmpty =>
      isShown (by rw [isEmpty, empty]; rfl)
    exact .inr (by simp only; omega)

theorem readBracket_progress (inForeign : Bool) (text : List Char) :
    (readBracket inForeign text).1 = .endOfText ∨
      (readBracket inForeign text).2.length ≤ text.length := by
  unfold readBracket
  split
  case h_1 behind =>
    have := length_readDeclaration inForeign behind
    exact .inr (by simp only [List.length_cons]; omega)
  case h_2 => exact .inr (length_readLooseComment _)
  case h_3 => exact .inr (Nat.zero_le _)
  case h_4 => exact .inr (by simp only [List.length_cons]; omega)
  case h_5 c behind _ =>
    split
    · unfold endTagHere
      split
      case h_1 isRead =>
        have := length_of_readTag isRead
        simp only [List.drop_succ_cons, List.drop_zero, List.length_cons] at this ⊢
        exact .inr (by omega)
      case h_2 => exact .inl rfl
    · have := length_readLooseComment (c :: behind)
      exact .inr (by simp only [List.length_cons] at this ⊢; omega)
  case h_6 =>
    split
    · split
      case h_1 isRead => exact .inr (Nat.le_of_lt (length_of_readTag isRead))
      case h_2 => exact .inl rfl
    · exact .inr (Nat.le_refl _)
  case h_7 => exact .inr (Nat.le_refl _)

/-- Behind a token there is less text than before it, unless it is the end. -/
theorem nextToken_progress (region : Region) (inForeign : Bool) (text : List Char) :
    (nextToken region inForeign text).1 = .endOfText ∨
      (nextToken region inForeign text).2.length < text.length := by
  unfold nextToken
  split
  case h_1 => exact .inl rfl
  case h_2 first rest =>
    split
    case h_1 =>
      split
      · exact (readBracket_progress inForeign rest).imp_right Nat.lt_succ_of_le
      · right
        simp only
        repeat' split
        all_goals simp only [List.length_cons, List.length_drop]; omega
    case h_2 name =>
      have whole := length_splitAtEndTag name.toList (first :: rest)
      exact textThen_progress (resolveFrom false 0) rfl whole
    case h_3 name =>
      have whole := length_splitAtEndTag name.toList (first :: rest)
      exact textThen_progress (List.map withoutNul) rfl whole
    case h_4 =>
      have whole := length_splitScript .plain 0 0 (first :: rest)
      exact textThen_progress (List.map withoutNul) rfl whole
    case h_5 => exact .inr (Nat.succ_pos _)

end Metasearch.Markup
