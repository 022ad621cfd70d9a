/-
This file settles where trim markers are found again. A marker can be put at either end of any
action, with blanks between it and the action unless the action has a blank there already. The
actions of the text stay what they were, and so do the texts between them, but for the blanks that
the markers beside them take off.
-/
import Metasearch.Proofs.ActionWords

namespace Metasearch.Template

open Text (cut isBlank occursIn trim)

/-! ### Marked actions -/

/-- The trim markers that an action is given: for each end the blanks between the marker and the
action, or none for no marker. -/
structure Markers where
  left : Option (List Char)
  right : Option (List Char)

namespace Markers

/-- What stands in front of the action. -/
def front (marks : Markers) : List Char :=
  match marks.left with
  | some blanks => '-' :: blanks
  | none => []

/-- What stands behind the action. -/
def back (marks : Markers) : List Char :=
  match marks.right with
  | some blanks => blanks ++ ['-']
  | none => []

/-- An action with its markers. -/
def around (marks : Markers) (body : List Char) : List Char :=
  marks.front ++ (body ++ marks.back)

/-- There is a blank behind a marker at the left end and one before a marker at the right end, and
nothing but blanks is added besides the markers. -/
structure Fits (marks : Markers) (body : List Char) : Prop where
  left : ∀ blanks ∈ marks.left,
    blanks.all isBlank = true ∧ ∃ c ∈ (blanks ++ body).head?, isBlank c = true
  right : ∀ blanks ∈ marks.right,
    blanks.all isBlank = true ∧ ∃ c ∈ (body ++ blanks).getLast?, isBlank c = true

end Markers

/-- A text with markers for its actions, as far as there are any for them. -/
def withMarkers : List Markers → List Char → List Char
  | [], text => text
  | marks :: others, text =>
    match cut openingBraces text with
    | none => text
    | some (before, after) =>
      match cut closingBraces after with
      | none => text
      | some (body, rest) =>
        before ++ openingBraces ++ marks.around body ++ closingBraces ++ withMarkers others rest

/-! ### What is found of a marked action -/

theorem dropLeftMarker_marked {text : List Char} (blank : ∃ c ∈ text.head?, isBlank c = true) :
    dropLeftMarker ('-' :: text) = (true, text) := by
  obtain ⟨c, head, blank⟩ := blank
  obtain ⟨rest, rfl⟩ := List.head?_eq_some_iff.mp head
  exact if_pos blank

/-- What stands behind an action makes no marker at its other end. -/
theorem dropLeftMarker_append {body more : List Char} (unmarked : (dropLeftMarker body).1 = false)
    (alone : body = [] → more.head? ≠ some '-') :
    dropLeftMarker (body ++ more) = (false, body ++ more) := by
  cases body with
  | nil =>
    have other := alone rfl
    unfold dropLeftMarker
    split <;> simp_all
  | cons c rest =>
    by_cases mark : c = '-'
    · subst mark
      cases rest with
      | nil => cases unmarked
      | cons next rest =>
        have solid : isBlank next = false := by
          rw [dropLeftMarker] at unmarked
          split at unmarked
          · cases unmarked
          · next solid => simpa using solid
        exact if_neg (by simp [solid])
    · unfold dropLeftMarker
      split <;> simp_all

/-- So it is at the right end. -/
theorem dropRightMarker_marked {text : List Char} (blank : ∃ c ∈ text.getLast?, isBlank c = true) :
    dropRightMarker (text ++ ['-']) = (true, text) := by
  rw [← List.head?_reverse] at blank
  rw [dropRightMarker, List.reverse_append, List.reverse_singleton, List.singleton_append,
    dropLeftMarker_marked blank]
  simp

theorem dropRightMarker_append {more body : List Char} (unmarked : (dropRightMarker body).1 = false)
    (alone : body = [] → more.getLast? ≠ some '-') :
    dropRightMarker (more ++ body) = (false, more ++ body) := by
  have reversed : dropLeftMarker (body.reverse ++ more.reverse) =
      (false, body.reverse ++ more.reverse) := by
    refine dropLeftMarker_append unmarked fun empty => ?_
    rw [List.head?_reverse]
    exact alone (List.reverse_eq_nil_iff.mp empty)
  rw [dropRightMarker, List.reverse_append, reversed]
  simp

namespace Markers

variable {marks : Markers} {body : List Char}

/-- The blanks that come with the marker at the left end. -/
def blanksLeft (marks : Markers) : List Char :=
  marks.left.getD []

/-- The blanks that come with the marker at the right end. -/
def blanksRight (marks : Markers) : List Char :=
  marks.right.getD []

theorem Fits.all_blanksLeft (fits : marks.Fits body) : marks.blanksLeft.all isBlank = true := by
  unfold blanksLeft
  cases left : marks.left with
  | none => rfl
  | some blanks => exact (fits.left blanks left).1

theorem Fits.all_blanksRight (fits : marks.Fits body) : marks.blanksRight.all isBlank = true := by
  unfold blanksRight
  cases right : marks.right with
  | none => rfl
  | some blanks => exact (fits.right blanks right).1

/-- The marker at the left end is found, if there is one. -/
theorem Fits.drop_left (fits : marks.Fits body) (unmarked : (dropLeftMarker body).1 = false) :
    dropLeftMarker (marks.around body) =
      (marks.left.isSome, marks.blanksLeft ++ (body ++ marks.back)) := by
  cases left : marks.left with
  | some blanks =>
    obtain ⟨c, head, blank⟩ := (fits.left blanks left).2
    simp only [around, front, blanksLeft, left, Option.getD_some, Option.isSome_some,
      List.cons_append]
    refine dropLeftMarker_marked ⟨c, ?_, blank⟩
    rw [Option.mem_def] at head ⊢
    rw [← List.append_assoc, List.head?_append, head]
    rfl
  | none =>
    have alone : body = [] → marks.back.head? ≠ some '-' := by
      rintro rfl
      unfold back
      cases right : marks.right with
      | none => simp
      | some blanks =>
        obtain ⟨areBlank, c, last, -⟩ := fits.right blanks right
        have present : blanks ≠ [] := List.ne_nil_of_mem (List.mem_of_getLast? last)
        obtain ⟨first, rest, rfl⟩ := List.exists_cons_of_ne_nil present
        rintro ⟨⟩
        exact absurd (Text.not_mem_of_blank areBlank (c := '-') rfl) (by simp)
    simp only [around, front, blanksLeft, left, Option.getD_none, Option.isSome_none,
      List.nil_append]
    exact dropLeftMarker_append unmarked alone

/-- Behind that, the marker at the right end is found, if there is one. -/
theorem Fits.drop_right (fits : marks.Fits body) (unmarked : (dropRightMarker body).1 = false) :
    dropRightMarker (marks.blanksLeft ++ (body ++ marks.back)) =
      (marks.right.isSome, marks.blanksLeft ++ body ++ marks.blanksRight) := by
  cases right : marks.right with
  | some blanks =>
    obtain ⟨c, last, blank⟩ := (fits.right blanks right).2
    simp only [back, blanksRight, right, Option.getD_some, Option.isSome_some,
      ← List.append_assoc]
    refine dropRightMarker_marked ⟨c, ?_, blank⟩
    rw [Option.mem_def] at last ⊢
    rw [List.append_assoc, List.getLast?_append, last]
    rfl
  | none =>
    simp only [back, blanksRight, right, Option.getD_none, Option.isSome_none, List.append_nil]
    refine dropRightMarker_append unmarked fun _ last => ?_
    exact Text.not_mem_of_blank fits.all_blanksLeft (c := '-') rfl (List.mem_of_getLast? last)

/-- An action says with markers what it says without. -/
theorem Fits.bareAction_around (fits : marks.Fits body) (unmarked : isMarked body = false) :
    bareAction (marks.around body) = bareAction body := by
  obtain ⟨left, right⟩ := Bool.or_eq_false_iff.mp unmarked
  rw [bareAction, fits.drop_left left, fits.drop_right right,
    Text.trim_padded fits.all_blanksLeft fits.all_blanksRight, bareAction,
    dropLeftMarker_of_unmarked left, dropRightMarker_of_unmarked right]

/-- No braces come about that would end the action early. -/
theorem Fits.cut_around (fits : marks.Fits body) (noBraces : occursIn closingBraces body = false)
    (ending : body.getLast? ≠ some '}') (rest : List Char) :
    cut closingBraces (marks.around body ++ '}' :: '}' :: rest) =
      some (marks.around body, rest) := by
  have inFront : '}' ∉ marks.front := by
    unfold front
    cases left : marks.left with
    | none => exact List.not_mem_nil
    | some blanks =>
      have areBlank := (fits.left blanks left).1
      exact List.not_mem_cons_of_ne_of_not_mem (by decide) (Text.not_mem_of_blank areBlank rfl)
  have inBack : '}' ∉ marks.back := by
    unfold back
    cases right : marks.right with
    | none => exact List.not_mem_nil
    | some blanks =>
      have areBlank := (fits.right blanks right).1
      simpa using Text.not_mem_of_blank areBlank (c := '}') rfl
  refine Text.cut_double ?_ ?_ rest
  · rw [around, Text.occursIn_double_surrounded inFront inBack]
    exact noBraces
  · intro last
    rw [around, List.getLast?_append, List.getLast?_append] at last
    rcases Option.or_eq_some_iff.mp last with inBoth | ⟨-, front⟩
    · rcases Option.or_eq_some_iff.mp inBoth with back | ⟨-, inBody⟩
      · exact inBack (List.mem_of_getLast? back)
      · exact ending inBody
    · exact inFront (List.mem_of_getLast? front)

end Markers

/-! ### The texts between the actions -/

/-- A text between two actions, with the markers that face it. -/
structure Run where
  content : List Char
  behindMarker : Bool
  beforeMarker : Bool

/-- What is left of it. -/
def Run.kept (run : Run) : List Char :=
  keptText run.behindMarker run.beforeMarker run.content

/-- The texts before, between and behind the actions of a text that are given markers. -/
def runsOf (behindMarker : Bool) : List Markers → List Char → List Run
  | [], text => [⟨text, behindMarker, false⟩]
  | marks :: others, text =>
    match cut openingBraces text with
    | none => [⟨text, behindMarker, false⟩]
    | some (before, after) =>
      match cut closingBraces after with
      | none => [⟨text, behindMarker, false⟩]
      | some (_, rest) =>
        ⟨before, behindMarker, marks.left.isSome⟩ :: runsOf marks.right.isSome others rest

/-- The pieces of texts with actions between them. -/
def interleave : List (List Char) → List (List Char) → List Piece
  | [], _ => []
  | text :: texts, [] => textPiece text ++ interleave texts []
  | text :: texts, action :: actions => textPiece text ++ .action action :: interleave texts actions

/-- A text has its actions between its runs, and with markers it has the same actions between what
is left of them. -/
theorem pieces_withMarkers {text : List Char} {list : List Piece} (falls : FallsInto text list)
    {marks : List Markers} (fit : List.Forall₂ Markers.Fits marks (actionTexts text))
    (behindMarker : Bool) :
    pieces false text =
        interleave ((runsOf behindMarker marks text).map Run.content) (actions text) ∧
      pieces behindMarker (withMarkers marks text) =
        interleave ((runsOf behindMarker marks text).map Run.kept) (actions text) := by
  induction falls generalizing marks behindMarker with
  | @text content absent =>
    rw [actionTexts_of_uncut absent] at fit
    cases fit
    rw [actions, actionTexts_of_uncut absent, pieces_of_uncut absent, withMarkers,
      pieces_of_uncut absent]
    exact ⟨(List.append_nil _).symm, (List.append_nil _).symm⟩
  | @action content before after body rest later opens closes unmarked _ inductionHypothesis =>
    rw [actionTexts_of_cuts opens closes] at fit
    obtain ⟨here, others, fits, behind, rfl⟩ : ∃ here others, here.Fits body ∧
        List.Forall₂ Markers.Fits others (actionTexts rest) ∧ marks = here :: others := by
      cases fit with
      | cons fits behind => exact ⟨_, _, fits, behind, rfl⟩
    obtain ⟨left, right⟩ := Bool.or_eq_false_iff.mp unmarked
    obtain ⟨-, absent, ending⟩ := Text.cut_double_iff.mp opens
    obtain ⟨-, noBraces, bodyEnding⟩ := Text.cut_double_iff.mp closes
    have opensMarked : cut openingBraces (withMarkers (here :: others) content) =
        some (before, here.around body ++ '}' :: '}' :: withMarkers others rest) := by
      have shape : withMarkers (here :: others) content = before ++ '{' :: '{' ::
          (here.around body ++ '}' :: '}' :: withMarkers others rest) := by
        simp only [withMarkers, opens, closes]
        simp [openingBraces, closingBraces]
      rw [shape]
      exact Text.cut_double absent ending _
    have runsHere : runsOf behindMarker (here :: others) content =
        ⟨before, behindMarker, here.left.isSome⟩ :: runsOf here.right.isSome others rest := by
      simp only [runsOf, opens, closes]
    have actionsHere : actions content = bareAction body :: actions rest := by
      rw [actions, actionTexts_of_cuts opens closes]
      rfl
    rw [runsHere, actionsHere, pieces_of_cuts opens closes, dropLeftMarker_of_unmarked left,
      dropRightMarker_of_unmarked right, pieces_of_cuts opensMarked
        (fits.cut_around noBraces bodyEnding _), fits.drop_left left, fits.drop_right right,
      fits.bareAction_around unmarked]
    exact ⟨congrArg (textPiece before ++ .action (bareAction body) :: ·)
        (inductionHypothesis behind here.right.isSome).1,
      congrArg (textPiece _ ++ .action (bareAction body) :: ·)
        (inductionHypothesis behind here.right.isSome).2⟩

end Metasearch.Template
