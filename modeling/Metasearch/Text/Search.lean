/-
Looking for one text inside another. Occurrences are found from the left and do not overlap:
after an occurrence the search goes on behind it.
-/

namespace Metasearch.Text

/-- The text before the first occurrence of `needle` and the text after it. -/
def cut (needle : List Char) : List Char → Option (List Char × List Char)
  | [] => if needle.isEmpty then some ([], []) else none
  | c :: rest =>
    if needle.isPrefixOf (c :: rest) then some ([], (c :: rest).drop needle.length)
    else (cut needle rest).map fun (before, after) => (c :: before, after)

/-- The cut loses nothing but the needle. -/
theorem eq_append_of_cut {needle text before after : List Char}
    (found : cut needle text = some (before, after)) : text = before ++ needle ++ after := by
  induction text generalizing before after with
  | nil =>
    simp only [cut] at found
    split at found
    · next empty => simp_all
    · simp at found
  | cons c rest inductionHypothesis =>
    simp only [cut] at found
    split at found
    · next isPrefix =>
      obtain ⟨tail, tailEq⟩ := List.isPrefixOf_iff_prefix.mp isPrefix
      simp only [Option.some.injEq, Prod.mk.injEq] at found
      obtain ⟨rfl, rfl⟩ := found
      simp [← tailEq]
    · obtain ⟨⟨head, tail⟩, inRest, equal⟩ := Option.map_eq_some_iff.mp found
      simp only [Prod.mk.injEq] at equal
      obtain ⟨rfl, rfl⟩ := equal
      simp [inductionHypothesis inRest]

/-- What follows an occurrence is shorter by the needle at least. -/
theorem length_of_cut {needle text before after : List Char}
    (found : cut needle text = some (before, after)) :
    after.length + needle.length ≤ text.length := by
  rw [eq_append_of_cut found]
  simp only [List.length_append]
  omega

/-- `needle` occurs in the text. -/
def occursIn (needle text : List Char) : Bool :=
  (cut needle text).isSome

/-! ### Needles of one character and of one character twice -/

/-- The first place where a character stands is where the text is cut. -/
theorem cut_single {mark : Char} {before : List Char} (absent : mark ∉ before)
    (after : List Char) : cut [mark] (before ++ mark :: after) = some (before, after) := by
  induction before with
  | nil => simp [cut]
  | cons c rest inductionHypothesis =>
    rw [List.mem_cons, not_or] at absent
    simp [cut, absent.1, inductionHypothesis absent.2]

theorem cut_of_absent {mark : Char} {text : List Char} (absent : mark ∉ text) :
    cut [mark] text = none := by
  cases found : cut [mark] text with
  | none => rfl
  | some parts => exact absurd (by rw [eq_append_of_cut found]; simp) absent

theorem occursIn_double_cons (mark c : Char) (rest : List Char) :
    occursIn [mark, mark] (c :: rest) =
      ((c == mark && rest.head? == some mark) || occursIn [mark, mark] rest) := by
  cases rest with
  | nil => simp [occursIn, cut]
  | cons next rest =>
    have beginning :
        ([mark, mark].isPrefixOf (c :: next :: rest)) = (c == mark && next == mark) := by
      rw [Bool.beq_comm (a := c), Bool.beq_comm (a := next)]
      simp [List.isPrefixOf]
    simp only [occursIn, cut, beginning, List.head?_cons, Option.some_beq_some]
    cases c == mark && next == mark <;> simp

/-- A text in which a doubled character does not occur and that does not end in the character is
cut where the doubled character follows it. -/
theorem cut_double {mark : Char} {before : List Char}
    (absent : occursIn [mark, mark] before = false) (ending : before.getLast? ≠ some mark)
    (after : List Char) :
    cut [mark, mark] (before ++ mark :: mark :: after) = some (before, after) := by
  induction before with
  | nil => simp [cut]
  | cons c rest inductionHypothesis =>
    rw [occursIn_double_cons, Bool.or_eq_false_iff] at absent
    have tail : rest.getLast? ≠ some mark := by
      cases rest with
      | nil => simp
      | cons next rest => simpa [List.getLast?_cons_cons] using ending
    have notHere : ([mark, mark].isPrefixOf (c :: (rest ++ mark :: mark :: after))) = false := by
      cases rest with
      | nil =>
        have different : mark ≠ c := fun same => ending (by simp [same])
        simp [List.isPrefixOf, different]
      | cons next rest =>
        have unequal := absent.1
        simp only [List.head?_cons, Option.some_beq_some, Bool.and_eq_false_iff,
          beq_eq_false_iff_ne] at unequal
        simp only [List.cons_append, List.isPrefixOf, Bool.and_true, Bool.and_eq_false_iff,
          beq_eq_false_iff_ne]
        exact unequal.imp Ne.symm Ne.symm
    rw [List.cons_append, cut, if_neg (by simp [notHere]), inductionHypothesis absent.2 tail]
    rfl

/-- Where a text is cut at a doubled character, nothing before that place could have been cut. -/
theorem cut_double_iff {mark : Char} {text before after : List Char} :
    cut [mark, mark] text = some (before, after) ↔ text = before ++ mark :: mark :: after ∧
      occursIn [mark, mark] before = false ∧ before.getLast? ≠ some mark := by
  constructor
  · intro found
    refine ⟨by simpa using eq_append_of_cut found, ?_⟩
    induction text generalizing before with
    | nil => cases found
    | cons c rest inductionHypothesis =>
      rw [cut] at found
      split at found
      case isTrue =>
        obtain ⟨rfl, -⟩ := Prod.mk.inj (Option.some.inj found)
        exact ⟨rfl, by simp⟩
      case isFalse notHere =>
        obtain ⟨⟨head, tail⟩, inRest, equal⟩ := Option.map_eq_some_iff.mp found
        obtain ⟨rfl, rfl⟩ := Prod.mk.inj equal
        obtain ⟨absent, ending⟩ := inductionHypothesis inRest
        have rest_eq : rest = head ++ mark :: mark :: tail := by
          simpa using eq_append_of_cut inRest
        subst rest_eq
        cases head with
        | nil =>
          refine ⟨by simp [occursIn, cut], ?_⟩
          rintro ⟨⟩
          exact notHere (by simp [List.isPrefixOf])
        | cons next rest =>
          refine ⟨?_, by simpa [List.getLast?_cons_cons] using ending⟩
          have apart : ¬ (c = mark ∧ next = mark) := by
            rintro ⟨rfl, rfl⟩
            exact notHere (by simp [List.isPrefixOf])
          rw [occursIn_double_cons, absent]
          simpa using apart
  · rintro ⟨rfl, absent, ending⟩
    exact cut_double absent ending after

/-- A doubled character does not occur across another character. -/
theorem occursIn_double_append {mark c : Char} (other : c ≠ mark) {left right : List Char}
    (inLeft : occursIn [mark, mark] left = false)
    (inRight : occursIn [mark, mark] right = false) :
    occursIn [mark, mark] (left ++ c :: right) = false := by
  induction left with
  | nil => simp [occursIn_double_cons, other, inRight]
  | cons head rest inductionHypothesis =>
    rw [occursIn_double_cons, Bool.or_eq_false_iff] at inLeft
    rw [List.cons_append, occursIn_double_cons, inductionHypothesis inLeft.2, Bool.or_false]
    cases rest with
    | nil => simp [other]
    | cons next rest => exact inLeft.1

theorem occursIn_of_not_mem {mark : Char} {text : List Char} (absent : mark ∉ text) :
    occursIn [mark, mark] text = false := by
  induction text with
  | nil => rfl
  | cons c rest inductionHypothesis =>
    rw [List.mem_cons, not_or] at absent
    rw [occursIn_double_cons, inductionHypothesis absent.2, beq_false_of_ne (Ne.symm absent.1)]
    rfl

/-- Text without a character, on either side, has no part in an occurrence of the character
twice. -/
theorem occursIn_double_surrounded {mark : Char} {left right : List Char} (inLeft : mark ∉ left)
    (inRight : mark ∉ right) (middle : List Char) :
    occursIn [mark, mark] (left ++ (middle ++ right)) = occursIn [mark, mark] middle := by
  have goesOn : occursIn [mark, mark] (middle ++ right) = occursIn [mark, mark] middle := by
    induction middle with
    | nil => exact occursIn_of_not_mem inRight
    | cons c rest inductionHypothesis =>
      rw [List.cons_append, occursIn_double_cons, occursIn_double_cons, inductionHypothesis]
      cases rest with
      | nil =>
        have other : (right.head? == some mark) = false :=
          beq_false_of_ne fun same => inRight (List.mem_of_head? same)
        rw [List.nil_append, other]
        rfl
      | cons next rest => rfl
  induction left with
  | nil => exact goesOn
  | cons c rest inductionHypothesis =>
    rw [List.mem_cons, not_or] at inLeft
    rw [List.cons_append, occursIn_double_cons, inductionHypothesis inLeft.2,
      beq_false_of_ne (Ne.symm inLeft.1)]
    rfl

/-- The rest of the text behind a given beginning, if it begins so. -/
def dropBeginning? (beginning text : List Char) : Option (List Char) :=
  if beginning.isPrefixOf text then some (text.drop beginning.length) else none

theorem dropBeginning_append (beginning rest : List Char) :
    dropBeginning? beginning (beginning ++ rest) = some rest := by
  rw [dropBeginning?, if_pos (List.isPrefixOf_iff_prefix.mpr (List.prefix_append _ _)),
    List.drop_left]

theorem eq_append_of_dropBeginning {beginning text rest : List Char}
    (found : dropBeginning? beginning text = some rest) : text = beginning ++ rest := by
  unfold dropBeginning? at found
  split at found
  · next isPrefix =>
    obtain ⟨tail, rfl⟩ := List.isPrefixOf_iff_prefix.mp isPrefix
    rw [← Option.some.inj found, List.drop_left]
  · exact absurd found (by simp)

/-- The text before a given ending, if it ends so. -/
def dropEnding? (ending text : List Char) : Option (List Char) :=
  (dropBeginning? ending.reverse text.reverse).map List.reverse

/-- The pieces of a text between the occurrences of a needle, the first `skip` characters left
out because they belong to an occurrence already found. -/
def piecesAfter (needle : List Char) : Nat → List Char → List (List Char)
  | _, [] => [[]]
  | skip + 1, _ :: rest => piecesAfter needle skip rest
  | 0, c :: rest =>
    if needle.isPrefixOf (c :: rest) then [] :: piecesAfter needle (needle.length - 1) rest
    else match piecesAfter needle 0 rest with
      | head :: tail => (c :: head) :: tail
      | [] => [[c]]

/-- The pieces of a text between the occurrences of a needle that is not empty. -/
def splitOn (needle text : List Char) : List (List Char) :=
  piecesAfter needle 0 text

/-- The text with every occurrence of `needle` written as `replacement`. -/
def replaceAll (needle replacement text : List Char) : List Char :=
  replacement.intercalate (splitOn needle text)

end Metasearch.Text
