/-
Blank characters are the characters with the Unicode property `White_Space`. This file names
them and gives the two things done with them everywhere else: taking blanks off the ends of a
text, and cutting a text into its words.
-/

namespace Metasearch.Text

/-- The Unicode property `White_Space`. -/
def isBlank (c : Char) : Bool :=
  let point := c.toNat
  (9 ≤ point && point ≤ 13) || point == 0x20 || point == 0x85 || point == 0xA0 ||
    point == 0x1680 || (0x2000 ≤ point && point ≤ 0x200A) || point == 0x2028 ||
    point == 0x2029 || point == 0x202F || point == 0x205F || point == 0x3000

theorem not_mem_of_blank {blanks : List Char} (areBlank : blanks.all isBlank = true) {c : Char}
    (solid : isBlank c = false) : c ∉ blanks := by
  intro member
  rw [List.all_eq_true.mp areBlank c member] at solid
  cases solid

/-! ### Taking blanks off the ends -/

/-- The text without the blanks it starts with. -/
def trimStart (text : List Char) : List Char :=
  text.dropWhile isBlank

/-- The text without the blanks it ends with. -/
def trimEnd (text : List Char) : List Char :=
  (text.reverse.dropWhile isBlank).reverse

/-- The text without the blanks at either end. -/
def trim (text : List Char) : List Char :=
  trimEnd (trimStart text)

/-- Blanks around a text do not count when those at its ends are taken off. -/
theorem trim_padded {before behind : List Char} (blankBefore : before.all isBlank = true)
    (blankBehind : behind.all isBlank = true) (text : List Char) :
    trim (before ++ text ++ behind) = trim text := by
  have start : trimStart (before ++ text ++ behind) = trimStart (text ++ behind) := by
    rw [trimStart, List.append_assoc,
      List.dropWhile_append_of_pos (List.all_eq_true.mp blankBefore), ← trimStart]
  have nothing : behind.dropWhile isBlank = [] := by
    rw [← List.append_nil behind, List.dropWhile_append_of_pos (List.all_eq_true.mp blankBehind)]
    rfl
  have backwards : ∀ text, trimEnd (text ++ behind) = trimEnd text := by
    intro text
    rw [trimEnd, List.reverse_append, List.dropWhile_append_of_pos, ← trimEnd]
    simpa using blankBehind
  rw [trim, trim, start]
  unfold trimStart
  rw [List.dropWhile_append]
  split
  case isTrue empty => rw [nothing, List.isEmpty_iff.mp empty]
  case isFalse => exact backwards _

/-- Nothing is taken off a text without blanks at its ends. -/
theorem trim_of_ends {first last : Char} {text : List Char} (head : text.head? = some first)
    (end? : text.getLast? = some last) (firstSolid : isBlank first = false)
    (lastSolid : isBlank last = false) : trim text = text := by
  have start : trimStart text = text := by
    obtain ⟨rest, rfl⟩ := List.head?_eq_some_iff.mp head
    exact List.dropWhile_cons_of_neg (by simp [firstSolid])
  have backwards : text.reverse.dropWhile isBlank = text.reverse := by
    obtain ⟨rest, rfl⟩ := List.getLast?_eq_some_iff.mp end?
    rw [List.reverse_append]
    exact List.dropWhile_cons_of_neg (by simp [lastSolid])
  rw [trim, start, trimEnd, backwards, List.reverse_reverse]

/-- A text without blanks at its ends is what is left when blanks are put before and behind it. -/
theorem trim_between {first last : Char} {before behind text : List Char}
    (blankBefore : before.all isBlank = true) (blankBehind : behind.all isBlank = true)
    (head : text.head? = some first) (end? : text.getLast? = some last)
    (firstSolid : isBlank first = false) (lastSolid : isBlank last = false) :
    trim (before ++ text ++ behind) = text :=
  (trim_padded blankBefore blankBehind text).trans (trim_of_ends head end? firstSolid lastSolid)

/-- So it is with the same blanks on both sides. -/
theorem trim_surrounded {first last : Char} {blanks text : List Char}
    (areBlank : blanks.all isBlank = true) (head : text.head? = some first)
    (end? : text.getLast? = some last) (firstSolid : isBlank first = false)
    (lastSolid : isBlank last = false) : trim (blanks ++ text ++ blanks) = text :=
  trim_between areBlank areBlank head end? firstSolid lastSolid

/-- `trim` on strings. -/
def trimmed (text : String) : String :=
  String.ofList (trim text.toList)

/-! ### Cutting -/

/-- The pieces of a text between the characters that separate; the separators are dropped, and
`n` separators make `n + 1` pieces, empty ones included. -/
def splitAt (separates : Char → Bool) : List Char → List (List Char)
  | [] => [[]]
  | c :: rest =>
    if separates c then [] :: splitAt separates rest
    else match splitAt separates rest with
      | head :: tail => (c :: head) :: tail
      | [] => [[c]]

theorem splitAt_ne_nil (separates : Char → Bool) (text : List Char) :
    splitAt separates text ≠ [] := by
  cases text with
  | nil => simp [splitAt]
  | cons c rest =>
    simp only [splitAt]
    split
    · simp
    · split <;> simp

/-- A separator ends the pieces before it and starts those behind it. -/
theorem splitAt_append_cons {separates : Char → Bool} {mark : Char}
    (separated : separates mark = true) (left right : List Char) :
    splitAt separates (left ++ mark :: right) =
      splitAt separates left ++ splitAt separates right := by
  induction left with
  | nil => simp [splitAt, separated]
  | cons c rest inductionHypothesis =>
    simp only [List.cons_append, splitAt, inductionHypothesis]
    split
    · rfl
    · cases pieces : splitAt separates rest with
      | nil => exact absurd pieces (splitAt_ne_nil separates rest)
      | cons head tail => rfl

/-- A text without separators is one piece. -/
theorem splitAt_of_none {separates : Char → Bool} {text : List Char}
    (none : ∀ c ∈ text, separates c = false) : splitAt separates text = [text] := by
  induction text with
  | nil => rfl
  | cons c rest inductionHypothesis =>
    rw [List.forall_mem_cons] at none
    simp [splitAt, none.1, inductionHypothesis none.2]

/-- A piece is made of characters of the text, and has no separator in it. -/
theorem mem_of_mem_splitAt {separates : Char → Bool} {text piece : List Char}
    (isPiece : piece ∈ splitAt separates text) {c : Char} (member : c ∈ piece) :
    c ∈ text ∧ separates c = false := by
  induction text generalizing piece with
  | nil =>
    rw [splitAt, List.mem_singleton] at isPiece
    exact absurd (isPiece ▸ member) List.not_mem_nil
  | cons d rest inductionHypothesis =>
    simp only [splitAt] at isPiece
    split at isPiece
    · rcases List.mem_cons.mp isPiece with rfl | later
      · exact absurd member List.not_mem_nil
      · exact (inductionHypothesis later member).imp_left (List.mem_cons_of_mem d)
    · next single =>
      split at isPiece
      · next head tail pieces =>
        rcases List.mem_cons.mp isPiece with rfl | later
        · rcases List.mem_cons.mp member with rfl | inHead
          · exact ⟨List.mem_cons_self, Bool.eq_false_iff.mpr single⟩
          · exact (inductionHypothesis (pieces ▸ List.mem_cons_self) inHead).imp_left
              (List.mem_cons_of_mem d)
        · exact (inductionHypothesis (pieces ▸ List.mem_cons_of_mem _ later) member).imp_left
            (List.mem_cons_of_mem d)
      · next none => exact absurd none (splitAt_ne_nil separates rest)

/-- Pieces put together with a separator between them are found again, unless there are none. -/
theorem splitAt_intercalate {separates : Char → Bool} {mark : Char}
    (separated : separates mark = true) {pieces : List (List Char)}
    (none : ∀ piece ∈ pieces, ∀ c ∈ piece, separates c = false) (some : pieces ≠ []) :
    splitAt separates ([mark].intercalate pieces) = pieces := by
  induction pieces with
  | nil => exact absurd rfl some
  | cons piece rest inductionHypothesis =>
    rw [List.forall_mem_cons] at none
    cases rest with
    | nil => rw [List.intercalate_singleton, splitAt_of_none none.1]
    | cons next rest =>
      rw [List.intercalate_cons_cons, List.append_assoc, List.singleton_append,
        splitAt_append_cons separated, splitAt_of_none none.1,
        inductionHypothesis none.2 (by simp)]
      rfl

/-- The longest runs of characters that are not blank, in order. -/
def words (text : List Char) : List (List Char) :=
  (splitAt isBlank text).filter fun piece => !piece.isEmpty

theorem words_append_cons {mark : Char} (blank : isBlank mark = true) (left right : List Char) :
    words (left ++ mark :: right) = words left ++ words right := by
  rw [words, splitAt_append_cons blank, List.filter_append]
  rfl

theorem words_of_none {text : List Char} (none : ∀ c ∈ text, isBlank c = false)
    (present : text ≠ []) : words text = [text] := by
  rw [words, splitAt_of_none none, List.filter_cons_of_pos (by simpa using present)]
  rfl

end Metasearch.Text
