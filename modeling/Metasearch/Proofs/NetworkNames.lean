/-
This file settles that the form of a name that goes over the wire is its own form: bringing it
into that form a second time leaves it as it is. What is in lower case stays so, a label that was
read once is read the same way again, and a label that the code for labels has written passes the
test for such labels, because it is read back as what it was written for.
-/
import Metasearch.Proofs.LabelCode

namespace Metasearch.Url

open Text (splitAt)

/-! ### Characters of names -/

/-- A character that stands in a name of the wire, and stays as it is there. -/
structure IsNameChar (c : Char) : Prop where
  ascii : c.toNat < firstPoint
  folded : foldNameChar c = [c]
  allowed : barredFromNames c = false

/-- A letter of ASCII in upper case. -/
def IsUpper (c : Char) : Prop :=
  65 ≤ c.toNat ∧ c.toNat ≤ 90

instance : DecidablePred IsUpper := fun c => inferInstanceAs (Decidable (65 ≤ c.toNat ∧ _))

theorem folded_of_not_upper {c : Char} (ascii : c.toNat < firstPoint) (noUpper : ¬IsUpper c) :
    foldNameChar c = [c] := by
  have every : ∀ c ∈ Text.asciiChars, ¬IsUpper c → foldNameChar c = [c] :=
    Text.forall_of_all (by decide)
  exact every c (Text.mem_asciiChars ascii) noUpper

theorem toNat_ofNat (point : Nat) :
    (Char.ofNat point).toNat = point ∨ (Char.ofNat point).toNat = 0 := by
  by_cases valid : point.isValidChar
  · left
    rw [Char.ofNat, dif_pos valid]
    rfl
  · right
    rw [Char.ofNat, dif_neg valid]
    rfl

theorem toLower_not_upper {c : Char} (ascii : c.toNat < firstPoint) : ¬IsUpper c.toLower := by
  have every : ∀ c ∈ Text.asciiChars, ¬IsUpper c.toLower := Text.forall_of_all (by decide)
  exact every c (Text.mem_asciiChars ascii)

/-- What a character is folded to is folded, as far as it is of ASCII. -/
theorem folded_of_mem_foldNameChar {c d : Char} (member : d ∈ foldNameChar c)
    (ascii : d.toNat < firstPoint) : foldNameChar d = [d] := by
  refine folded_of_not_upper ascii ?_
  unfold foldNameChar at member
  dsimp only at member
  split at member
  · next low =>
    rw [List.mem_singleton.mp member]
    exact toLower_not_upper low
  · next high =>
    split at member
    · rw [List.mem_singleton.mp member]
      decide
    · split at member
      · exact absurd member List.not_mem_nil
      · split at member
        · next wide =>
          rw [List.mem_singleton.mp member]
          refine toLower_not_upper ?_
          simp only [Bool.and_eq_true, decide_eq_true_eq] at wide
          rcases toNat_ofNat (c.toNat - 0xFEE0) with same | zero
          · rw [same]
            show _ < 0x80
            omega
          · rw [zero]
            decide
        · split at member
          · next first last step distance found =>
            have inRuns := List.mem_of_find?_eq_some found
            have inside := List.find?_some found
            simp only [Bool.and_eq_true, decide_eq_true_eq] at inside
            have beyond : ∀ run ∈ upperRuns, 90 < (run.1 : Int) + run.2.2.2 := by decide +kernel
            have far := beyond _ inRuns
            rw [List.mem_singleton.mp member]
            rcases toNat_ofNat ((c.toNat : Int) + distance).toNat with same | zero
            · rw [IsUpper, same]
              dsimp only at far
              omega
            · rw [IsUpper, zero]
              decide
          · rw [List.mem_singleton.mp member] at ascii
            exact absurd ascii high

/-! ### Labels -/

/-- A character that stands in a label of the wire. -/
def IsLabelChar (c : Char) : Prop :=
  IsNameChar c ∧ c ≠ '.'

theorem isLabelChar_of_mem {c : Char} (member : c ∈ '-' :: labelDigits) : IsLabelChar c := by
  have every : ∀ c ∈ '-' :: labelDigits,
      c.toNat < firstPoint ∧ foldNameChar c = [c] ∧ barredFromNames c = false ∧ c ≠ '.' :=
    Text.forall_of_all (by decide)
  obtain ⟨ascii, folded, allowed, noPoint⟩ := every c member
  exact ⟨⟨ascii, folded, allowed⟩, noPoint⟩

theorem standsInLabel_iff (c : Char) : standsInLabel c = true ↔
    Text.isShown c = true ∧ barredFromNames c = false ∧ c ≠ Text.replacement ∧
      foldNameChar c = [c] := by
  simp [standsInLabel, and_assoc]

/-- The characters of a code stand in names of the wire. -/
theorem isNameChar_of_mem_encodeLabel {label code : List Char}
    (encoded : encodeLabel? label = some code) (stands : label.all standsInLabel = true)
    {c : Char} (member : c ∈ code) : IsNameChar c := by
  rcases mem_encodeLabel encoded member with ⟨inLabel, ascii⟩ | written
  · obtain ⟨-, allowed, -, folded⟩ :=
      (standsInLabel_iff c).mp (List.all_eq_true.mp stands c inLabel)
    exact ⟨ascii, folded, allowed⟩
  · exact (isLabelChar_of_mem written).1

theorem no_point_encodeLabel {label code : List Char} (encoded : encodeLabel? label = some code)
    (noPoint : '.' ∉ label) : '.' ∉ code := by
  intro member
  rcases mem_encodeLabel encoded member with ⟨inLabel, -⟩ | written
  · exact noPoint inLabel
  · exact (isLabelChar_of_mem written).2 rfl

theorem isLabelChar_of_mem_labelMark {c : Char} (member : c ∈ labelMark) : IsLabelChar c := by
  have every : ∀ c ∈ labelMark, c ∈ '-' :: labelDigits := Text.forall_of_all (by decide)
  exact isLabelChar_of_mem (every c member)

/-- A code behind its mark is made of characters that stand in a label. -/
theorem isLabelChar_of_mem_coded {label code : List Char} (encoded : encodeLabel? label = some code)
    (stands : label.all standsInLabel = true) (noPoint : '.' ∉ code) :
    ∀ c ∈ labelMark ++ code, IsLabelChar c := by
  intro c member
  rcases List.mem_append.mp member with mark | inCode
  · exact isLabelChar_of_mem_labelMark mark
  · exact ⟨isNameChar_of_mem_encodeLabel encoded stands inCode,
      fun isPoint => noPoint (isPoint ▸ inCode)⟩

/-- A label that the code has written reads as itself. -/
theorem asciiLabel_encoded {label code : List Char} (encoded : encodeLabel? label = some code)
    (stands : label.all standsInLabel = true)
    (beyond : label.all (·.toNat < firstPoint) = false)
    (chars : ∀ c ∈ labelMark ++ code, IsLabelChar c) :
    asciiLabel? (labelMark ++ code) = some (labelMark ++ code) := by
  have ascii : (labelMark ++ code).all (·.toNat < firstPoint) = true :=
    List.all_eq_true.mpr fun c member => decide_eq_true (chars c member).1.ascii
  rw [asciiLabel?, if_pos ascii, Text.dropBeginning_append]
  simp only [decodeLabel_encodeLabel encoded, Option.bind_eq_bind, Option.bind_some, beyond,
    stands, encoded, Bool.not_true, Bool.or_self, Bool.false_eq_true, if_false, beq_self_eq_true,
    if_true]

/-- Reading a label gives characters of the wire, and a label that reads as itself. -/
theorem asciiLabel_settled {label written : List Char}
    (folded : ∀ c ∈ label, c.toNat < firstPoint → foldNameChar c = [c]) (noPoint : '.' ∉ label)
    (read : asciiLabel? label = some written) :
    (∀ c ∈ written, IsLabelChar c) ∧ asciiLabel? written = some written := by
  have again := read
  unfold asciiLabel? at read
  split at read
  · next ascii =>
    rw [List.all_eq_true] at ascii
    have ascii : ∀ c ∈ label, c.toNat < firstPoint := fun c member =>
      of_decide_eq_true (ascii c member)
    split at read
    · next code marked =>
      obtain ⟨meant, decoded, read⟩ := Option.bind_eq_some_iff.mp read
      split at read
      · exact absurd read (by simp)
      · next shown =>
        split at read
        · next same =>
          obtain rfl := Option.some.inj read
          simp only [Bool.or_eq_true, Bool.not_eq_true', not_or, Bool.not_eq_true,
            Bool.not_eq_false] at shown
          have label := Text.eq_append_of_dropBeginning marked
          refine ⟨?_, again⟩
          rw [label] at noPoint ⊢
          exact isLabelChar_of_mem_coded (eq_of_beq same) shown.2
            fun inCode => noPoint (List.mem_append_right _ inCode)
        · exact absurd read (by simp)
    · split at read
      · exact absurd read (by simp)
      · next none =>
        obtain rfl := Option.some.inj read
        refine ⟨fun c member => ⟨⟨ascii c member, folded c member (ascii c member), ?_⟩,
          fun isPoint => noPoint (isPoint ▸ member)⟩, again⟩
        rw [Bool.not_eq_true, List.any_eq_false] at none
        exact Bool.eq_false_iff.mpr (none c member)
  · next beyond =>
    split at read
    · next stands =>
      obtain ⟨code, encoded, rfl⟩ := Option.map_eq_some_iff.mp read
      have chars := isLabelChar_of_mem_coded encoded stands (no_point_encodeLabel encoded noPoint)
      exact ⟨chars, asciiLabel_encoded encoded stands (Bool.eq_false_iff.mpr beyond) chars⟩
    · exact absurd read (by simp)

/-! ### Names -/

/-- The labels of a name are read one by one, and read as themselves. -/
theorem mapM_asciiLabel_settled {labels written : List (List Char)}
    (folded : ∀ label ∈ labels, ∀ c ∈ label, c.toNat < firstPoint → foldNameChar c = [c])
    (noPoint : ∀ label ∈ labels, '.' ∉ label) (read : labels.mapM asciiLabel? = some written) :
    written.length = labels.length ∧ (∀ label ∈ written, ∀ c ∈ label, IsLabelChar c) ∧
      written.mapM asciiLabel? = some written := by
  induction labels generalizing written with
  | nil =>
    obtain rfl := Option.some.inj read
    exact ⟨rfl, by simp, rfl⟩
  | cons label labels inductionHypothesis =>
    rw [List.forall_mem_cons] at folded noPoint
    rw [List.mapM_cons] at read
    obtain ⟨first, readFirst, read⟩ := Option.bind_eq_some_iff.mp read
    obtain ⟨others, readOthers, result⟩ := Option.bind_eq_some_iff.mp read
    obtain rfl := Option.some.inj result
    obtain ⟨chars, again⟩ := asciiLabel_settled folded.1 noPoint.1 readFirst
    obtain ⟨length, charsLater, againLater⟩ :=
      inductionHypothesis folded.2 noPoint.2 readOthers
    refine ⟨congrArg (· + 1) length, List.forall_mem_cons.mpr ⟨chars, charsLater⟩, ?_⟩
    rw [List.mapM_cons, again, againLater]
    rfl

theorem mem_intercalate {mark c : Char} {pieces : List (List Char)}
    (member : c ∈ [mark].intercalate pieces) : c = mark ∨ ∃ piece ∈ pieces, c ∈ piece := by
  induction pieces with
  | nil => exact absurd member List.not_mem_nil
  | cons piece rest inductionHypothesis =>
    cases rest with
    | nil =>
      rw [List.intercalate_singleton] at member
      exact .inr ⟨piece, List.mem_singleton.mpr rfl, member⟩
    | cons next rest =>
      rw [List.intercalate_cons_cons, List.append_assoc, List.singleton_append, List.mem_append,
        List.mem_cons] at member
      rcases member with here | isMark | later
      · exact .inr ⟨piece, List.mem_cons_self, here⟩
      · exact .inl isMark
      · exact (inductionHypothesis later).imp_right fun ⟨piece, inRest, inPiece⟩ =>
          ⟨piece, List.mem_cons_of_mem _ inRest, inPiece⟩

theorem flatMap_foldNameChar {text : List Char} (chars : ∀ c ∈ text, IsNameChar c) :
    text.flatMap foldNameChar = text := by
  induction text with
  | nil => rfl
  | cons c rest inductionHypothesis =>
    rw [List.forall_mem_cons] at chars
    rw [List.flatMap_cons, chars.1.folded, inductionHypothesis chars.2]
    rfl

/-- Reading a name gives characters of the wire, and a name that reads as itself. -/
theorem asciiName_settled {name written : List Char} (read : asciiName? name = some written) :
    (∀ c ∈ written, IsNameChar c) ∧ asciiName? written = some written := by
  obtain ⟨labels, readLabels, rfl⟩ := Option.map_eq_some_iff.mp read
  have folded : ∀ label ∈ splitAt (· == '.') (name.flatMap foldNameChar), ∀ c ∈ label,
      c.toNat < firstPoint → foldNameChar c = [c] := by
    intro label isLabel c member ascii
    obtain ⟨source, -, folds⟩ := List.mem_flatMap.mp (Text.mem_of_mem_splitAt isLabel member).1
    exact folded_of_mem_foldNameChar folds ascii
  have noPoint : ∀ label ∈ splitAt (· == '.') (name.flatMap foldNameChar), '.' ∉ label := by
    intro label isLabel member
    exact absurd (Text.mem_of_mem_splitAt isLabel member).2 (by decide)
  obtain ⟨length, chars, again⟩ := mapM_asciiLabel_settled folded noPoint readLabels
  have some : labels ≠ [] := by
    intro none
    rw [none] at length
    exact Text.splitAt_ne_nil _ _ (List.length_eq_zero_iff.mp length.symm)
  have nameChars : ∀ c ∈ ['.'].intercalate labels, IsNameChar c := by
    intro c member
    rcases mem_intercalate member with rfl | ⟨label, isLabel, inLabel⟩
    · exact ⟨by decide, by decide, by decide⟩
    · exact (chars label isLabel c inLabel).1
  have whole : ∀ label ∈ labels, ∀ c ∈ label, (c == '.') = false := fun label isLabel c member =>
    beq_eq_false_iff_ne.mpr (chars label isLabel c member).2
  refine ⟨nameChars, ?_⟩
  rw [asciiName?, flatMap_foldNameChar nameChars, Text.splitAt_intercalate (by decide) whole some,
    again]
  rfl

end Metasearch.Url
