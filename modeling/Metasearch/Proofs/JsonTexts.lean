/-
This file settles that reading JSON text undoes writing it, on one line as well as over several.
Texts and values are related without regard to either: `Spells` says which texts stand for a value,
with any blanks beside its parts. The reader finds the value of such a text, whatever stands behind
it, and both ways of writing give one.

What stands behind a number must not go on with it, which is why every text is read in front of
something that ends a number.
-/
import Mathlib.Data.List.DropRight
import Metasearch.Json.Reader
import Metasearch.Json.Writer
import Metasearch.Proofs.IntegerTexts

namespace Metasearch.Json

open Number (Binary64)

/-! ### Texts -/

theorem hexDigitValue_hexDigit {value : Nat} (small : value < 16) :
    Text.hexDigitValue? (Text.hexDigit value) = some value := by
  have every : ∀ digit : Fin 16, Text.hexDigitValue? (Text.hexDigit digit) = some digit.val := by
    decide
  exact every ⟨value, small⟩

/-- A control is written as the escape of its code point. -/
theorem hexFour?_control {point : Nat} (small : point < 0x20) (rest : List Char) :
    hexFour? ('0' :: '0' :: Text.hexDigit (point / 16) :: Text.hexDigit (point % 16) :: rest) =
      some (point, rest) := by
  have zero : Text.hexDigitValue? '0' = some 0 := rfl
  simp only [hexFour?, zero, hexDigitValue_hexDigit (show point / 16 < 16 by omega),
    hexDigitValue_hexDigit (show point % 16 < 16 by omega)]
  show some (0 * 4096 + 0 * 256 + point / 16 * 16 + point % 16, rest) = some (point, rest)
  congr 2
  omega

/-- A character is read back from the way it stands between quotes. -/
theorem readText?_escapedChar (c : Char) (fuel : Nat) (seen : List Char) (whole : Bool)
    (rest : List Char) :
    readText? (fuel + 1) seen whole (escapedChar c ++ rest) =
      readText? fuel (c :: seen) whole rest := by
  unfold escapedChar
  split
  · rfl
  · rfl
  · rfl
  · rfl
  · rfl
  · rfl
  · rfl
  · next quote backslash _ _ _ _ _ =>
    split
    · next control =>
      have noHigh : (decide (0xD800 ≤ c.toNat) && decide (c.toNat ≤ 0xDBFF)) = false := by
        simp only [Bool.and_eq_false_iff, decide_eq_false_iff_not]
        omega
      have noLow : (decide (0xDC00 ≤ c.toNat) && decide (c.toNat ≤ 0xDFFF)) = false := by
        simp only [Bool.and_eq_false_iff, decide_eq_false_iff_not]
        omega
      rw [readText?.eq_def]
      show (hexFour? ('0' :: '0' :: Text.hexDigit (c.toNat / 16) ::
        Text.hexDigit (c.toNat % 16) :: rest) >>= _) = _
      rw [hexFour?_control control, Option.bind_eq_bind, Option.bind_some]
      simp only [noHigh, noLow, Char.ofNat_toNat]
      rfl
    · next visible =>
      rw [List.singleton_append, readText?.eq_def]
      dsimp only
      rw [if_neg (by simpa using quote), if_neg visible, if_neg (by simpa using backslash)]

theorem escapedChar_ne_nil (c : Char) : escapedChar c ≠ [] := by
  unfold escapedChar
  split <;> try split
  all_goals simp

theorem length_le_flatMap_escapedChar (text : List Char) :
    text.length ≤ (text.flatMap escapedChar).length := by
  induction text with
  | nil => exact Nat.le_refl _
  | cons c rest inductionHypothesis =>
    have present := List.length_pos_iff.mpr (escapedChar_ne_nil c)
    rw [List.flatMap_cons, List.length_append, List.length_cons]
    omega

theorem readText?_flatMap (text : List Char) {fuel : Nat} (enough : text.length < fuel)
    (seen rest : List Char) :
    readText? fuel seen true (text.flatMap escapedChar ++ '"' :: rest) =
      some (seen.reverse ++ text, true, rest) := by
  induction text generalizing fuel seen with
  | nil =>
    obtain ⟨less, rfl⟩ := Nat.exists_eq_add_one.mpr enough
    rw [List.append_nil]
    rfl
  | cons c text inductionHypothesis =>
    obtain ⟨less, rfl⟩ := Nat.exists_eq_add_one.mpr (Nat.zero_lt_of_lt enough)
    rw [List.flatMap_cons, List.append_assoc, readText?_escapedChar,
      inductionHypothesis (Nat.lt_of_succ_lt_succ enough)]
    simp

/-- A text is read back behind its opening quote. -/
theorem readText?_writeText (text : String) (rest : List Char) :
    readText? ((text.toList.flatMap escapedChar ++ '"' :: rest).length + 1) [] true
        (text.toList.flatMap escapedChar ++ '"' :: rest) = some (text.toList, true, rest) := by
  have enough : text.toList.length < (text.toList.flatMap escapedChar ++ '"' :: rest).length + 1 := by
    have longer := length_le_flatMap_escapedChar text.toList
    rw [List.length_append]
    omega
  rw [readText?_flatMap text.toList enough]
  rfl

/-! ### Numbers -/

/-- What stands behind a number is no part of it. -/
def EndsNumber (rest : List Char) : Prop :=
  ∀ c ∈ rest.head?, c.isDigit = false ∧ c ≠ '.' ∧ c ≠ 'e' ∧ c ≠ 'E'

theorem endsNumber_nil : EndsNumber [] := by
  rintro _ ⟨⟩

/-- The digits in front of the end of a number, and the end. -/
theorem splitDigits {digits rest : List Char} (each : ∀ c ∈ digits, c.isDigit = true)
    (ends : EndsNumber rest) :
    (digits ++ rest).takeWhile Char.isDigit = digits ∧
      (digits ++ rest).dropWhile Char.isDigit = rest := by
  rw [List.takeWhile_append_of_pos each, List.dropWhile_append_of_pos each]
  cases rest with
  | nil => simp
  | cons c rest =>
    have noDigit := (ends c rfl).1
    rw [List.takeWhile_cons_of_neg (by simp [noDigit]), List.dropWhile_cons_of_neg (by simp [noDigit]),
      List.append_nil]
    exact ⟨rfl, rfl⟩

theorem foldDigits_concat (digits : List Char) (c : Char) (start : Nat) :
    foldDigits (digits ++ [c]) start =
      (let (whole, taken, left) := foldDigits digits start
       let next := whole * 10 + (c.toNat - 48)
       if left > 0 || next > Number.maxUnsigned then (whole, taken, left + 1)
       else (next, taken + 1, left)) := by
  rw [foldDigits, List.foldl_append]
  rfl

/-- All digits of a number of 64 bits fit. -/
theorem foldDigits_toDigits {number : Nat} (within : number ≤ Number.maxUnsigned) :
    foldDigits (Nat.toDigits 10 number) 0 = (number, (Nat.toDigits 10 number).length, 0) := by
  induction number using Nat.strongRecOn with
  | ind number inductionHypothesis =>
    have value {digit : Nat} (small : digit < 10) : digit.digitChar.toNat - 48 = digit :=
      Number.digitValue_digitChar small
    by_cases single : number < 10
    · rw [Nat.toDigits_of_lt_base single, ← List.nil_append [number.digitChar], foldDigits_concat]
      simp [foldDigits, value single, Nat.not_lt.mpr within]
    · have small : number % 10 < 10 := Nat.mod_lt _ (by decide)
      have whole : number / 10 * 10 + number % 10 = number := by omega
      rw [Nat.toDigits_of_base_le (by decide) (Nat.not_lt.mp single), foldDigits_concat,
        inductionHypothesis _ (by omega) (by omega)]
      simp [value small, whole, Nat.not_lt.mpr within]

/-- The digits of a number do not start with a zero. -/
theorem toDigits_head {number : Nat} (positive : 0 < number) :
    ∃ c rest, Nat.toDigits 10 number = c :: rest ∧ c ≠ '0' := by
  induction number using Nat.strongRecOn with
  | ind number inductionHypothesis =>
    by_cases single : number < 10
    · refine ⟨number.digitChar, [], Nat.toDigits_of_lt_base single, ?_⟩
      have every : ∀ digit : Fin 10, 0 < digit.val → digit.val.digitChar ≠ '0' := by decide
      exact every ⟨number, single⟩ positive
    · obtain ⟨c, rest, digits, notZero⟩ := inductionHypothesis (number / 10) (by omega) (by omega)
      rw [Nat.toDigits_of_base_le (by decide) (Nat.not_lt.mp single), digits]
      exact ⟨c, _, rfl, notZero⟩

theorem isDigit_of_mem_toDigits (number : Nat) :
    ∀ c ∈ Nat.toDigits 10 number, c.isDigit = true :=
  fun _ member => Nat.isDigit_of_mem_toDigits (by decide) (by decide) member

/-- A whole number is read from its digits. -/
theorem readNumber_toDigits {number : Nat} (within : number ≤ Number.maxUnsigned)
    (negative : Bool) {rest : List Char} (ends : EndsNumber rest) :
    readNumber negative (Nat.toDigits 10 number ++ rest) =
      if !negative then (.int number, some rest)
      else if number == 0 || number > Number.maxSigned + 1 then
        (.real true (Binary64.ofNat number), some rest)
      else (.int (-(number : Int)), some rest) := by
  obtain ⟨taken, dropped⟩ := splitDigits (isDigit_of_mem_toDigits number) ends
  have folded := foldDigits_toDigits within
  have noZeros : ∀ c more, Nat.toDigits 10 number ≠ '0' :: c :: more := by
    intro c more digits
    rcases Nat.eq_zero_or_pos number with rfl | positive
    · simp at digits
    · obtain ⟨first, rest, shape, notZero⟩ := toDigits_head positive
      rw [shape] at digits
      exact notZero (List.cons.inj digits).1
  unfold readNumber
  simp only [taken, dropped]
  split
  · next empty => exact absurd empty Nat.toDigits_ne_nil
  · next digits => exact absurd digits (noZeros _ _)
  · rw [folded]
    cases rest with
    | nil => rfl
    | cons c rest =>
      obtain ⟨-, noPoint, noLower, noUpper⟩ := ends c rfl
      simp only [beq_eq_false_iff_ne.mpr noPoint, beq_eq_false_iff_ne.mpr noLower,
        beq_eq_false_iff_ne.mpr noUpper]
      rfl

/-! ### Leaves -/

/-- A text stands for a value wherever it stands and whatever stands behind it, if that does not
go on with a number. -/
structure IsLeaf (value : Json) (text : List Char) : Prop where
  head : ∃ c more, text = c :: more ∧ isSpace c = false ∧ c ≠ ']'
  reads : ∀ fuel rest, EndsNumber rest → readValue (fuel + 1) (text ++ rest) = (value, some rest)

theorem skipSpace_of_head {c : Char} (solid : isSpace c = false) (rest : List Char) :
    skipSpace (c :: rest) = c :: rest := by
  rw [skipSpace, List.dropWhile_cons_of_neg (by simp [solid])]

theorem isLeaf_null : IsLeaf .null "null".toList :=
  ⟨⟨'n', _, rfl, by decide, by decide⟩, fun _ _ _ => rfl⟩

theorem isLeaf_bool (value : Bool) : IsLeaf (.bool value) (writeLeaf (.bool value)) := by
  cases value with
  | true => exact ⟨⟨'t', _, rfl, by decide, by decide⟩, fun _ _ _ => rfl⟩
  | false => exact ⟨⟨'f', _, rfl, by decide, by decide⟩, fun _ _ _ => rfl⟩

theorem writeText_append (text : String) (rest : List Char) :
    writeText text ++ rest = '"' :: (text.toList.flatMap escapedChar ++ '"' :: rest) := by
  simp [writeText]

theorem isLeaf_text (value : String) : IsLeaf (.text value) (writeText value) := by
  refine ⟨⟨'"', _, rfl, by decide, by decide⟩, fun fuel rest ends => ?_⟩
  rw [writeText_append, readValue, skipSpace_of_head (by decide)]
  simp only [readText?_writeText, String.ofList_toList]

theorem mem_of_isSpace {c : Char} (blank : isSpace c = true) : c ∈ [' ', '\n', '\t', '\r'] := by
  simpa [isSpace, or_assoc] using blank

theorem isSpace_of_digit {c : Char} (digit : c.isDigit = true) : isSpace c = false := by
  have every : ∀ blank ∈ [' ', '\n', '\t', '\r'], blank.isDigit = false :=
    Text.forall_of_all (by decide)
  refine Bool.eq_false_iff.mpr fun blank => ?_
  rw [every c (mem_of_isSpace blank)] at digit
  cases digit

/-- A text that starts with a digit is read as a number. -/
theorem readValue_of_digit {c : Char} (digit : c.isDigit = true) (fuel : Nat) (rest : List Char) :
    readValue (fuel + 1) (c :: rest) = readNumber false (c :: rest) := by
  have other : ∀ mark : Char, mark.isDigit = false → c ≠ mark := by
    rintro mark noDigit rfl
    rw [digit] at noDigit
    cases noDigit
  rw [readValue, skipSpace_of_head (isSpace_of_digit digit)]
  split
  · next empty => cases empty
  · next equal => exact absurd (List.cons.inj equal).1 (other 'n' (by decide))
  · next equal => exact absurd (List.cons.inj equal).1 (other 't' (by decide))
  · next equal => exact absurd (List.cons.inj equal).1 (other 'f' (by decide))
  · next equal => exact absurd (List.cons.inj equal).1 (other '-' (by decide))
  · next equal => exact absurd (List.cons.inj equal).1 (other '"' (by decide))
  · next equal => exact absurd (List.cons.inj equal).1 (other '[' (by decide))
  · next equal => exact absurd (List.cons.inj equal).1 (other '\x7b' (by decide))
  · rfl

/-- The whole numbers that are read back: the signed and the unsigned ones of 64 bits. -/
def fitsNumber (value : Int) : Bool :=
  -(Number.maxSigned : Int) - 1 ≤ value && value ≤ Number.maxUnsigned

theorem isLeaf_int {value : Int} (fits : fitsNumber value = true) :
    IsLeaf (.int value) (writeLeaf (.int value)) := by
  obtain ⟨low, high⟩ := (Bool.and_eq_true _ _).mp fits
  have low := of_decide_eq_true low
  have high := of_decide_eq_true high
  cases value with
  | ofNat size =>
    have written : writeLeaf (.int (Int.ofNat size)) = Nat.toDigits 10 size := by
      show (toString size).toList = _
      rw [Nat.toString_eq_ofList_toDigits, String.toList_ofList]
    have within : size ≤ Number.maxUnsigned := Int.ofNat_le.mp high
    obtain ⟨c, more, digits⟩ := List.exists_cons_of_ne_nil (Nat.toDigits_ne_nil (b := 10) (n := size))
    have digit : c.isDigit = true :=
      isDigit_of_mem_toDigits size c (by rw [digits]; exact List.mem_cons_self)
    rw [written]
    refine ⟨⟨c, more, digits, isSpace_of_digit digit, ?_⟩, fun fuel rest ends => ?_⟩
    · rintro rfl
      cases digit
    · have read := readNumber_toDigits within false ends
      rw [digits, List.cons_append] at read ⊢
      rw [readValue_of_digit digit, read]
      rfl
  | negSucc size =>
    have written : writeLeaf (.int (Int.negSucc size)) = '-' :: Nat.toDigits 10 (size + 1) := by
      show ("-" ++ toString (size + 1)).toList = _
      rw [Nat.toString_eq_ofList_toDigits]
      simp
    have small : size + 1 ≤ Number.maxSigned + 1 := by omega
    have within : size + 1 ≤ Number.maxUnsigned := Nat.le_trans small (by decide)
    rw [written]
    refine ⟨⟨'-', _, rfl, by decide, by decide⟩, fun fuel rest ends => ?_⟩
    have read := readNumber_toDigits within true ends
    rw [List.cons_append, readValue, skipSpace_of_head (by decide)]
    show readNumber true (Nat.toDigits 10 (size + 1) ++ rest) = _
    rw [read, if_neg (by decide), if_neg (by simpa using small)]
    rfl

theorem writeLeaf_one : writeLeaf (.real false (Binary64.ofNat 1)) = ['1', '.', '0'] := by
  decide

theorem scaleDecimal_one : scaleDecimal? 10 (-1) = some (Binary64.ofNat 1) := by
  decide

theorem isLeaf_one : IsLeaf (.real false (Binary64.ofNat 1))
    (writeLeaf (.real false (Binary64.ofNat 1))) := by
  rw [writeLeaf_one]
  refine ⟨⟨'1', _, rfl, by decide, by decide⟩, fun fuel rest ends => ?_⟩
  have zero : ∀ c ∈ ['0'], c.isDigit = true := by simp
  obtain ⟨taken, dropped⟩ := splitDigits zero ends
  have folded : foldDigits ['0'] 1 = (10, 1, 0) := by decide
  have scaled : scaleDecimal? 10 (((0 : Nat) : Int) - ((1 : Nat) : Int)) =
      some (Binary64.ofNat 1) := scaleDecimal_one
  rw [List.cons_append, readValue_of_digit (by decide)]
  show readReal false 1 0 ('.' :: (['0'] ++ rest)) = _
  simp only [readReal, taken, dropped, folded]
  cases rest with
  | nil => simp only [List.isEmpty_cons, Bool.false_eq_true, if_false, scaled]
  | cons c rest =>
    obtain ⟨-, -, noLower, noUpper⟩ := ends c rfl
    simp only [List.isEmpty_cons, beq_eq_false_iff_ne.mpr noLower, beq_eq_false_iff_ne.mpr noUpper,
      Bool.or_self, Bool.false_eq_true, if_false, scaled]

/-! ### Texts of values -/

mutual

/-- A text stands for a value: a leaf as it is written, or the parts between brackets, with any
blanks beside the parts. -/
inductive Spells : Json → List Char → Prop
  | leaf {value : Json} {text : List Char} (isLeaf : IsLeaf value text) : Spells value text
  | noItems : Spells (.list []) ['[', ']']
  | items {items : List Json} {text : List Char} (spells : SpellsItems items text) :
      Spells (.list items) ('[' :: text)
  | noFields : Spells (.object []) ['\x7b', '\x7d']
  | fields {fields : List (String × Json)} {text : List Char}
      (spells : SpellsFields fields text) : Spells (.object fields) ('\x7b' :: text)

/-- A text stands for the items of a list and its end. -/
inductive SpellsItems : List Json → List Char → Prop
  | last {item : Json} {before text behind : List Char} (blankBefore : before.all isSpace = true)
      (blankBehind : behind.all isSpace = true) (spells : Spells item text) :
      SpellsItems [item] (before ++ (text ++ (behind ++ [']'])))
  | next {item : Json} {items : List Json} {before text more : List Char}
      (blankBefore : before.all isSpace = true) (spells : Spells item text)
      (later : SpellsItems items more) :
      SpellsItems (item :: items) (before ++ (text ++ ',' :: more))

/-- A text stands for the fields of an object and its end. -/
inductive SpellsFields : List (String × Json) → List Char → Prop
  | last {name : String} {value : Json} {before between text behind : List Char}
      (blankBefore : before.all isSpace = true) (blankBetween : between.all isSpace = true)
      (blankBehind : behind.all isSpace = true) (spells : Spells value text) :
      SpellsFields [(name, value)]
        (before ++ (writeText name ++ ':' :: (between ++ (text ++ (behind ++ ['\x7d'])))))
  | next {name : String} {value : Json} {fields : List (String × Json)}
      {before between text more : List Char} (blankBefore : before.all isSpace = true)
      (blankBetween : between.all isSpace = true) (spells : Spells value text)
      (later : SpellsFields fields more) :
      SpellsFields ((name, value) :: fields)
        (before ++ (writeText name ++ ':' :: (between ++ (text ++ ',' :: more))))

end

theorem skipSpace_append {blanks : List Char} (blank : blanks.all isSpace = true)
    (rest : List Char) : skipSpace (blanks ++ rest) = skipSpace rest :=
  List.dropWhile_append_of_pos fun c member => List.all_eq_true.mp blank c member

theorem readValue_blanks {blanks : List Char} (blank : blanks.all isSpace = true) (fuel : Nat)
    (rest : List Char) : readValue fuel (blanks ++ rest) = readValue fuel rest := by
  cases fuel with
  | zero => rfl
  | succ fuel => rw [readValue, readValue, skipSpace_append blank]

theorem skipSpace_skipSpace (text : List Char) : skipSpace (skipSpace text) = skipSpace text :=
  List.dropWhile_idempotent _ _

theorem readItems_skipSpace (fuel : Nat) (text : List Char) :
    readItems fuel (skipSpace text) = readItems fuel text := by
  cases fuel with
  | zero => rfl
  | succ fuel =>
    have value : readValue fuel (skipSpace text) = readValue fuel text := by
      cases fuel with
      | zero => rfl
      | succ fuel => rw [readValue, readValue, skipSpace_skipSpace]
    rw [readItems, readItems, value]

theorem readFields_skipSpace (fuel : Nat) (text : List Char) :
    readFields fuel (skipSpace text) = readFields fuel text := by
  cases fuel with
  | zero => rfl
  | succ fuel => rw [readFields, readFields, skipSpace_skipSpace]

theorem endsNumber_cons {c : Char} (mark : isSpace c = true ∨ c ∈ [',', ']', '\x7d'])
    (rest : List Char) : EndsNumber (c :: rest) := by
  rintro _ ⟨⟩
  have every : ∀ mark ∈ [' ', '\n', '\t', '\r', ',', ']', '\x7d'],
      mark.isDigit = false ∧ mark ≠ '.' ∧ mark ≠ 'e' ∧ mark ≠ 'E' := Text.forall_of_all (by decide)
  refine every c ?_
  rcases mark with blank | isMark
  · exact List.mem_append_left [',', ']', '\x7d'] (mem_of_isSpace blank)
  · exact List.mem_append_right [' ', '\n', '\t', '\r'] isMark

theorem endsNumber_blanks {blanks : List Char} (blank : blanks.all isSpace = true) {c : Char}
    (mark : c ∈ [',', ']', '\x7d']) (rest : List Char) : EndsNumber (blanks ++ c :: rest) := by
  cases blanks with
  | nil => exact endsNumber_cons (.inr mark) rest
  | cons first more =>
    rw [List.all_cons, Bool.and_eq_true] at blank
    exact endsNumber_cons (.inl blank.1) _

/-- The text of a value starts with neither a blank nor the end of a list. -/
theorem Spells.head {value : Json} {text : List Char} (spells : Spells value text) :
    ∃ c more, text = c :: more ∧ isSpace c = false ∧ c ≠ ']' := by
  cases spells with
  | leaf isLeaf => exact isLeaf.head
  | noItems | items _ => exact ⟨'[', _, rfl, by decide, by decide⟩
  | noFields | fields _ => exact ⟨'\x7b', _, rfl, by decide, by decide⟩

theorem SpellsItems.head {items : List Json} {text : List Char} (spells : SpellsItems items text)
    (rest : List Char) :
    ∃ c more, skipSpace (text ++ rest) = c :: more ∧ c ≠ ']' := by
  cases spells with
  | last blankBefore _ spells | next blankBefore spells _ =>
    obtain ⟨c, more, rfl, solid, other⟩ := spells.head
    rw [List.append_assoc, skipSpace_append blankBefore, List.append_assoc, List.cons_append,
      skipSpace_of_head solid]
    exact ⟨c, _, rfl, other⟩

theorem SpellsFields.head {fields : List (String × Json)} {text : List Char}
    (spells : SpellsFields fields text) (rest : List Char) :
    ∃ more, skipSpace (text ++ rest) = '"' :: more := by
  cases spells with
  | last blankBefore _ _ _ | next blankBefore _ _ _ =>
    rw [List.append_assoc, skipSpace_append blankBefore, writeText_append, List.cons_append,
      skipSpace_of_head (by decide)]
    exact ⟨_, rfl⟩

-- A list or an object takes fuel for itself and for each of its parts, and every part has a
-- character of its own behind it; so two steps for each character are enough.
mutual

/-- A text that stands for a value is read as that value, and nothing behind it is taken. -/
theorem Spells.reads {value : Json} {text : List Char} (spells : Spells value text) {fuel : Nat}
    (enough : 2 * text.length ≤ fuel) {rest : List Char} (ends : EndsNumber rest) :
    readValue fuel (text ++ rest) = (value, some rest) := by
  obtain ⟨fuel, rfl⟩ : ∃ less, fuel = less + 1 := by
    obtain ⟨c, more, rfl, -⟩ := spells.head
    rw [List.length_cons] at enough
    exact Nat.exists_eq_add_one.mpr (by omega)
  cases spells with
  | leaf isLeaf => exact isLeaf.reads fuel rest ends
  | noItems => rfl
  | noFields => rfl
  | @items items text spells =>
    obtain ⟨c, more, shape, other⟩ := spells.head rest
    rw [List.length_cons] at enough
    rw [List.cons_append, readValue, skipSpace_of_head (by decide)]
    simp only [shape]
    split
    · next equal => exact absurd (List.cons.inj equal).1 other
    · rw [← shape, readItems_skipSpace, spells.reads (by omega) rest]
  | @fields fields text spells =>
    obtain ⟨more, shape⟩ := spells.head rest
    rw [List.length_cons] at enough
    rw [List.cons_append, readValue, skipSpace_of_head (by decide)]
    simp only [shape]
    split
    · next equal => cases equal
    · rw [← shape, readFields_skipSpace, spells.reads (by omega) rest]

theorem SpellsItems.reads {items : List Json} {text : List Char} (spells : SpellsItems items text)
    {fuel : Nat} (enough : 2 * text.length + 1 ≤ fuel) (rest : List Char) :
    readItems fuel (text ++ rest) = (items, some rest) := by
  obtain ⟨fuel, rfl⟩ : ∃ less, fuel = less + 1 := Nat.exists_eq_add_one.mpr (by omega)
  cases spells with
  | @last item before text behind blankBefore blankBehind spells =>
    simp only [List.length_append, List.length_singleton] at enough
    have value : readValue fuel (before ++ (text ++ (behind ++ [']'])) ++ rest) =
        (item, some (behind ++ ']' :: rest)) := by
      simp only [List.append_assoc, List.singleton_append]
      rw [readValue_blanks blankBefore,
        spells.reads (by omega) (endsNumber_blanks blankBehind (by decide) rest)]
    rw [readItems, value]
    simp only [skipSpace_append blankBehind, skipSpace_of_head (show isSpace ']' = false by decide)]
  | @next item items before text more blankBefore spells later =>
    simp only [List.length_append, List.length_cons] at enough
    have value : readValue fuel (before ++ (text ++ ',' :: more) ++ rest) =
        (item, some (',' :: (more ++ rest))) := by
      simp only [List.append_assoc, List.cons_append]
      rw [readValue_blanks blankBefore,
        spells.reads (by omega) (endsNumber_cons (.inr (by decide)) _)]
    rw [readItems, value]
    simp only [skipSpace_of_head (show isSpace ',' = false by decide),
      later.reads (show 2 * more.length + 1 ≤ fuel by omega) rest]

theorem SpellsFields.reads {fields : List (String × Json)} {text : List Char}
    (spells : SpellsFields fields text) {fuel : Nat} (enough : 2 * text.length + 1 ≤ fuel)
    (rest : List Char) : readFields fuel (text ++ rest) = (fields, some rest) := by
  obtain ⟨fuel, rfl⟩ : ∃ less, fuel = less + 1 := Nat.exists_eq_add_one.mpr (by omega)
  cases spells with
  | @last name value before between text behind blankBefore blankBetween blankBehind spells =>
    simp only [List.length_append, List.length_cons, List.length_nil] at enough
    have read : readValue fuel (between ++ (text ++ (behind ++ '\x7d' :: rest))) =
        (value, some (behind ++ '\x7d' :: rest)) := by
      rw [readValue_blanks blankBetween,
        spells.reads (by omega) (endsNumber_blanks blankBehind (by decide) rest)]
    simp only [List.append_assoc, List.cons_append, List.nil_append]
    rw [readFields, skipSpace_append blankBefore, writeText_append,
      skipSpace_of_head (by decide)]
    simp only [readText?_writeText, skipSpace_of_head (show isSpace ':' = false by decide), read,
      skipSpace_append blankBehind, skipSpace_of_head (show isSpace '\x7d' = false by decide),
      String.ofList_toList]
  | @next name value fields before between text more blankBefore blankBetween spells later =>
    simp only [List.length_append, List.length_cons] at enough
    have read : readValue fuel (between ++ (text ++ ',' :: (more ++ rest))) =
        (value, some (',' :: (more ++ rest))) := by
      rw [readValue_blanks blankBetween,
        spells.reads (by omega) (endsNumber_cons (.inr (by decide)) _)]
    simp only [List.append_assoc, List.cons_append]
    rw [readFields, skipSpace_append blankBefore, writeText_append,
      skipSpace_of_head (by decide)]
    simp only [readText?_writeText, skipSpace_of_head (show isSpace ':' = false by decide), read,
      skipSpace_of_head (show isSpace ',' = false by decide),
      later.reads (show 2 * more.length + 1 ≤ fuel by omega) rest, String.ofList_toList]

end

/-! ### Written values -/

/-- The values that are read back from what is written for them: the whole numbers among them fit
64 bits, and for a floating-point number it depends on its digits. -/
inductive IsPlain : Json → Prop
  | null : IsPlain .null
  | bool (value : Bool) : IsPlain (.bool value)
  | int {value : Int} (fits : fitsNumber value = true) : IsPlain (.int value)
  | real {negative : Bool} {size : Binary64}
      (isLeaf : IsLeaf (.real negative size) (writeLeaf (.real negative size))) :
      IsPlain (.real negative size)
  | text (value : String) : IsPlain (.text value)
  | list {items : List Json} (each : ∀ item ∈ items, IsPlain item) : IsPlain (.list items)
  | object {fields : List (String × Json)} (each : ∀ field ∈ fields, IsPlain field.2) :
      IsPlain (.object fields)

theorem areSound_of_forall {items : List Json} (each : ∀ item ∈ items, isSound item = true) :
    areSound items = true := by
  induction items with
  | nil => rw [areSound]
  | cons item items inductionHypothesis =>
    obtain ⟨here, later⟩ := List.forall_mem_cons.mp each
    rw [areSound, here, inductionHypothesis later]
    rfl

theorem fieldsAreSound_of_forall {fields : List (String × Json)}
    (each : ∀ field ∈ fields, isSound field.2 = true) : fieldsAreSound fields = true := by
  induction fields with
  | nil => rw [fieldsAreSound]
  | cons field fields inductionHypothesis =>
    obtain ⟨here, later⟩ := List.forall_mem_cons.mp each
    rw [fieldsAreSound, here, inductionHypothesis later]
    rfl

theorem IsPlain.isSound {value : Json} (plain : IsPlain value) : value.isSound = true := by
  induction plain with
  | null | bool _ | int _ | real _ | text _ => simp only [Json.isSound]
  | list _ inductionHypothesis =>
    rw [Json.isSound]
    exact areSound_of_forall inductionHypothesis
  | object _ inductionHypothesis =>
    rw [Json.isSound]
    exact fieldsAreSound_of_forall inductionHypothesis

theorem spellsItems_compact {items : List Json}
    (each : ∀ item ∈ items, Spells item (compact item)) (present : items ≠ []) :
    SpellsItems items (compactItems true items) := by
  induction items with
  | nil => exact absurd rfl present
  | cons item items inductionHypothesis =>
    obtain ⟨here, later⟩ := List.forall_mem_cons.mp each
    cases items with
    | nil =>
      have shape : compactItems true [item] = [] ++ (compact item ++ ([] ++ [']'])) := by
        simp [compactItems]
      rw [shape]
      exact .last rfl rfl here
    | cons second items =>
      have shape : compactItems true (item :: second :: items) =
          [] ++ (compact item ++ ',' :: compactItems true (second :: items)) := by
        simp [compactItems]
      rw [shape]
      exact .next rfl here (inductionHypothesis later (by simp))

theorem spellsFields_compact {fields : List (String × Json)}
    (each : ∀ field ∈ fields, Spells field.2 (compact field.2)) (present : fields ≠ []) :
    SpellsFields fields (compactFields true fields) := by
  induction fields with
  | nil => exact absurd rfl present
  | cons field fields inductionHypothesis =>
    obtain ⟨name, value⟩ := field
    obtain ⟨here, later⟩ := List.forall_mem_cons.mp each
    cases fields with
    | nil =>
      have shape : compactFields true [(name, value)] =
          [] ++ (writeText name ++ ':' :: ([] ++ (compact value ++ ([] ++ ['\x7d'])))) := by
        simp [compactFields]
      rw [shape]
      exact .last rfl rfl rfl here
    | cons second fields =>
      have shape : compactFields true ((name, value) :: second :: fields) =
          [] ++ (writeText name ++
            ':' :: ([] ++ (compact value ++ ',' :: compactFields true (second :: fields)))) := by
        simp [compactFields]
      rw [shape]
      exact .next rfl rfl here (inductionHypothesis later (by simp))

/-- What is written on one line stands for its value. -/
theorem spells_compact {value : Json} (plain : IsPlain value) : Spells value (compact value) := by
  induction plain with
  | null => exact .leaf isLeaf_null
  | bool value => exact .leaf (isLeaf_bool value)
  | int fits => exact .leaf (isLeaf_int fits)
  | real isLeaf => exact .leaf isLeaf
  | text value => exact .leaf (isLeaf_text value)
  | @list items _ inductionHypothesis =>
    cases items with
    | nil => exact .noItems
    | cons item items => exact .items (spellsItems_compact inductionHypothesis (by simp))
  | @object fields _ inductionHypothesis =>
    cases fields with
    | nil => exact .noFields
    | cons field fields => exact .fields (spellsFields_compact inductionHypothesis (by simp))

theorem newLine_blank (level : Nat) : (newLine level).all isSpace = true := by
  simp [newLine, isSpace]

theorem spellsItems_spread {level : Nat} {items : List Json}
    (each : ∀ item ∈ items, Spells item (spread level item)) (present : items ≠ [])
    (outer : Nat) :
    SpellsItems items (spreadItems level true items ++ newLine outer ++ [']']) := by
  induction items with
  | nil => exact absurd rfl present
  | cons item items inductionHypothesis =>
    obtain ⟨here, later⟩ := List.forall_mem_cons.mp each
    cases items with
    | nil =>
      have shape : spreadItems level true [item] ++ newLine outer ++ [']'] =
          newLine level ++ (spread level item ++ (newLine outer ++ [']'])) := by
        simp [spreadItems]
      rw [shape]
      exact .last (newLine_blank level) (newLine_blank outer) here
    | cons second items =>
      have shape : spreadItems level true (item :: second :: items) ++ newLine outer ++ [']'] =
          newLine level ++ (spread level item ++
            ',' :: (spreadItems level true (second :: items) ++ newLine outer ++ [']'])) := by
        simp [spreadItems]
      rw [shape]
      exact .next (newLine_blank level) here (inductionHypothesis later (by simp))

theorem spellsFields_spread {level : Nat} {fields : List (String × Json)}
    (each : ∀ field ∈ fields, Spells field.2 (spread level field.2)) (present : fields ≠ [])
    (outer : Nat) :
    SpellsFields fields (spreadFields level true fields ++ newLine outer ++ ['\x7d']) := by
  induction fields with
  | nil => exact absurd rfl present
  | cons field fields inductionHypothesis =>
    obtain ⟨name, value⟩ := field
    obtain ⟨here, later⟩ := List.forall_mem_cons.mp each
    cases fields with
    | nil =>
      have shape : spreadFields level true [(name, value)] ++ newLine outer ++ ['\x7d'] =
          newLine level ++ (writeText name ++
            ':' :: ([' '] ++ (spread level value ++ (newLine outer ++ ['\x7d'])))) := by
        simp [spreadFields]
      rw [shape]
      exact .last (newLine_blank level) rfl (newLine_blank outer) here
    | cons second fields =>
      have shape : spreadFields level true ((name, value) :: second :: fields) ++
            newLine outer ++ ['\x7d'] =
          newLine level ++ (writeText name ++ ':' :: ([' '] ++ (spread level value ++ ',' ::
            (spreadFields level true (second :: fields) ++ newLine outer ++ ['\x7d'])))) := by
        simp [spreadFields]
      rw [shape]
      exact .next (newLine_blank level) rfl here (inductionHypothesis later (by simp))

/-- What is written over several lines stands for its value. -/
theorem spells_spread {value : Json} (plain : IsPlain value) (level : Nat) :
    Spells value (spread level value) := by
  induction plain generalizing level with
  | null => exact .leaf isLeaf_null
  | bool value => exact .leaf (isLeaf_bool value)
  | int fits => exact .leaf (isLeaf_int fits)
  | real isLeaf => exact .leaf isLeaf
  | text value => exact .leaf (isLeaf_text value)
  | @list items _ inductionHypothesis =>
    cases items with
    | nil => exact .noItems
    | cons item items =>
      exact .items (spellsItems_spread
        (fun item member => inductionHypothesis item member (level + 1)) (by simp) level)
  | @object fields _ inductionHypothesis =>
    cases fields with
    | nil => exact .noFields
    | cons field fields =>
      exact .fields (spellsFields_spread
        (fun field member => inductionHypothesis field member (level + 1)) (by simp) level)

/-- A text that stands for a value is read as that value. -/
theorem read?_of_spells {value : Json} {text : List Char} (plain : IsPlain value)
    (spells : Spells value text) : read? (String.ofList text) = some value := by
  have read := spells.reads (show 2 * text.length ≤ 2 * text.length + 2 by omega) endsNumber_nil
  rw [List.append_nil] at read
  have whole : readDocument text = (value, true) := by
    rw [readDocument, read]
    rfl
  rw [read?, String.toList_ofList, whole]
  simp only [plain.isSound, if_true]

theorem read?_write {value : Json} (plain : IsPlain value) : read? (write value) = some value :=
  read?_of_spells plain (spells_compact plain)

theorem read?_writeSpread {value : Json} (plain : IsPlain value) :
    read? (writeSpread value) = some value :=
  read?_of_spells plain (spells_spread plain 0)

end Metasearch.Json
