/-
This file settles what a size comes to whose number is a whole one, with commas among its digits or
not. The number is rounded to 53 bits, multiplied by its unit, and the product is rounded again.
Where neither rounding moves anything, the size is the exact product; and a product that is kept
has only factors that are kept. So the size is exact if the product has no more than 53 bits before
the zeros at its end, and in particular below 2^53. It is also exact for the greatest number of 64
bits, to which a rounding beyond it is cut down. Any other product is missed, but by little.
-/
import Metasearch.Proofs.CanonicalTimestamps
import Metasearch.Proofs.SizeTexts

namespace Metasearch

/-! ### Blanks and letters -/

namespace Text

/-- The code points of the blank characters. -/
def blankPoints : List Nat :=
  [9, 10, 11, 12, 13, 0x20, 0x85, 0xA0, 0x1680, 0x2000, 0x2001, 0x2002, 0x2003, 0x2004, 0x2005,
    0x2006, 0x2007, 0x2008, 0x2009, 0x200A, 0x2028, 0x2029, 0x202F, 0x205F, 0x3000]

theorem mem_blankPoints {c : Char} (blank : isBlank c = true) : c.toNat ∈ blankPoints := by
  unfold isBlank at blank
  simp only [Bool.or_eq_true, Bool.and_eq_true, decide_eq_true_eq, beq_iff_eq] at blank
  simp only [blankPoints, List.mem_cons, List.not_mem_nil, or_false]
  omega

/-- No blank is a letter or a comma. -/
theorem no_letter_of_isBlank {c : Char} (blank : isBlank c = true) :
    isAlphabetic c = false ∧ c ≠ ',' := by
  have every : ∀ point ∈ blankPoints,
      isAlphabetic (Char.ofNat point) = false ∧ Char.ofNat point ≠ ',' := by decide +kernel
  have checked := every c.toNat (mem_blankPoints blank)
  rwa [Char.ofNat_toNat] at checked

theorem no_letter_of_isDigit {c : Char} (digit : c.isDigit = true) :
    isAlphabetic c = false ∧ isBlank c = false ∧ c ≠ ',' := by
  have every : ∀ c ∈ asciiChars, c.isDigit = true →
      isAlphabetic c = false ∧ isBlank c = false ∧ c ≠ ',' := forall_of_all (by decide)
  exact every c (mem_asciiChars (ascii_of_isDigit digit)) digit

/-- Blanks behind a text that begins and ends with something else are taken off. -/
theorem trim_append {text blanks : List Char} (areBlank : ∀ c ∈ blanks, isBlank c = true)
    (present : text ≠ []) (firstSolid : isBlank (text.head present) = false)
    (lastSolid : isBlank (text.getLast present) = false) : trim (text ++ blanks) = text := by
  have between : trim ([] ++ text ++ blanks) = text :=
    trim_between rfl (List.all_eq_true.mpr areBlank) (List.head?_eq_some_head present)
      (List.getLast?_eq_some_getLast present) firstSolid lastSolid
  rwa [List.nil_append] at between

end Text

namespace ByteSize

open Calendar (digitsValue digitsValue_toDigits)
open Number (Binary64 maxUnsigned twoTo)
open Number.Binary64 (IsRepresented)

variable {unit : List Char} {size : Nat}

/-- The name of a unit is made of letters. -/
theorem letter_of_isUnit (isUnit : IsUnit unit size) :
    ∀ c ∈ unit, Text.isAlphabetic c = true ∧ Text.isBlank c = false ∧ c ≠ ',' := by
  have every : ∀ c ∈ '\u212A' :: letters ++ letters.map Char.toUpper,
      Text.isAlphabetic c = true ∧ Text.isBlank c = false ∧ c ≠ ',' :=
    Text.forall_of_all (by decide +kernel)
  intro c inside
  have ofName : lowerLetter c ∈ (String.ofList (unit.map lowerLetter)).toList := by
    rw [String.toList_ofList]
    exact List.mem_map_of_mem inside
  have listed := mem_letters_of_mem_unitNames _ (isUnit_iff.mp isUnit) _ ofName
  refine every c (List.mem_append.mpr ?_)
  rcases (lowerLetter_eq_iff listed c).mp rfl with same | same | ⟨-, rfl⟩
  · exact .inl (List.mem_cons_of_mem _ (same ▸ listed))
  · exact .inr (List.mem_map.mpr ⟨_, listed, same.symm⟩)
  · exact .inl List.mem_cons_self

/-! ### The parts of a text -/

variable {digits between : List Char}

/-- What is cleaned falls into digits, blanks and a unit. -/
theorem parts_of_cleaned {text : String} (areDigits : ∀ c ∈ digits, c.isDigit = true)
    (present : digits ≠ []) (blank : ∀ c ∈ between, Text.isBlank c = true)
    (isUnit : IsUnit unit size) (parts : cleaned text = digits ++ between ++ unit) :
    numberOf text = digits ∧ unitOf text = unit := by
  have noLetter : ∀ c ∈ digits ++ between, (!Text.isAlphabetic c) = true := by
    refine List.forall_mem_append.mpr ⟨fun c member => ?_, fun c member => ?_⟩
    · rw [(Text.no_letter_of_isDigit (areDigits c member)).1]
      rfl
    · rw [(Text.no_letter_of_isBlank (blank c member)).1]
      rfl
  have ends : unit.takeWhile (fun c => !Text.isAlphabetic c) = [] ∧
      unit.dropWhile (fun c => !Text.isAlphabetic c) = unit := by
    cases unit with
    | nil => exact ⟨rfl, rfl⟩
    | cons c rest =>
      have letter : ¬ (!Text.isAlphabetic c) = true := by
        rw [(letter_of_isUnit isUnit c List.mem_cons_self).1]
        decide
      exact ⟨List.takeWhile_cons_of_neg letter, List.dropWhile_cons_of_neg letter⟩
  have solid : ∀ c ∈ digits, Text.isBlank c = false :=
    fun c member => (Text.no_letter_of_isDigit (areDigits c member)).2.1
  unfold numberOf unitOf
  rw [parts, List.takeWhile_append_of_pos noLetter, List.dropWhile_append_of_pos noLetter, ends.1,
    ends.2, List.append_nil]
  exact ⟨Text.trim_append blank present (solid _ (List.head_mem present))
    (solid _ (List.getLast_mem present)), rfl⟩

/-- Digits with commas among them, blanks and a unit are taken for what they are. -/
theorem parts_of_whole {number : List Char} (areDigits : ∀ c ∈ digits, c.isDigit = true)
    (present : digits ≠ []) (withCommas : number.filter (· != ',') = digits)
    (blank : ∀ c ∈ between, Text.isBlank c = true) (isUnit : IsUnit unit size) :
    numberOf (String.ofList (number ++ between ++ unit)) = digits ∧
      unitOf (String.ofList (number ++ between ++ unit)) = unit := by
  have solid : ∀ c ∈ number, Text.isBlank c = false := by
    intro c member
    by_cases comma : c = ','
    · exact comma ▸ rfl
    · have kept : c ∈ digits := withCommas ▸ List.mem_filter.mpr ⟨member, bne_iff_ne.mpr comma⟩
      exact (Text.no_letter_of_isDigit (areDigits c kept)).2.1
  have some : number ≠ [] := by
    rintro rfl
    exact present withCommas.symm
  have firstSolid := solid _ (List.head_mem some)
  cases unit with
  | nil =>
    refine parts_of_cleaned areDigits present (List.forall_mem_nil _) isUnit ?_
    rw [cleaned, String.toList_ofList, List.append_nil,
      Text.trim_append blank some firstSolid (solid _ (List.getLast_mem some)), withCommas,
      List.append_nil, List.append_nil]
  | cons c rest =>
    have letters := letter_of_isUnit isUnit
    have whole : number ++ between ++ c :: rest ≠ [] :=
      List.append_ne_nil_of_right_ne_nil _ (List.cons_ne_nil c rest)
    have trimmed : Text.trim (number ++ between ++ c :: rest ++ []) =
        number ++ between ++ c :: rest := by
      refine Text.trim_append (List.forall_mem_nil _) whole ?_ ?_
      · simpa only [List.append_assoc, List.head_append_of_ne_nil some] using firstSolid
      · rw [List.getLast_append_of_ne_nil _ (List.cons_ne_nil c rest)]
        exact (letters _ (List.getLast_mem _)).2.1
    have blanks : between.filter (· != ',') = between := List.filter_eq_self.mpr fun c member =>
      bne_iff_ne.mpr (Text.no_letter_of_isBlank (blank c member)).2
    have unit : (c :: rest).filter (· != ',') = c :: rest := List.filter_eq_self.mpr
      fun c member => bne_iff_ne.mpr (letters c member).2.2
    rw [List.append_nil] at trimmed
    refine parts_of_cleaned areDigits present blank isUnit ?_
    rw [cleaned, String.toList_ofList, trimmed, List.filter_append, List.filter_append, withCommas,
      blanks, unit]

/-! ### Whole sizes -/

theorem readDecimal?_toDigits (count : Nat) :
    Binary64.readDecimal? (Nat.toDigits 10 count) = some (Binary64.ofNat count) := by
  have areDigits : ∀ c ∈ Nat.toDigits 10 count, c.isDigit = true :=
    fun c member => Nat.isDigit_of_mem_toDigits (by decide) (by decide) member
  rw [Binary64.readDecimal?_digits areDigits Nat.toDigits_ne_nil, digitsValue_toDigits]
  exact congrArg some (Binary64.ofDecimal_places count 0)

/-- A size is one, or its number of bytes is even. -/
theorem eq_one_of_mul_eq {count : Nat} (isUnit : IsUnit unit size)
    (most : count * size = maxUnsigned) : size = 1 := by
  have each : ∀ entry ∈ unitNames, entry.2 = 1 ∨ 2 ∣ entry.2 := by decide
  obtain ⟨name, member, -⟩ := isUnit
  refine (each _ member).resolve_right fun even => ?_
  have divides : 2 ∣ maxUnsigned := most ▸ Dvd.dvd.mul_left even count
  exact absurd divides (by decide)

theorem pos_of_isUnit (isUnit : IsUnit unit size) : 0 < size := by
  have each : ∀ entry ∈ unitNames, 0 < entry.2 := by decide
  obtain ⟨name, member, -⟩ := isUnit
  exact each _ member

/-- What is near a number is not more than twice as large. -/
theorem le_double {nearest count : ℚ} (near : (twoTo 53 : ℚ) * |nearest - count| ≤ count) :
    nearest ≤ 2 * count := by
  have large : (1 : ℚ) ≤ twoTo 53 := by norm_num [twoTo]
  have apart : |nearest - count| ≤ count :=
    (le_mul_of_one_le_left (abs_nonneg _) large).trans near
  linarith [le_abs_self (nearest - count)]

/-- Two roundings in a row move a product by little. -/
theorem product_near {count size nearest product : ℚ} (nonnegative : 0 ≤ size)
    (first : (twoTo 53 : ℚ) * |nearest - count| ≤ count)
    (second : (twoTo 53 : ℚ) * |product - nearest * size| ≤ nearest * size) :
    (twoTo 51 : ℚ) * |product - count * size| ≤ count * size := by
  have scaled : (twoTo 53 : ℚ) * |nearest * size - count * size| ≤ count * size := by
    rw [← sub_mul, abs_mul, abs_of_nonneg nonnegative, ← mul_assoc]
    exact mul_le_mul_of_nonneg_right first nonnegative
  have double : nearest * size ≤ 2 * count * size :=
    mul_le_mul_of_nonneg_right (le_double first) nonnegative
  have both : (twoTo 53 : ℚ) * |product - count * size| ≤ 3 * (count * size) :=
    calc (twoTo 53 : ℚ) * |product - count * size|
        ≤ twoTo 53 * (|product - nearest * size| + |nearest * size - count * size|) :=
          mul_le_mul_of_nonneg_left (abs_sub_le _ _ _) (Nat.cast_nonneg _)
      _ ≤ 3 * (count * size) := by
          rw [mul_add]
          linarith
  have quarter : (twoTo 53 : ℚ) = 4 * twoTo 51 := by norm_num [twoTo]
  have some : 0 ≤ (twoTo 51 : ℚ) * |product - count * size| := by positivity
  rw [quarter, mul_assoc] at both
  linarith

/-- A size whose number is a whole one, with or without commas, is its exact number of bytes if and
only if this has at most 53 bits before the zeros at its end or is the greatest number of 64 bits.
Any other size is still read, and missed by no more than one part in 2^51. -/
theorem read?_whole {count : Nat} {number : List Char}
    (digits : number.filter (· != ',') = Nat.toDigits 10 count)
    (blank : ∀ c ∈ between, Text.isBlank c = true) (isUnit : IsUnit unit size)
    (fits : count * size ≤ maxUnsigned) :
    ∃ bytes, read? (String.ofList (number ++ between ++ unit)) = some bytes ∧
      (bytes = count * size ↔ IsRepresented (count * size) ∨ count * size = maxUnsigned) ∧
      (count * size < twoTo 53 → bytes = count * size) ∧
      (twoTo 51 : ℚ) * |(bytes : ℚ) - (count * size : Nat)| ≤ (count * size : Nat) := by
  have areDigits : ∀ c ∈ Nat.toDigits 10 count, c.isDigit = true :=
    fun c member => Nat.isDigit_of_mem_toDigits (by decide) (by decide) member
  obtain ⟨isNumber, unitIs⟩ := parts_of_whole areDigits Nat.toDigits_ne_nil digits blank isUnit
  have positive := pos_of_isUnit isUnit
  have large : 2 * maxUnsigned < twoTo 200 := by decide
  have factor : count ≤ count * size := Nat.le_mul_of_pos_right count positive
  obtain ⟨nearest, -, kept, isNearest, near⟩ :=
    Binary64.exists_isNear_ofNat (show count < twoTo 200 by omega)
  have double : nearest * size ≤ 2 * (count * size) := by
    rw [← Nat.mul_assoc]
    exact Nat.mul_le_mul_right size (by exact_mod_cast le_double near)
  obtain ⟨product, represented, keptProduct, isProduct, nearProduct⟩ :=
    Binary64.exists_isNear_ofNat (show nearest * size < twoTo 200 by omega)
  have result : ((Binary64.ofNat count).mul (Binary64.ofNat size)).truncate maxUnsigned =
      min maxUnsigned product := by
    rw [Binary64.mul_eq_ofNat isNearest (isNear_size isUnit), Binary64.truncate_eq isProduct]
  have read := read?_eq_some (isNumber ▸ readDecimal?_toDigits count) (unitIs.symm ▸ isUnit)
  rw [result] at read
  have exact : IsRepresented (count * size) → min maxUnsigned product = count * size := by
    intro isRepresented
    obtain rfl := kept (isRepresented.of_mul positive)
    rw [keptProduct isRepresented]
    exact Nat.min_eq_right fits
  refine ⟨_, read, ⟨fun equal => ?_, ?_⟩,
    fun small => exact (Binary64.isRepresented_of_lt small), ?_⟩
  · rcases Nat.le_total maxUnsigned product with beyond | within
    · rw [Nat.min_eq_left beyond] at equal
      exact .inr equal.symm
    · rw [Nat.min_eq_right within] at equal
      exact .inl (equal ▸ represented)
  · rintro (isRepresented | most)
    · exact exact isRepresented
    · obtain rfl := eq_one_of_mul_eq isUnit most
      rw [Nat.mul_one] at most ⊢
      rw [← result, most]
      decide
  · rw [Nat.cast_mul] at nearProduct
    have bound := product_near (Nat.cast_nonneg size) near nearProduct
    rw [← Nat.cast_mul] at bound
    rcases Nat.le_total maxUnsigned product with beyond | within
    · -- cut down to the greatest number, the product is no farther away
      rw [Nat.min_eq_left beyond]
      refine le_trans (mul_le_mul_of_nonneg_left ?_ (Nat.cast_nonneg _)) bound
      have above : ((count * size : Nat) : ℚ) ≤ maxUnsigned := Nat.cast_le.mpr fits
      have farther : (maxUnsigned : ℚ) ≤ product := Nat.cast_le.mpr beyond
      rw [abs_of_nonneg (by linarith), abs_of_nonneg (by linarith)]
      linarith
    · rw [Nat.min_eq_right within]
      exact bound

theorem read?_whole_withComma :
    "1,024".toList.filter (· != ',') = Nat.toDigits 10 1024 ∧
      (∀ c ∈ [' '], Text.isBlank c = true) ∧ IsUnit "bytes".toList 1 ∧
      1024 * 1 ≤ maxUnsigned ∧ read? "1,024 bytes" = some 1024 := by
  have digits : "1,024".toList.filter (· != ',') = Nat.toDigits 10 1024 := by decide
  have blank : ∀ c ∈ [' '], Text.isBlank c = true := List.forall_mem_singleton.mpr rfl
  have isUnit : IsUnit "bytes".toList 1 := isUnit_iff.mpr (by decide)
  have fits : 1024 * 1 ≤ maxUnsigned := by decide
  obtain ⟨bytes, read, -, exact, -⟩ := read?_whole digits blank isUnit fits
  obtain rfl := exact (by decide)
  exact ⟨digits, blank, isUnit, fits, read⟩

/-- Not every whole number of bytes is read as itself. -/
theorem read?_missed :
    "9007199254740993".toList = Nat.toDigits 10 9007199254740993 ∧ IsUnit [] 1 ∧
      9007199254740993 * 1 ≤ maxUnsigned ∧
      read? "9007199254740993" = some 9007199254740992 :=
  ⟨by decide, isUnit_iff.mpr (by decide), by decide, by decide⟩

end ByteSize

end Metasearch
