/-
This file settles which texts are sizes. Blanks are taken off the ends of a text and commas out of
it; then its first letter is where the unit begins. The text is a size exactly if what stands before
the unit, but for blanks at its ends, is a decimal number, and the unit is left out or one of the
names in a table, in capitals or not.

Every size has a value, however many digits it has. The value does not pass the greatest number of
64 bits, and it is that number for every size whose whole units alone come to more: rounding never
passes a number that is kept, and for each unit the least number of units that comes to more is
kept.
-/
import Metasearch.ByteSize
import Metasearch.Proofs.DecimalNumbers
import Metasearch.Proofs.RepresentedNumbers

namespace Metasearch.ByteSize

open Calendar (digitsValue)
open Number (Binary64 maxUnsigned twoTo)
open Number.Binary64 (IsDecimal IsRepresented)

/-! ### Units by name -/

/-- A character is a letter of the alphabet up to case; the sign of the unit kelvin is in lower case
a k. -/
def IsLetter (letter c : Char) : Prop :=
  c = letter ∨ c = letter.toUpper ∨ letter = 'k' ∧ c = '\u212A'

instance (letter c : Char) : Decidable (IsLetter letter c) :=
  inferInstanceAs (Decidable (_ ∨ _ ∨ _))

/-- The letters that the names of units are made of. -/
def letters : List Char := "begikmpsty".toList

/-- The units with their names. -/
def unitNames : List (String × Nat) :=
  [("", 1), ("byte", 1), ("bytes", 1), ("b", 1),
    ("k", 1000), ("kb", 1000), ("ki", 1024), ("kib", 1024),
    ("m", 1000 ^ 2), ("mb", 1000 ^ 2), ("mi", 1024 ^ 2), ("mib", 1024 ^ 2),
    ("g", 1000 ^ 3), ("gb", 1000 ^ 3), ("gi", 1024 ^ 3), ("gib", 1024 ^ 3),
    ("t", 1000 ^ 4), ("tb", 1000 ^ 4), ("ti", 1024 ^ 4), ("tib", 1024 ^ 4),
    ("p", 1000 ^ 5), ("pb", 1000 ^ 5), ("pi", 1024 ^ 5), ("pib", 1024 ^ 5)]

/-- A text names a unit of some bytes, up to case. -/
def IsUnit (unit : List Char) (size : Nat) : Prop :=
  ∃ name, (name, size) ∈ unitNames ∧ List.Forall₂ IsLetter name.toList unit

theorem lowerLetter_letters :
    ∀ letter ∈ letters, lowerLetter letter = letter ∧ lowerLetter letter.toUpper = letter :=
  Text.forall_of_all (by decide)

/-- A character in lower case is in lower case already, or is its capital letter. -/
theorem eq_or_eq_toUpper (c : Char) : c = c.toLower ∨ c = c.toLower.toUpper := by
  by_cases ascii : c.toNat < 0x80
  · have every : ∀ c ∈ Text.asciiChars, c = c.toLower ∨ c = c.toLower.toUpper :=
      Text.forall_of_all (by decide)
    exact every c (Text.mem_asciiChars ascii)
  · exact .inl (Text.toLower_of_not_ascii ascii).symm

theorem lowerLetter_eq_iff {letter : Char} (listed : letter ∈ letters) (c : Char) :
    lowerLetter c = letter ↔ IsLetter letter c := by
  obtain ⟨small, capital⟩ := lowerLetter_letters letter listed
  constructor
  · intro same
    unfold lowerLetter at same
    split at same
    · next kelvin => exact .inr (.inr ⟨same.symm, beq_iff_eq.mp kelvin⟩)
    · have cases := eq_or_eq_toUpper c
      rw [same] at cases
      exact cases.imp id .inl
  · rintro (rfl | rfl | ⟨rfl, rfl⟩)
    · exact small
    · exact capital
    · rfl

theorem forall₂_isLetter_iff {name : List Char} (listed : ∀ letter ∈ name, letter ∈ letters)
    (unit : List Char) : List.Forall₂ IsLetter name unit ↔ unit.map lowerLetter = name := by
  induction name generalizing unit with
  | nil => rw [List.forall₂_nil_left_iff, List.map_eq_nil_iff]
  | cons letter name inductionHypothesis =>
    obtain ⟨listedHere, listedLater⟩ := List.forall_mem_cons.mp listed
    cases unit with
    | nil => simp
    | cons c unit =>
      rw [List.forall₂_cons, List.map_cons, List.cons.injEq, inductionHypothesis listedLater,
        lowerLetter_eq_iff listedHere]

/-- Without a k in a name, the sign of the unit kelvin makes no difference. -/
theorem map_toLower_iff {name : List Char} (listed : ∀ letter ∈ name, letter ∈ letters)
    (noK : 'k' ∉ name) (unit : List Char) :
    unit.map Char.toLower = name ↔ unit.map lowerLetter = name := by
  induction name generalizing unit with
  | nil => rw [List.map_eq_nil_iff, List.map_eq_nil_iff]
  | cons letter name inductionHypothesis =>
    obtain ⟨listedHere, listedLater⟩ := List.forall_mem_cons.mp listed
    rw [List.mem_cons, not_or] at noK
    cases unit with
    | nil => simp
    | cons c unit =>
      have here : c.toLower = letter ↔ lowerLetter c = letter := by
        unfold lowerLetter
        split
        · next kelvin =>
          obtain rfl := beq_iff_eq.mp kelvin
          refine iff_of_false (fun same => ?_) noK.1
          exact absurd (same ▸ listedHere) (by decide)
        · exact Iff.rfl
      rw [List.map_cons, List.map_cons, List.cons.injEq, List.cons.injEq, here,
        inductionHypothesis listedLater noK.2]

theorem mem_letters_of_mem_unitNames :
    ∀ entry ∈ unitNames, ∀ letter ∈ entry.1.toList, letter ∈ letters := by
  have every : ∀ letter ∈ unitNames.flatMap fun entry => entry.1.toList, letter ∈ letters :=
    Text.forall_of_all (by decide)
  exact fun entry member letter inside => every letter (List.mem_flatMap_of_mem member inside)

/-- A unit in lower case is looked up in the table. -/
theorem isUnit_iff {unit : List Char} {size : Nat} :
    IsUnit unit size ↔ (String.ofList (unit.map lowerLetter), size) ∈ unitNames := by
  constructor
  · rintro ⟨name, member, same⟩
    rw [forall₂_isLetter_iff (mem_letters_of_mem_unitNames _ member)] at same
    rwa [same, String.ofList_toList]
  · intro member
    have small := mem_letters_of_mem_unitNames _ member
    refine ⟨_, member, (forall₂_isLetter_iff small unit).mpr ?_⟩
    rw [String.toList_ofList]

theorem isPlainBytes_iff {unit : List Char} :
    isPlainBytes unit = true ↔ String.ofList (unit.map lowerLetter) ∈ ["", "byte", "bytes"] := by
  have listed : ∀ name ∈ ["", "byte", "bytes"], (name, 1) ∈ unitNames ∧ 'k' ∉ name.toList := by
    decide
  have each : ∀ name ∈ ["", "byte", "bytes"],
      (unit.map Char.toLower = name.toList ↔ String.ofList (unit.map lowerLetter) = name) := by
    intro name member
    obtain ⟨isName, noK⟩ := listed name member
    rw [map_toLower_iff (mem_letters_of_mem_unitNames _ isName) noK, ← String.toList_inj,
      String.toList_ofList]
  have none : unit.map Char.toLower = [] ↔ String.ofList (unit.map lowerLetter) = "" :=
    each "" (by decide)
  unfold isPlainBytes
  simp only [Bool.or_eq_true, beq_iff_eq, none, each "byte" (by decide), each "bytes" (by decide),
    List.mem_cons, List.not_mem_nil, or_false, or_assoc]

theorem unitSize?_eq_some_iff {unit : List Char} {size : Nat} :
    unitSize? unit = some size ↔
      (String.ofList (unit.map lowerLetter), size) ∈ unitNames.drop 3 := by
  unfold unitSize?
  generalize String.ofList (unit.map lowerLetter) = name
  split <;> simp_all [unitNames, eq_comm]

/-- The size of a unit is the one that the table has for it. -/
theorem unitSize_eq_some_iff {unit : List Char} {size : Nat} :
    (if isPlainBytes unit then some 1 else unitSize? unit) = some size ↔ IsUnit unit size := by
  have parts : unitNames = ["", "byte", "bytes"].map (·, 1) ++ unitNames.drop 3 := rfl
  have others : ∀ entry ∈ unitNames.drop 3, entry.1 ∉ ["", "byte", "bytes"] := by decide
  have plainBytes : ∀ name, (name, size) ∈ ["", "byte", "bytes"].map (·, 1) ↔
      name ∈ ["", "byte", "bytes"] ∧ 1 = size := by
    intro name
    rw [List.mem_map]
    constructor
    · rintro ⟨other, listed, same⟩
      obtain ⟨rfl, rfl⟩ := Prod.mk.inj same
      exact ⟨listed, rfl⟩
    · rintro ⟨listed, rfl⟩
      exact ⟨name, listed, rfl⟩
  rw [isUnit_iff, parts, List.mem_append, plainBytes]
  by_cases plain : isPlainBytes unit = true
  · have listed := isPlainBytes_iff.mp plain
    rw [if_pos plain, or_iff_left fun member => others _ member listed, and_iff_right listed,
      Option.some_inj]
  · have unlisted := mt isPlainBytes_iff.mpr plain
    rw [if_neg plain, unitSize?_eq_some_iff, or_iff_right fun both => unlisted both.1]

/-! ### Reading -/

/-- A text without the blanks at its ends and without commas. -/
def cleaned (text : String) : List Char :=
  (Text.trim text.toList).filter (· != ',')

/-- What stands before the first letter, but for blanks at its ends. -/
def numberOf (text : String) : List Char :=
  Text.trim ((cleaned text).takeWhile fun c => !Text.isAlphabetic c)

/-- What begins with the first letter. -/
def unitOf (text : String) : List Char :=
  (cleaned text).dropWhile fun c => !Text.isAlphabetic c

variable {text : String} {size : Nat} {number : Binary64}

theorem read?_eq (text : String) :
    read? text =
      (if isPlainBytes (unitOf text) then some 1 else unitSize? (unitOf text)).bind fun size =>
        (Binary64.readDecimal? (numberOf text)).bind fun number =>
          some ((number.mul (Binary64.ofNat size)).truncate maxUnsigned) := by
  by_cases plain : isPlainBytes (unitOf text) = true
  · rw [if_pos plain]
    exact if_pos plain
  · rw [if_neg plain]
    exact if_neg plain

theorem read?_eq_some (isNumber : Binary64.readDecimal? (numberOf text) = some number)
    (isUnit : IsUnit (unitOf text) size) :
    read? text = some ((number.mul (Binary64.ofNat size)).truncate maxUnsigned) := by
  rw [read?_eq, unitSize_eq_some_iff.mpr isUnit, isNumber]
  rfl

/-- What is read has a number and a unit. -/
theorem exists_of_read {bytes : Nat} (read : read? text = some bytes) :
    ∃ number size, Binary64.readDecimal? (numberOf text) = some number ∧
      IsUnit (unitOf text) size ∧
      bytes = (number.mul (Binary64.ofNat size)).truncate maxUnsigned := by
  rw [read?_eq] at read
  obtain ⟨size, sizes, read⟩ := Option.bind_eq_some_iff.mp read
  obtain ⟨number, isNumber, read⟩ := Option.bind_eq_some_iff.mp read
  exact ⟨number, size, isNumber, unitSize_eq_some_iff.mp sizes, (Option.some.inj read).symm⟩

/-- The size of a unit is a number as it is. -/
theorem isNear_size {unit : List Char} (isUnit : IsUnit unit size) :
    Binary64.IsNear (Binary64.ofNat size) size 0 := by
  have small : ∀ entry ∈ unitNames, entry.2 < twoTo 53 := by decide
  obtain ⟨name, member, -⟩ := isUnit
  have below : size < twoTo 53 := small _ member
  exact Binary64.isNear_ofNat (Binary64.isRepresented_of_lt below)
    (below.trans (by decide))

theorem truncate_le (limit : Nat) (number : Binary64) : number.truncate limit ≤ limit := by
  cases number with
  | infinite => exact Nat.le_refl _
  | finite significand exponent => exact Nat.min_le_left _ _

/-- A size is within 64 bits. -/
theorem le_of_read {bytes : Nat} (read : read? text = some bytes) : bytes ≤ maxUnsigned := by
  obtain ⟨number, size, -, -, rfl⟩ := exists_of_read read
  exact truncate_le _ _

/-- A number is not less than a represented one that its whole digits come to. -/
theorem atLeast_readDecimal {text : List Char} {number : Binary64}
    (read : Binary64.readDecimal? text = some number) {whole : Nat}
    (represented : IsRepresented whole)
    (below : whole ≤ digitsValue (text.takeWhile Char.isDigit)) : number.AtLeast whole := by
  obtain ⟨fraction, rfl⟩ := Binary64.exists_of_readDecimal read
  have positive : 0 < Number.tenTo fraction.length := Nat.pow_pos (by decide)
  refine Binary64.atLeast_ofQuotient positive represented ?_
  rw [le_div_iff₀ (Nat.cast_pos.mpr positive)]
  exact_mod_cast (Nat.mul_le_mul_right _ below).trans (Binary64.digitsValue_mul_le _ fraction)

/-- For each unit, the least number of units that is more than the greatest number of 64 bits is
represented. -/
theorem isRepresented_leastBeyond {unit : List Char} (isUnit : IsUnit unit size) :
    IsRepresented (maxUnsigned / size + 1) ∧ twoTo 64 ≤ (maxUnsigned / size + 1) * size := by
  have each : ∀ entry ∈ unitNames, (∃ power ∈ [0, 2, 12],
      twoTo power ∣ maxUnsigned / entry.2 + 1 ∧
        (maxUnsigned / entry.2 + 1) / twoTo power < twoTo 53) ∧
      twoTo 64 ≤ (maxUnsigned / entry.2 + 1) * entry.2 := by decide
  obtain ⟨name, member, -⟩ := isUnit
  obtain ⟨⟨power, -, divides, small⟩, beyond⟩ := each _ member
  exact ⟨⟨_, power, small, (Nat.div_mul_cancel divides).symm⟩, beyond⟩

/-- A text is a size exactly if a decimal number stands before its first letter and a unit by its
name is what begins with it. The bytes of a size are within 64 bits, and the most there are if the
whole units come to more. -/
theorem isSome_read?_iff (text : String) :
    ((read? text).isSome = true ↔
      IsDecimal (numberOf text) ∧ ∃ size, IsUnit (unitOf text) size) ∧
    (∀ bytes, read? text = some bytes → bytes ≤ maxUnsigned) ∧
    (∀ size, IsDecimal (numberOf text) → IsUnit (unitOf text) size →
      maxUnsigned < digitsValue ((numberOf text).takeWhile Char.isDigit) * size →
        read? text = some maxUnsigned) := by
  refine ⟨⟨fun read => ?_, ?_⟩, fun bytes read => le_of_read read,
    fun size isDecimal isUnit beyond => ?_⟩
  · obtain ⟨bytes, read⟩ := Option.isSome_iff_exists.mp read
    obtain ⟨number, size, isNumber, isUnit, -⟩ := exists_of_read read
    exact ⟨Binary64.isSome_readDecimal?.mp (Option.isSome_of_eq_some isNumber), size, isUnit⟩
  · rintro ⟨isDecimal, size, isUnit⟩
    obtain ⟨number, isNumber⟩ :=
      Option.isSome_iff_exists.mp (Binary64.isSome_readDecimal?.mpr isDecimal)
    rw [read?_eq_some isNumber isUnit]
    rfl
  · obtain ⟨number, isNumber⟩ :=
      Option.isSome_iff_exists.mp (Binary64.isSome_readDecimal?.mpr isDecimal)
    obtain ⟨represented, product⟩ := isRepresented_leastBeyond isUnit
    have positive : 0 < size := Nat.pos_of_ne_zero fun zero => by
      rw [zero, Nat.mul_zero] at beyond
      exact Nat.not_lt_zero _ beyond
    have enough : maxUnsigned / size + 1 ≤
        digitsValue ((numberOf text).takeWhile Char.isDigit) :=
      (Nat.div_lt_iff_lt_mul positive).mpr beyond
    have least := (atLeast_readDecimal isNumber represented enough).mul (isNear_size isUnit)
      (Binary64.isRepresented_twoTo 64) product
    rw [read?_eq_some isNumber isUnit]
    exact congrArg some (Nat.le_antisymm (truncate_le _ _) (least.min_le_truncate maxUnsigned))

end Metasearch.ByteSize
