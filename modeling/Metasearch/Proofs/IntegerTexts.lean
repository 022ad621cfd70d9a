/-
This file settles that a whole number is read back from its decimal text. The number is written
by taking its last digit off and read by putting digits on, so that with every digit read the
number under way is a beginning of the whole one, and within its range if the whole one is. What
is read of any text is within the range.
-/
import Mathlib.Algebra.Group.Nat.Defs
import Metasearch.Number.Integer
import Metasearch.Proofs.Outcomes

namespace Metasearch.Number

theorem digitValue_digitChar {digit : Nat} (small : digit < 10) :
    digitValue digit.digitChar = digit := by
  have every : ∀ digit : Fin 10, digitValue digit.val.digitChar = digit.val := by decide
  exact every ⟨digit, small⟩

theorem isDigit_digitChar {digit : Nat} (small : digit < 10) :
    digit.digitChar.isDigit = true := by
  have every : ∀ digit : Fin 10, digit.val.digitChar.isDigit = true := by decide
  exact every ⟨digit, small⟩

/-- The digits of a number bring what is read to that number, whatever stands behind them. -/
theorem readDigits_toDigits {limit number : Nat} (within : number ≤ limit)
    (beyond : IntegerError) (rest : List Char) :
    readDigits limit 0 beyond (Nat.toDigits 10 number ++ rest) =
      readDigits limit number beyond rest := by
  induction number using Nat.strongRecOn generalizing rest with
  | ind number inductionHypothesis =>
    by_cases single : number < 10
    · rw [Nat.toDigits_of_lt_base single, List.singleton_append, readDigits,
        if_pos (isDigit_digitChar single), digitValue_digitChar single]
      simp [within]
    · have shorter : number / 10 < number := Nat.div_lt_self (by omega) (by decide)
      have small : number % 10 < 10 := Nat.mod_lt _ (by decide)
      have whole : number / 10 * 10 + number % 10 = number := by omega
      rw [Nat.toDigits_of_base_le (by decide) (Nat.not_lt.mp single), List.append_assoc,
        inductionHypothesis _ shorter (by omega), List.singleton_append, readDigits,
        if_pos (isDigit_digitChar small), digitValue_digitChar small, whole]
      simp [within]

theorem readDigits_toString {limit number : Nat} (within : number ≤ limit)
    (beyond : IntegerError) :
    readDigits limit 0 beyond (toString number).toList = .ok number := by
  have read := readDigits_toDigits within beyond []
  rw [List.append_nil] at read
  rw [Nat.toString_eq_ofList_toDigits, String.toList_ofList, read]
  rfl

/-- A text that starts with a digit has no sign. -/
theorem readSigned_of_digit {c : Char} (digit : c.isDigit = true) (rest : List Char) :
    readSigned (c :: rest) =
      (readDigits maxSigned 0 .tooLarge (c :: rest)).map Int.ofNat := by
  have notPlus : c ≠ '+' := by rintro rfl; exact absurd digit (by decide)
  have notMinus : c ≠ '-' := by rintro rfl; exact absurd digit (by decide)
  unfold readSigned
  split <;> simp_all

theorem readUnsigned_of_digit (limit : Nat) {c : Char} (digit : c.isDigit = true)
    (rest : List Char) :
    readUnsigned limit (c :: rest) = readDigits limit 0 .tooLarge (c :: rest) := by
  have notPlus : c ≠ '+' := by rintro rfl; exact absurd digit (by decide)
  unfold readUnsigned
  split <;> simp_all

/-- Zeros in front of digits do not count. -/
theorem readDigits_zeros (limit count : Nat) (beyond : IntegerError) (digits : List Char) :
    readDigits limit 0 beyond (List.replicate count '0' ++ digits) =
      readDigits limit 0 beyond digits := by
  induction count with
  | zero => rfl
  | succ count inductionHypothesis =>
    rw [List.replicate_succ, List.cons_append, readDigits, if_pos (by decide)]
    exact (if_pos (Nat.zero_le limit)).trans inductionHypothesis

theorem isDigit_of_mem_toString {number : Nat} {c : Char} (member : c ∈ (toString number).toList) :
    c.isDigit = true := by
  rw [Nat.toString_eq_ofList_toDigits, String.toList_ofList] at member
  exact Nat.isDigit_of_mem_toDigits (by decide) (by decide) member

theorem toString_head (number : Nat) :
    ∃ c rest, (toString number).toList = c :: rest ∧ c.isDigit = true := by
  cases text : (toString number).toList with
  | nil =>
    rw [Nat.toString_eq_ofList_toDigits, String.toList_ofList] at text
    exact absurd text Nat.toDigits_ne_nil
  | cons c rest => exact ⟨c, rest, rfl, isDigit_of_mem_toString (text ▸ List.mem_cons_self)⟩

theorem toList_toString_negSucc (size : Nat) :
    (toString (Int.negSucc size)).toList = '-' :: (toString (size + 1)).toList := by
  show ("-" ++ toString (size + 1)).toList = _
  simp

/-- A number is written in digits, with a minus sign if it is negative. -/
theorem mem_toString_cases {number : Int} {c : Char} (member : c ∈ (toString number).toList) :
    c = '-' ∨ c.isDigit = true := by
  cases number with
  | ofNat size =>
    have inSize : c ∈ (toString size).toList := member
    exact .inr (isDigit_of_mem_toString inSize)
  | negSucc size =>
    rw [toList_toString_negSucc, List.mem_cons] at member
    exact member.imp_right isDigit_of_mem_toString

theorem toString_ne_nil (number : Int) : (toString number).toList ≠ [] := by
  cases number with
  | ofNat size =>
    obtain ⟨c, rest, text, -⟩ := toString_head size
    show (toString size).toList ≠ []
    exact text ▸ List.cons_ne_nil c rest
  | negSucc size => exact toList_toString_negSucc size ▸ List.cons_ne_nil _ _

/-- A signed number of 64 bits is read back from its text. -/
theorem readSigned_toString {number : Int} (within : isWithin maxSigned number = true) :
    readSigned (toString number).toList = .ok number := by
  obtain ⟨low, high⟩ := (Bool.and_eq_true _ _).mp within
  have low := of_decide_eq_true low
  have high := of_decide_eq_true high
  cases number with
  | ofNat size =>
    have small : size ≤ maxSigned := Int.ofNat_le.mp high
    obtain ⟨c, rest, text, digit⟩ := toString_head size
    have read := readDigits_toString small .tooLarge
    show readSigned (toString size).toList = _
    rw [text] at read ⊢
    rw [readSigned_of_digit digit, read]
    rfl
  | negSucc size =>
    have small : size + 1 ≤ maxSigned + 1 := by omega
    obtain ⟨c, rest, text, digit⟩ := toString_head (size + 1)
    have read := readDigits_toString small .tooSmall
    rw [toList_toString_negSucc]
    rw [text] at read ⊢
    rw [readSigned, read]
    rfl
    simp

/-! ### Ranges -/

theorem readDigits_le {limit whole number : Nat} {beyond : IntegerError} {text : List Char}
    (small : whole ≤ limit) (read : readDigits limit whole beyond text = .ok number) :
    number ≤ limit := by
  induction text generalizing whole with
  | nil =>
    cases read
    exact small
  | cons c rest inductionHypothesis =>
    rw [readDigits] at read
    split at read
    · simp only at read
      split at read
      · next fits => exact inductionHypothesis fits read
      · cases read
    · cases read

theorem isWithin_of_bounds {limit : Nat} {value : Int} (low : -(limit : Int) - 1 ≤ value)
    (high : value ≤ limit) : isWithin limit value = true :=
  (Bool.and_eq_true _ _).mpr ⟨decide_eq_true low, decide_eq_true high⟩

theorem isWithin_clamp (limit : Nat) (value : Int) : isWithin limit (clamp limit value) = true := by
  unfold clamp
  split
  · exact isWithin_of_bounds (Int.le_refl _) (by omega)
  · split
    · exact isWithin_of_bounds (by omega) (Int.le_refl _)
    · exact isWithin_of_bounds (by omega) (by omega)

theorem clamp_of_isWithin {limit : Nat} {value : Int} (within : isWithin limit value = true) :
    clamp limit value = value := by
  obtain ⟨low, high⟩ := (Bool.and_eq_true _ _).mp within
  rw [clamp, if_neg (Int.not_lt.mpr (of_decide_eq_true low)),
    if_neg (Int.not_lt.mpr (of_decide_eq_true high))]

theorem isWithin_readSigned {text : List Char} {number : Int}
    (read : readSigned text = .ok number) : isWithin maxSigned number = true := by
  have plain : ∀ digits, (readDigits maxSigned 0 .tooLarge digits).map Int.ofNat = .ok number →
      isWithin maxSigned number = true := by
    intro digits read
    obtain ⟨size, found, rfl⟩ := map_eq_ok.mp read
    have small := readDigits_le (Nat.zero_le _) found
    exact isWithin_of_bounds (by simp only [Int.ofNat_eq_natCast]; omega) (Int.ofNat_le.mpr small)
  unfold readSigned at read
  split at read
  · cases read
  · cases read
  · cases read
  · exact plain _ read
  · obtain ⟨value, negated, rfl⟩ := map_eq_ok.mp read
    obtain ⟨size, found, same⟩ := except_of_bind negated
    obtain rfl := Except.ok.inj same
    have small := readDigits_le (Nat.zero_le _) found
    exact isWithin_of_bounds (by omega) (by omega)
  · exact plain _ read

end Metasearch.Number
