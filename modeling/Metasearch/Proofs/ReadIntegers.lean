/-
This file settles which texts are read as whole numbers, and as which. An unsigned number is decimal
digits, one at least, and a plus sign may stand in front of them; a signed one may have a minus sign
there as well. What is read is the value of the digits, if it is within the range: a number under
way never gets smaller with another digit, so that it is refused only where the whole would be.
-/
import Metasearch.Proofs.IntegerTexts

namespace Metasearch.Number

/-! ### Digits -/

/-- Decimal digits, one at least, and their value. -/
structure IsDigits (digits : List Char) (value : Nat) : Prop where
  present : digits ≠ []
  each : ∀ c ∈ digits, c.isDigit = true
  value_eq : Nat.ofDigitChars 10 digits 0 = value

theorem le_ofDigitChars (digits : List Char) (start : Nat) :
    start ≤ Nat.ofDigitChars 10 digits start := by
  induction digits generalizing start with
  | nil => exact Nat.le_refl start
  | cons c rest inductionHypothesis =>
    rw [Nat.ofDigitChars_cons]
    exact Nat.le_trans (by omega) (inductionHypothesis _)

theorem readDigits_eq_ok_iff {limit whole number : Nat} {beyond : IntegerError} {text : List Char}
    (small : whole ≤ limit) : readDigits limit whole beyond text = .ok number ↔
      (∀ c ∈ text, c.isDigit = true) ∧ Nat.ofDigitChars 10 text whole = number ∧
        number ≤ limit := by
  induction text generalizing whole with
  | nil =>
    rw [readDigits, Except.ok.injEq]
    constructor
    · rintro rfl
      exact ⟨fun c member => absurd member List.not_mem_nil, rfl, small⟩
    · exact fun same => same.2.1
  | cons c rest inductionHypothesis =>
    have next : whole * 10 + digitValue c = 10 * whole + (c.toNat - '0'.toNat) := by
      rw [Nat.mul_comm]
      rfl
    rw [readDigits, List.forall_mem_cons, Nat.ofDigitChars_cons, ← next]
    split
    case isTrue digit =>
      dsimp only
      split
      case isTrue fits => rw [inductionHypothesis fits, and_iff_right digit]
      case isFalse wide =>
        refine iff_of_false (by rintro ⟨⟩) ?_
        rintro ⟨-, value, fits⟩
        exact wide (Nat.le_trans (le_ofDigitChars rest _) (value ▸ fits))
    case isFalse other =>
      refine iff_of_false (by rintro ⟨⟩) ?_
      rintro ⟨⟨digit, -⟩, -⟩
      exact other digit

theorem readDigits_iff {limit number : Nat} {beyond : IntegerError} {text : List Char}
    (present : text ≠ []) : readDigits limit 0 beyond text = .ok number ↔
      IsDigits text number ∧ number ≤ limit := by
  rw [readDigits_eq_ok_iff (Nat.zero_le limit)]
  exact ⟨fun ⟨each, value, fits⟩ => ⟨⟨present, each, value⟩, fits⟩,
    fun ⟨digits, fits⟩ => ⟨digits.each, digits.value_eq, fits⟩⟩

theorem IsDigits.exists_cons {digits : List Char} {value : Nat} (isDigits : IsDigits digits value) :
    ∃ c rest, digits = c :: rest ∧ c.isDigit = true := by
  obtain ⟨c, rest, rfl⟩ := List.exists_cons_of_ne_nil isDigits.present
  exact ⟨c, rest, rfl, isDigits.each c List.mem_cons_self⟩

/-! ### Numbers without and with a minus sign -/

/-- The text of an unsigned number. -/
inductive IsUnsigned : List Char → Nat → Prop
  | plain {digits : List Char} {value : Nat} (isDigits : IsDigits digits value) :
      IsUnsigned digits value
  | plus {digits : List Char} {value : Nat} (isDigits : IsDigits digits value) :
      IsUnsigned ('+' :: digits) value

/-- The text of a signed number. -/
inductive IsSigned : List Char → Int → Prop
  | unsigned {text : List Char} {value : Nat} (isUnsigned : IsUnsigned text value) :
      IsSigned text value
  | minus {digits : List Char} {value : Nat} (isDigits : IsDigits digits value) :
      IsSigned ('-' :: digits) (-(value : Int))

theorem readUnsigned_eq_ok_iff {limit number : Nat} {text : List Char} :
    readUnsigned limit text = .ok number ↔ IsUnsigned text number ∧ number ≤ limit := by
  constructor
  · intro read
    unfold readUnsigned at read
    split at read
    · cases read
    · cases read
    · next digits alone =>
      have digits := (readDigits_iff fun empty => alone (by rw [empty])).mp read
      exact ⟨.plus digits.1, digits.2⟩
    · next present _ _ =>
      have digits := (readDigits_iff present).mp read
      exact ⟨.plain digits.1, digits.2⟩
  · rintro ⟨isUnsigned, fits⟩
    cases isUnsigned with
    | plain isDigits =>
      obtain ⟨c, rest, rfl, digit⟩ := isDigits.exists_cons
      rw [readUnsigned_of_digit limit digit]
      exact (readDigits_iff isDigits.present).mpr ⟨isDigits, fits⟩
    | plus isDigits =>
      obtain ⟨c, rest, rfl, digit⟩ := isDigits.exists_cons
      exact (readDigits_iff isDigits.present).mpr ⟨isDigits, fits⟩

theorem isWithin_natCast {limit number : Nat} :
    isWithin limit (number : Int) = true ↔ number ≤ limit := by
  rw [isWithin, Bool.and_eq_true, decide_eq_true_eq, decide_eq_true_eq]
  omega

theorem isWithin_neg {limit number : Nat} :
    isWithin limit (-(number : Int)) = true ↔ number ≤ limit + 1 := by
  rw [isWithin, Bool.and_eq_true, decide_eq_true_eq, decide_eq_true_eq]
  omega

theorem readSigned_eq_ok_iff {number : Int} {text : List Char} :
    readSigned text = .ok number ↔ IsSigned text number ∧ isWithin maxSigned number = true := by
  constructor
  · intro read
    unfold readSigned at read
    split at read
    · cases read
    · cases read
    · cases read
    · next digits alone =>
      obtain ⟨value, found, rfl⟩ := map_eq_ok.mp read
      have digits := (readDigits_iff fun empty => alone (by rw [empty])).mp found
      exact ⟨.unsigned (.plus digits.1), isWithin_natCast.mpr digits.2⟩
    · next digits alone =>
      obtain ⟨value, negated, rfl⟩ := map_eq_ok.mp read
      obtain ⟨size, found, same⟩ := except_of_bind negated
      obtain rfl := Except.ok.inj same
      have digits := (readDigits_iff fun empty => alone (by rw [empty])).mp found
      exact ⟨.minus digits.1, isWithin_neg.mpr digits.2⟩
    · next present _ _ _ _ =>
      obtain ⟨value, found, rfl⟩ := map_eq_ok.mp read
      have digits := (readDigits_iff present).mp found
      exact ⟨.unsigned (.plain digits.1), isWithin_natCast.mpr digits.2⟩
  · rintro ⟨isSigned, fits⟩
    cases isSigned with
    | unsigned isUnsigned =>
      have small := isWithin_natCast.mp fits
      cases isUnsigned with
      | plain isDigits =>
        obtain ⟨c, rest, rfl, digit⟩ := isDigits.exists_cons
        rw [readSigned_of_digit digit, (readDigits_iff isDigits.present).mpr ⟨isDigits, small⟩]
        rfl
      | plus isDigits =>
        obtain ⟨c, rest, rfl, digit⟩ := isDigits.exists_cons
        rw [readSigned, (readDigits_iff isDigits.present).mpr ⟨isDigits, small⟩]
        · rfl
        · simp
    | minus isDigits =>
      obtain ⟨c, rest, rfl, digit⟩ := isDigits.exists_cons
      rw [readSigned, (readDigits_iff isDigits.present).mpr ⟨isDigits, isWithin_neg.mp fits⟩]
      · rfl
      · simp

end Metasearch.Number
