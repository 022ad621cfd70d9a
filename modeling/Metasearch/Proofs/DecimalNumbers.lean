/-
This file settles which texts are read as decimal numbers, and as what: decimal digits with one
point among them at the most and one digit at least. The digits on both sides of the point make one
whole number, and each digit behind the point divides it by ten.
-/
import Mathlib.Data.List.TakeWhile
import Metasearch.Calendar.Reader
import Metasearch.Number.Binary64

namespace Metasearch.Number.Binary64

open Calendar (digitsValue)

/-! ### Texts -/

/-- Decimal digits with one point among them at the most. -/
structure IsDecimal (text : List Char) : Prop where
  allowed : ∀ c ∈ text, c.isDigit = true ∨ c = '.'
  onePoint : text.count '.' ≤ 1
  some : ∃ c ∈ text, c.isDigit = true

variable {whole fraction text : List Char}

theorem takeWhile_digits (areDigits : ∀ c ∈ whole, c.isDigit = true) :
    whole.takeWhile Char.isDigit = whole :=
  List.takeWhile_eq_self_iff.mpr areDigits

theorem takeWhile_point (areDigits : ∀ c ∈ whole, c.isDigit = true) (fraction : List Char) :
    (whole ++ '.' :: fraction).takeWhile Char.isDigit = whole := by
  rw [List.takeWhile_append_of_pos areDigits, List.takeWhile_cons_of_neg (by decide),
    List.append_nil]

theorem readDecimal?_digits (areDigits : ∀ c ∈ whole, c.isDigit = true) (present : whole ≠ []) :
    readDecimal? whole = some (ofDecimal (digitsValue whole) 0) := by
  have filled : whole.isEmpty = false := List.isEmpty_eq_false_iff.mpr present
  unfold readDecimal?
  simp only [takeWhile_digits areDigits, List.drop_length, List.append_nil, filled]
  rfl

theorem readDecimal?_point (areDigits : ∀ c ∈ whole, c.isDigit = true)
    (behind : ∀ c ∈ fraction, c.isDigit = true) (present : whole ++ fraction ≠ []) :
    readDecimal? (whole ++ '.' :: fraction) =
      some (ofDecimal (digitsValue (whole ++ fraction)) (-(fraction.length : Int))) := by
  have filled : (whole ++ fraction).isEmpty = false := List.isEmpty_eq_false_iff.mpr present
  have each : fraction.all Char.isDigit = true := List.all_eq_true.mpr behind
  unfold readDecimal?
  simp only [takeWhile_point areDigits, List.drop_left, filled, each]
  rfl

/-- What is read is digits alone or digits on both sides of a point. -/
theorem exists_digits_of_readDecimal (read : (readDecimal? text).isSome = true) :
    (∀ c ∈ text, c.isDigit = true) ∧ text ≠ [] ∨
      ∃ whole fraction, text = whole ++ '.' :: fraction ∧ (∀ c ∈ whole, c.isDigit = true) ∧
        (∀ c ∈ fraction, c.isDigit = true) ∧ whole ++ fraction ≠ [] := by
  have front : ∀ c ∈ text.takeWhile Char.isDigit, c.isDigit = true :=
    fun c member => List.mem_takeWhile_imp member
  have begins : text.takeWhile Char.isDigit <+: text := List.takeWhile_prefix Char.isDigit
  have parts := List.prefix_iff_eq_append.mp begins
  unfold readDecimal? at read
  dsimp only at read
  split at read
  · next none =>
    rw [none, List.append_nil] at parts
    rw [parts] at front read
    refine .inl ⟨front, fun empty => ?_⟩
    subst empty
    cases read
  · next fraction behind =>
    rw [behind] at parts
    refine .inr ⟨_, fraction, parts.symm, front, ?_⟩
    split at read
    · cases read
    · next fine =>
      simp only [Bool.or_eq_true, Bool.not_eq_true', not_or, Bool.not_eq_false,
        List.isEmpty_iff] at fine
      exact ⟨List.all_eq_true.mp fine.2, fine.1⟩
  · cases read

theorem isDecimal_digits (areDigits : ∀ c ∈ whole, c.isDigit = true) (present : whole ≠ []) :
    IsDecimal whole := by
  obtain ⟨c, rest, rfl⟩ := List.exists_cons_of_ne_nil present
  refine ⟨fun d member => .inl (areDigits d member), ?_, c, List.mem_cons_self,
    areDigits c List.mem_cons_self⟩
  have noPoint : '.' ∉ c :: rest := fun member => by cases areDigits '.' member
  rw [List.count_eq_zero.mpr noPoint]
  exact Nat.zero_le _

theorem isDecimal_point (areDigits : ∀ c ∈ whole, c.isDigit = true)
    (behind : ∀ c ∈ fraction, c.isDigit = true) (present : whole ++ fraction ≠ []) :
    IsDecimal (whole ++ '.' :: fraction) := by
  have both : ∀ c ∈ whole ++ fraction, c.isDigit = true :=
    List.forall_mem_append.mpr ⟨areDigits, behind⟩
  have digits := isDecimal_digits both present
  have split : ∀ c, c ∈ whole ++ '.' :: fraction ↔ c = '.' ∨ c ∈ whole ++ fraction := by
    intro c
    rw [List.mem_append, List.mem_cons, List.mem_append, or_left_comm]
  refine ⟨fun c member => ?_, ?_, ?_⟩
  · exact ((split c).mp member).elim .inr fun inside => .inl (both c inside)
  · have noPoint : '.' ∉ whole ++ fraction := fun member => by cases both '.' member
    have counted := List.count_eq_zero.mpr noPoint
    rw [List.count_append] at counted ⊢
    rw [List.count_cons_self]
    omega
  · obtain ⟨c, member, digit⟩ := digits.some
    exact ⟨c, (split c).mpr (.inr member), digit⟩

/-- A text is read as a number exactly if it is digits with one point at the most. -/
theorem isSome_readDecimal? : (readDecimal? text).isSome = true ↔ IsDecimal text := by
  constructor
  · intro read
    obtain ⟨areDigits, present⟩ | ⟨whole, fraction, rfl, areDigits, behind, present⟩ :=
      exists_digits_of_readDecimal read
    · exact isDecimal_digits areDigits present
    · exact isDecimal_point areDigits behind present
  · rintro ⟨allowed, onePoint, c, member, digit⟩
    by_cases point : '.' ∈ text
    · obtain ⟨whole, fraction, rfl⟩ := List.append_of_mem point
      rw [List.count_append, List.count_cons_self] at onePoint
      have noneBefore : '.' ∉ whole := List.count_eq_zero.mp (by omega)
      have noneBehind : '.' ∉ fraction := List.count_eq_zero.mp (by omega)
      rw [List.forall_mem_append, List.forall_mem_cons] at allowed
      have areDigits : ∀ c ∈ whole, c.isDigit = true := fun c inside =>
        (allowed.1 c inside).resolve_right fun same => noneBefore (same ▸ inside)
      have behind : ∀ c ∈ fraction, c.isDigit = true := fun c inside =>
        (allowed.2.2 c inside).resolve_right fun same => noneBehind (same ▸ inside)
      have present : whole ++ fraction ≠ [] := by
        rintro empty
        obtain ⟨rfl, rfl⟩ := List.append_eq_nil_iff.mp empty
        obtain rfl := List.mem_singleton.mp member
        cases digit
      rw [readDecimal?_point areDigits behind present]
      rfl
    · have areDigits : ∀ c ∈ text, c.isDigit = true := fun c inside =>
        (allowed c inside).resolve_right fun same => point (same ▸ inside)
      rw [readDecimal?_digits areDigits (List.ne_nil_of_mem member)]
      rfl

/-- A number is digits alone, or digits on both sides of a point. -/
theorem IsDecimal.digits_or_point (number : IsDecimal text) :
    (∀ c ∈ text, c.isDigit = true) ∧ text ≠ [] ∨
      ∃ whole fraction, text = whole ++ '.' :: fraction ∧ (∀ c ∈ whole, c.isDigit = true) ∧
        (∀ c ∈ fraction, c.isDigit = true) ∧ whole ++ fraction ≠ [] :=
  exists_digits_of_readDecimal (isSome_readDecimal?.mpr number)

/-! ### Values -/

/-- A number with some decimal places is a quotient by a power of ten. -/
theorem ofDecimal_places (digits places : Nat) :
    ofDecimal digits (-(places : Int)) = ofQuotient digits (tenTo places) := by
  cases places with
  | zero => exact congrArg (ofQuotient · 1) (Nat.mul_one digits)
  | succ places =>
    rw [ofDecimal, if_pos (by omega), Int.natAbs_neg, Int.natAbs_natCast]

/-- What is read is the number that all digits make, divided by ten for each one behind the
point. -/
theorem exists_of_readDecimal {number : Binary64} (read : readDecimal? text = some number) :
    ∃ fraction, number =
      ofQuotient (digitsValue (text.takeWhile Char.isDigit ++ fraction))
        (tenTo fraction.length) := by
  obtain ⟨areDigits, present⟩ | ⟨whole, fraction, rfl, areDigits, behind, present⟩ :=
    exists_digits_of_readDecimal (Option.isSome_of_eq_some read)
  · rw [readDecimal?_digits areDigits present] at read
    refine ⟨[], (Option.some.inj read).symm.trans ?_⟩
    rw [takeWhile_digits areDigits, List.append_nil]
    exact ofDecimal_places _ 0
  · rw [readDecimal?_point areDigits behind present] at read
    refine ⟨fraction, (Option.some.inj read).symm.trans ?_⟩
    rw [takeWhile_point areDigits]
    exact ofDecimal_places _ _

/-- Digits behind others multiply these by ten each, and add to them. -/
theorem digitsValue_mul_le (whole fraction : List Char) :
    digitsValue whole * tenTo fraction.length ≤ digitsValue (whole ++ fraction) := by
  induction fraction generalizing whole with
  | nil =>
    rw [List.append_nil]
    exact Nat.le_of_eq (Nat.mul_one _)
  | cons c fraction inductionHypothesis =>
    have longer : digitsValue (whole ++ [c]) = digitsValue whole * 10 + (c.toNat - 48) := by
      rw [digitsValue, List.foldl_append]
      rfl
    calc digitsValue whole * tenTo (c :: fraction).length
        = digitsValue whole * 10 * tenTo fraction.length := by
          rw [tenTo, tenTo, List.length_cons, Nat.pow_eq, Nat.pow_eq, Nat.pow_succ, Nat.mul_assoc,
            Nat.mul_comm 10]
      _ ≤ digitsValue (whole ++ [c]) * tenTo fraction.length :=
          Nat.mul_le_mul_right _ (longer ▸ Nat.le_add_right _ _)
      _ ≤ digitsValue (whole ++ [c] ++ fraction) := inductionHypothesis (whole ++ [c])
      _ = digitsValue (whole ++ c :: fraction) := by
          rw [List.append_assoc, List.singleton_append]

end Metasearch.Number.Binary64
