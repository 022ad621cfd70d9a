/-
This file settles which pieces of a phrase are read as quantities: the numbers with a digit in front
of their point whose digits there make less than 2^32. Words and single characters are no
quantities, and neither is a number that begins with its point, although it is cut out of the phrase
as a number: nothing stands in front of the point, and nothing is not read as zero.

So a phrase fails for want of a quantity exactly where the pieces in front lead to an instant and
the next piece, which is no filler, is none of those numbers.
-/
import Metasearch.Proofs.PhrasePieces
import Metasearch.Proofs.ReadIntegers

namespace Metasearch.RelativeTime

open Calendar (Instant)
open Number (Binary64 IsDigits IsUnsigned maxUnsigned32 readUnsigned readUnsigned_eq_ok_iff)
open Number.Binary64 (IsDecimal isDecimal_point isSome_readDecimal? readDecimal? takeWhile_digits
  takeWhile_point)

/-! ### Quantities -/

/-- A number with digits in front of its point that make less than 2^32. -/
def Token.IsQuantity : Token → Prop
  | .number text => ∃ whole < 2 ^ 32, IsDigits (text.takeWhile Char.isDigit) whole
  | .word _ | .mark _ => False

variable {text digits fraction : List Char}

theorem isSome_readUnsigned : (readUnsigned maxUnsigned32 text).toOption.isSome = true ↔
    ∃ whole < 2 ^ 32, IsUnsigned text whole := by
  have limit : ∀ whole, whole ≤ maxUnsigned32 ↔ whole < 2 ^ 32 := fun whole =>
    Nat.lt_succ_iff.symm
  cases read : readUnsigned maxUnsigned32 text with
  | ok whole =>
    obtain ⟨isUnsigned, fits⟩ := readUnsigned_eq_ok_iff.mp read
    exact iff_of_true rfl ⟨whole, (limit whole).mp fits, isUnsigned⟩
  | error cause =>
    refine iff_of_false (by rintro ⟨⟩) ?_
    rintro ⟨whole, fits, isUnsigned⟩
    cases read.symm.trans (readUnsigned_eq_ok_iff.mpr ⟨isUnsigned, (limit whole).mpr fits⟩)

/-- Digits have no sign in front of them. -/
theorem isUnsigned_digits {whole : Nat} (areDigits : ∀ c ∈ digits, c.isDigit = true) :
    IsUnsigned digits whole ↔ IsDigits digits whole := by
  constructor
  · rintro (isDigits | isDigits)
    · exact isDigits
    · cases areDigits '+' List.mem_cons_self
  · exact .plain

theorem isSome_readQuantity?_digits (areDigits : ∀ c ∈ digits, c.isDigit = true) :
    (readQuantity? digits).isSome = true ↔ ∃ whole < 2 ^ 32, IsDigits digits whole := by
  have noPoint : '.' ∉ digits := fun member => by cases areDigits '.' member
  rw [readQuantity?, Text.cut_of_absent noPoint]
  simp only [← isUnsigned_digits areDigits, ← isSome_readUnsigned]
  cases (readUnsigned maxUnsigned32 digits).toOption <;> rfl

/-- What is behind the point can be any digits. -/
theorem isSome_readQuantity?_point (areDigits : ∀ c ∈ digits, c.isDigit = true)
    (behind : ∀ c ∈ fraction, c.isDigit = true) :
    (readQuantity? (digits ++ '.' :: fraction)).isSome = true ↔
      ∃ whole < 2 ^ 32, IsDigits digits whole := by
  have noPoint : '.' ∉ digits := fun member => by cases areDigits '.' member
  have isNumber : IsDecimal ('0' :: '.' :: fraction) :=
    isDecimal_point (List.forall_mem_singleton.mpr rfl) behind (List.cons_ne_nil '0' fraction)
  obtain ⟨share, read⟩ := Option.isSome_iff_exists.mp (isSome_readDecimal?.mpr isNumber)
  rw [readQuantity?, Text.cut_single noPoint]
  simp only [← isUnsigned_digits areDigits, ← isSome_readUnsigned, read]
  cases (readUnsigned maxUnsigned32 digits).toOption <;> rfl

/-- A text that begins with neither a digit nor a sign is no quantity. -/
theorem readQuantity?_of_head {c : Char} (noDigit : c.isDigit = false) (noPlus : c ≠ '+')
    (rest : List Char) : readQuantity? (c :: rest) = none := by
  have refused : ∀ tail, (readUnsigned maxUnsigned32 (c :: tail)).toOption = none := by
    intro tail
    refine Option.not_isSome_iff_eq_none.mp fun read => ?_
    obtain ⟨whole, -, isUnsigned⟩ := isSome_readUnsigned.mp read
    cases isUnsigned with
    | plain isDigits => simp [isDigits.each c List.mem_cons_self] at noDigit
    | plus => exact noPlus rfl
  rw [readQuantity?]
  split
  case h_1 whole fraction found =>
    have parts := Text.eq_append_of_cut found
    cases whole with
    | nil => rfl
    | cons first tail =>
      obtain ⟨rfl, -⟩ := List.cons.inj parts
      rw [refused]
      rfl
  case h_2 =>
    rw [refused]
    rfl

/-- Of the pieces that a phrase can have, exactly these are read as quantities. -/
theorem isSome_readQuantity?_iff {piece : Token} (shaped : piece.IsShaped) :
    (readQuantity? piece.text).isSome = true ↔ piece.IsQuantity := by
  cases piece with
  | number text =>
    obtain ⟨areDigits, -⟩ | ⟨whole, fraction, rfl, areDigits, behind, -⟩ :=
      IsDecimal.digits_or_point shaped
    · rw [Token.IsQuantity, takeWhile_digits areDigits]
      exact isSome_readQuantity?_digits areDigits
    · rw [Token.IsQuantity, takeWhile_point areDigits]
      exact isSome_readQuantity?_point areDigits behind
  | word text =>
    obtain ⟨c, rest, rfl, starts, -⟩ := shaped
    have noDigit : c.isDigit = false := Bool.eq_false_iff.mpr fun digit =>
      absurd starts (by simp [not_startsWord_of_isDigit digit])
    have noPlus : c ≠ '+' := by rintro rfl; cases starts
    show (readQuantity? (c :: rest)).isSome = true ↔ False
    rw [readQuantity?_of_head noDigit noPlus]
    simp
  | mark text =>
    obtain ⟨c, rfl, -, noDigit, -⟩ := shaped
    show (readQuantity? [c]).isSome = true ↔ False
    by_cases plus : c = '+'
    · subst plus
      decide
    · rw [readQuantity?_of_head noDigit plus]
      simp

/-- A small number is a quantity unless it begins with its point. -/
theorem isQuantity_iff_of_lt {number : List Char} (isNumber : IsDecimal number)
    (small : Nat.ofDigitChars 10 (number.takeWhile Char.isDigit) 0 < 2 ^ 32) :
    (Token.number number).IsQuantity ↔ number.head? ≠ some '.' := by
  have digits : ∀ c ∈ number.takeWhile Char.isDigit, c.isDigit = true :=
    fun c member => List.mem_takeWhile_imp member
  have whole : (Token.number number).IsQuantity ↔ number.takeWhile Char.isDigit ≠ [] := by
    constructor
    · rintro ⟨_, _, isDigits⟩
      exact isDigits.present
    · exact fun present => ⟨_, small, present, digits, rfl⟩
  obtain ⟨_, member, -⟩ := isNumber.some
  obtain ⟨c, rest, rfl⟩ := List.exists_cons_of_ne_nil (List.ne_nil_of_mem member)
  rw [whole, List.head?_cons]
  rcases isNumber.allowed c List.mem_cons_self with digit | rfl
  · have noPoint : c ≠ '.' := by rintro rfl; cases digit
    simp [List.takeWhile_cons_of_pos digit, noPoint]
  · simp

/-! ### Phrases -/

/-- Going back fails for want of a quantity at the first piece that should be one and is none. -/
theorem goBack_eq_noQuantity_iff {now : Instant} {pieces : List Token} {text : String} :
    goBack now pieces = .error (.noQuantity text) ↔
      ∃ before piece behind reached, pieces = before ++ piece :: behind ∧
        goBack now before = .ok reached ∧ isFiller piece.text = false ∧
        readQuantity? piece.text = none ∧ text = String.ofList piece.text := by
  constructor
  · intro failure
    fun_induction goBack now pieces with
    | case1 | case4 | case5 | case6 => cases failure
    | case2 now piece rest filler inductionHypothesis =>
      obtain ⟨before, found, behind, reached, rfl, leads, wrong⟩ := inductionHypothesis failure
      exact ⟨piece :: before, found, behind, reached, rfl,
        (goBack_filler filler before).trans leads, wrong⟩
    | case3 now piece rest counts uncounted =>
      cases failure
      exact ⟨[], piece, rest, now, rfl, rfl, Bool.eq_false_iff.mpr counts, uncounted, rfl⟩
    | case7 now piece counts quantity unit rest counted timeUnit named next stepped
        inductionHypothesis =>
      obtain ⟨before, found, behind, reached, rfl, leads, wrong⟩ := inductionHypothesis failure
      refine ⟨piece :: unit :: before, found, behind, reached, rfl, ?_, wrong⟩
      rw [goBack_step counts counted named, stepped]
      exact leads
  · rintro ⟨before, piece, behind, reached, rfl, leads, counts, uncounted, rfl⟩
    rw [goBack_append leads, goBack, if_neg (by simp [counts])]
    exact uncounted

/-- Of the numbers in a phrase whose digits in front of the point make less than 2^32, or of which
none stand there, those are read as quantities that do not begin with the point. No other piece is
read as one but these. And a phrase fails for want of a quantity exactly if the pieces in front of
one of its pieces lead to an instant, and that piece is neither a filler nor read as a quantity; the
reason names it. -/
theorem quantities_decided (phrase : String) (now : Instant) :
    (∀ number, .number number ∈ tokens phrase.toList →
      Nat.ofDigitChars 10 (number.takeWhile Char.isDigit) 0 < 2 ^ 32 →
      ((readQuantity? number).isSome = true ↔ number.head? ≠ some '.')) ∧
    (∀ piece ∈ tokens phrase.toList,
      ((readQuantity? piece.text).isSome = true ↔ piece.IsQuantity)) ∧
    ∀ text, read phrase now = .error (.noQuantity text) ↔
      ∃ before piece behind reached, tokens phrase.toList = before ++ piece :: behind ∧
        goBack now before = .ok reached ∧ isFiller piece.text = false ∧ ¬ piece.IsQuantity ∧
        text = String.ofList piece.text := by
  have shaped := (isCutInto_tokens phrase.toList).isShaped
  refine ⟨fun number member small => ?_,
    fun piece member => isSome_readQuantity?_iff (shaped piece member), fun text => ?_⟩
  · have isNumber : IsDecimal number := shaped _ member
    exact (isSome_readQuantity?_iff (shaped _ member)).trans (isQuantity_iff_of_lt isNumber small)
  · rw [read, goBack_eq_noQuantity_iff]
    refine exists_congr fun before => exists_congr fun piece => exists_congr fun behind =>
      exists_congr fun reached => and_congr_right fun whole => ?_
    have member : piece ∈ tokens phrase.toList := by rw [whole]; simp
    rw [← isSome_readQuantity?_iff (shaped piece member), Option.not_isSome_iff_eq_none]

/-- Half an hour with nothing in front of its point: one number and its unit, and no quantity. -/
theorem read_pointFirst :
    tokens ".5 hours ago".toList =
        [.number ".5".toList, .word "hours".toList, .word "ago".toList] ∧
      Nat.ofDigitChars 10 (".5".toList.takeWhile Char.isDigit) 0 < 2 ^ 32 ∧
      readUnit? "hours".toList = some .hour ∧
      read ".5 hours ago" summerNoon = .error (.noQuantity ".5") := by
  decide +kernel

end Metasearch.RelativeTime
