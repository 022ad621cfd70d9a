/-
This file settles how a phrase in plain words is read: whole numbers with a unit behind each, and
fillers. A number is one piece, with the digits it is written in, and stands for that number; each
unit is known by its name and with an s behind it. So an amount takes one step back, the step of
its number and its unit, and what stands behind it goes on from there.
-/
import Metasearch.Proofs.CanonicalTimestamps
import Metasearch.Proofs.PhraseJoins

namespace Metasearch.RelativeTime

open Calendar (Instant padded isDigit_of_mem_padded padded_head padded_ne_nil)
open Number (Binary64)

/-! ### Numbers -/

theorem tokensFrom_length (text : List Char) : tokensFrom text.length text = [] := by
  induction text with
  | nil => rfl
  | cons c rest inductionHypothesis => exact inductionHypothesis

/-- A number that takes a whole text is one piece. -/
theorem tokens_number {c : Char} (digit : c.isDigit = true) {rest : List Char}
    (all : numberLength (c :: rest) = (c :: rest).length) :
    tokens (c :: rest) = [.number (c :: rest)] := by
  have noPoint : c ≠ '.' := by rintro rfl; exact absurd digit (by decide)
  have starts : startsNumber (c :: rest) = true := by simp [startsNumber, noPoint, digit]
  simp only [tokens, tokensFrom, Calendar.solid_of_isDigit digit, starts, all, List.take_length]
  exact congrArg (Token.number (c :: rest) :: ·) (tokensFrom_length rest)

/-- Digits are one piece. -/
theorem tokens_digits {digits : List Char} (areDigits : ∀ c ∈ digits, c.isDigit = true)
    (present : digits ≠ []) : tokens digits = [.number digits] := by
  obtain ⟨c, rest, rfl⟩ := List.exists_cons_of_ne_nil present
  refine tokens_number (areDigits c List.mem_cons_self) ?_
  have all : (c :: rest).takeWhile Char.isDigit = c :: rest :=
    List.takeWhile_eq_self_iff.mpr areDigits
  unfold numberLength
  simp only [all, List.drop_length]

/-- A number in decimal digits, with zeros in front if it has fewer than so many. -/
def numeral (width count : Nat) : String :=
  String.ofList (padded width '0' count)

theorem toList_numeral (width count : Nat) : (numeral width count).toList = padded width '0' count :=
  String.toList_ofList

theorem tokens_numeral (width count : Nat) :
    tokens (numeral width count).toList = [.number (padded width '0' count)] := by
  rw [toList_numeral]
  exact tokens_digits (fun _ => isDigit_of_mem_padded) (padded_ne_nil width count)

theorem readUnsigned_padded {count : Nat} (fits : count ≤ Number.maxUnsigned32) (width : Nat) :
    Number.readUnsigned Number.maxUnsigned32 (padded width '0' count) = .ok count := by
  obtain ⟨c, rest, starts, digit⟩ := padded_head width count
  have digits := Number.readDigits_toDigits fits .tooLarge []
  rw [List.append_nil] at digits
  rw [starts, Number.readUnsigned_of_digit _ digit, ← starts, padded, Number.readDigits_zeros]
  exact digits

theorem noPoint_padded (width count : Nat) : '.' ∉ padded width '0' count :=
  fun member => absurd (isDigit_of_mem_padded member) (by decide)

/-- A number that fits 32 bits is read as that number of whole units. -/
theorem readQuantity?_padded {count : Nat} (fits : count ≤ Number.maxUnsigned32) (width : Nat) :
    readQuantity? (padded width '0' count) = some ⟨count, Binary64.zero⟩ := by
  rw [readQuantity?, Text.cut_of_absent (noPoint_padded width count),
    readUnsigned_padded fits width]
  rfl

theorem not_isFiller_of_digit {c : Char} (digit : c.isDigit = true) (rest : List Char) :
    ¬ isFiller (c :: rest) = true := by
  have noComma : c ≠ ',' := by rintro rfl; exact absurd digit (by decide)
  have noLetter : c ≠ 'a' := by rintro rfl; exact absurd digit (by decide)
  simp [isFiller, noComma, noLetter]

theorem not_isFiller_padded (width count : Nat) : ¬ isFiller (padded width '0' count) = true := by
  obtain ⟨c, rest, starts, digit⟩ := padded_head width count
  rw [starts]
  exact not_isFiller_of_digit digit rest

/-! ### Units -/

/-- The name of a unit. -/
def TimeUnit.name : TimeUnit → String
  | .year => "year"
  | .month => "month"
  | .week => "week"
  | .day => "day"
  | .hour => "hour"
  | .minute => "minute"
  | .second => "second"

/-- The name of a unit, in the singular or with an s. -/
def TimeUnit.inWords (unit : TimeUnit) (plural : Bool) : String :=
  if plural then unit.name ++ "s" else unit.name

theorem tokens_inWords (unit : TimeUnit) (plural : Bool) :
    tokens (unit.inWords plural).toList = [.word (unit.inWords plural).toList] := by
  cases unit <;> cases plural <;> decide

theorem readUnit?_inWords (unit : TimeUnit) (plural : Bool) :
    readUnit? (unit.inWords plural).toList = some unit := by
  cases unit <;> cases plural <;> decide

/-! ### Amounts -/

/-- So many of a unit, as it is written: the number with zeros in front up to some width. -/
structure Amount where
  count : Nat
  unit : TimeUnit
  width : Nat
  plural : Bool
  fits : count ≤ Number.maxUnsigned32

/-- The words of an amount. -/
def Amount.words (amount : Amount) : List String :=
  [numeral amount.width amount.count, amount.unit.inWords amount.plural]

/-- An amount takes one step, and what is behind it goes on from where that leads. -/
theorem goBack_amount (now : Instant) (amount : Amount) (rest : List Token) :
    goBack now ((amount.words.flatMap fun word => tokens word.toList) ++ rest) =
      (step? now ⟨amount.count, Binary64.zero⟩ amount.unit).elim (.error .outOfRange)
        fun next => goBack next rest := by
  rw [Amount.words, List.flatMap_cons, List.flatMap_cons, List.flatMap_nil, List.append_nil,
    tokens_numeral, tokens_inWords]
  have counts : ¬ isFiller (Token.number (padded amount.width '0' amount.count)).text = true :=
    not_isFiller_padded amount.width amount.count
  have named : readUnit? (Token.word (amount.unit.inWords amount.plural).toList).text =
      some amount.unit := readUnit?_inWords amount.unit amount.plural
  exact goBack_step counts (readQuantity?_padded amount.fits amount.width) named rest

end Metasearch.RelativeTime
