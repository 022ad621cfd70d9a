/-
This file settles that an address of four bytes is read back from its text, four decimal numbers
with points between, and that whatever is read as one fits four bytes. A number is taken apart into
its digits and put together from them by the same step, so each digit goes back where it came from.
-/
import Mathlib.Algebra.Group.Nat.Defs
import Metasearch.Proofs.IntegerTexts
import Metasearch.Url.Reader

namespace Metasearch.Url

open Number (isDigit_of_mem_toString)
open Text (hexDigitValue? splitAt)

/-! ### Digits -/

theorem hexDigitValue_digitChar {digit : Nat} (small : digit < 16) :
    hexDigitValue? digit.digitChar = some digit := by
  have every : ∀ digit : Fin 16, hexDigitValue? digit.val.digitChar = some digit.val := by decide
  exact every ⟨digit, small⟩

theorem addDigit_digitChar {base digit : Nat} (high : base ≤ 16) (small : digit < base)
    (sum : Nat) : addDigit? base sum digit.digitChar = some (sum * base + digit) := by
  rw [addDigit?, hexDigitValue_digitChar (by omega)]
  exact if_pos small

/-- The digits of a number in a base give the number. -/
theorem numberIn_toDigits {base : Nat} (low : 1 < base) (high : base ≤ 16) (number : Nat) :
    numberIn? base (Nat.toDigits base number) = some number := by
  induction number using Nat.strongRecOn with
  | ind number inductionHypothesis =>
    by_cases single : number < base
    · rw [Nat.toDigits_of_lt_base single, numberIn?, List.foldlM_cons,
        addDigit_digitChar high single, Nat.zero_mul, Nat.zero_add]
      rfl
    · have shorter : number / base < number := Nat.div_lt_self (by omega) low
      have small : number % base < base := Nat.mod_lt _ (by omega)
      have front : (Nat.toDigits base (number / base)).foldlM (addDigit? base) 0 =
          some (number / base) := inductionHypothesis _ shorter
      rw [Nat.toDigits_of_base_le low (Nat.not_lt.mp single), numberIn?, List.foldlM_append,
        front]
      simp only [Option.bind_eq_bind, Option.bind_some, List.foldlM_cons, List.foldlM_nil,
        addDigit_digitChar high small, Option.pure_def]
      rw [Nat.mul_comm, Nat.div_add_mod]

theorem addDigit_lt {base sum next : Nat} {c : Char} (added : addDigit? base sum c = some next) :
    next < (sum + 1) * base := by
  obtain ⟨digit, -, added⟩ := Option.bind_eq_some_iff.mp added
  split at added
  · next small =>
    rw [← Option.some.inj added, Nat.succ_mul]
    omega
  · exact absurd added (by simp)

theorem foldlM_addDigit_lt {base sum number : Nat} {digits : List Char}
    (read : digits.foldlM (addDigit? base) sum = some number) :
    number < (sum + 1) * base ^ digits.length := by
  induction digits generalizing sum with
  | nil =>
    obtain rfl := Option.some.inj read
    simp
  | cons c rest inductionHypothesis =>
    rw [List.foldlM_cons] at read
    obtain ⟨next, added, later⟩ := Option.bind_eq_some_iff.mp read
    calc number < (next + 1) * base ^ rest.length := inductionHypothesis later
      _ ≤ (sum + 1) * base * base ^ rest.length := Nat.mul_le_mul_right _ (addDigit_lt added)
      _ = (sum + 1) * base ^ (rest.length + 1) := by rw [Nat.mul_assoc, ← Nat.pow_succ']

/-- So many digits make a number below that power of the base. -/
theorem numberIn_lt {base : Nat} {digits : List Char} {number : Nat}
    (read : numberIn? base digits = some number) : number < base ^ digits.length := by
  have bound := foldlM_addDigit_lt read
  rwa [Nat.zero_add, Nat.one_mul] at bound

/-! ### Four bytes -/

theorem readPart_byte {byte : Nat} (small : byte < 256) :
    readPart? (toString byte).toList = some byte := by
  have every : ∀ byte : Fin 256, readPart? (toString byte.val).toList = some byte.val := by
    decide +kernel
  exact every ⟨byte, small⟩

/-- The bytes of an address, from the first on. -/
def bytesOf (address : Nat) : List Nat :=
  [address / 0x1000000, address / 0x10000 % 256, address / 0x100 % 256, address % 256]

theorem bytesOf_lt {address : Nat} (fits : address < 2 ^ 32) :
    ∀ byte ∈ bytesOf address, byte < 256 := by
  simp only [bytesOf, List.forall_mem_cons]
  exact ⟨by omega, by omega, by omega, by omega, by simp⟩

/-- The bytes of an address as they are written. -/
def writtenBytes (address : Nat) : List (List Char) :=
  (bytesOf address).map fun byte => (toString byte).toList

theorem isDigit_of_mem_writtenBytes {address : Nat} {part : List Char}
    (isPart : part ∈ writtenBytes address) {c : Char} (member : c ∈ part) :
    c.isDigit = true := by
  obtain ⟨byte, -, rfl⟩ := List.mem_map.mp isPart
  exact isDigit_of_mem_toString member

theorem splitAt_writeFour (address : Nat) :
    splitAt (· == '.') (writeFour address) = writtenBytes address := by
  refine Text.splitAt_intercalate (by decide) (fun part isPart c member => ?_) (by simp)
  refine beq_eq_false_iff_ne.mpr ?_
  rintro rfl
  exact absurd (isDigit_of_mem_writtenBytes isPart member) (by decide)

theorem nameParts_writeFour (address : Nat) :
    nameParts (writeFour address) = writtenBytes address := by
  have last : (writtenBytes address).getLast? = some (toString (address % 256)).toList := rfl
  rw [nameParts, splitAt_writeFour, last, if_neg]
  simp

theorem endsInNumber_writeFour (address : Nat) : endsInNumber (writeFour address) = true := by
  have last : (writtenBytes address).getLast? = some (toString (address % 256)).toList := rfl
  have digits : (toString (address % 256)).toList.all (·.isDigit) = true :=
    List.all_eq_true.mpr fun c member => isDigit_of_mem_toString member
  have present : (!(toString (address % 256)).toList.isEmpty) = true := by
    simp
  simp only [endsInNumber, nameParts_writeFour, last, digits, present, Bool.and_self,
    Bool.true_or]

theorem mapM_readPart {bytes : List Nat} (small : ∀ byte ∈ bytes, byte < 256) :
    (bytes.map fun byte => (toString byte).toList).mapM readPart? = some bytes := by
  induction bytes with
  | nil => rfl
  | cons byte rest inductionHypothesis =>
    rw [List.forall_mem_cons] at small
    rw [List.map_cons, List.mapM_cons, readPart_byte small.1, inductionHypothesis small.2]
    rfl

/-- An address of four bytes is read back. -/
theorem readFour_writeFour {address : Nat} (fits : address < 2 ^ 32) :
    readFour? (writeFour address) = some address := by
  have small := bytesOf_lt fits
  have numbers : (writtenBytes address).mapM readPart? = some (bytesOf address) :=
    mapM_readPart small
  have last : (bytesOf address).getLast? = some (address % 256) := rfl
  have front : (bytesOf address).dropLast =
      [address / 0x1000000, address / 0x10000 % 256, address / 0x100 % 256] := rfl
  have sum : (bytesOf address).dropLast.foldr putByte 0 + address % 256 = address := by
    rw [front, List.foldr_cons, List.foldr_cons, List.foldr_cons, List.foldr_nil, putByte, putByte,
      putByte]
    omega
  have noExcess : ¬(decide (3 < (bytesOf address).dropLast.length) ||
      (bytesOf address).dropLast.any (255 < ·) ||
      decide (Nat.pow 256 (4 - (bytesOf address).dropLast.length) ≤ address % 256)) = true := by
    have bytes : ∀ byte ∈ (bytesOf address).dropLast, ¬255 < byte := fun byte member =>
      Nat.not_lt.mpr (Nat.le_of_lt_succ (small byte ((List.dropLast_sublist _).mem member)))
    have below : address % 256 < Nat.pow 256 (4 - (bytesOf address).dropLast.length) :=
      Nat.mod_lt _ (by decide)
    simp only [Bool.or_eq_true, decide_eq_true_eq, List.any_eq_true, not_or, not_exists, not_and]
    exact ⟨⟨Nat.lt_irrefl 3, bytes⟩, Nat.not_le.mpr below⟩
  rw [readFour?, nameParts_writeFour, numbers]
  simp only [Option.bind_eq_bind, Option.bind_some, last]
  rw [if_neg noExcess, sum]

/-- Bytes with what the last number stands for behind them fit in four bytes. -/
theorem foldr_putByte_lt {bytes : List Nat} {last : Nat} (count : bytes.length ≤ 3)
    (small : ∀ byte ∈ bytes, byte ≤ 255) (below : last < Nat.pow 256 (4 - bytes.length)) :
    bytes.foldr putByte 0 + last < 2 ^ 32 := by
  match bytes, count with
  | [], _ =>
    have bound : last < 256 ^ 4 := below
    rw [List.foldr_nil]
    omega
  | [first], _ =>
    have bound : last < 256 ^ 3 := below
    have one := small first (by simp)
    rw [List.foldr_cons, List.foldr_nil, putByte]
    omega
  | [first, second], _ =>
    have bound : last < 256 ^ 2 := below
    have one := small first (by simp)
    have two := small second (by simp)
    rw [List.foldr_cons, List.foldr_cons, List.foldr_nil, putByte, putByte]
    omega
  | [first, second, third], _ =>
    have bound : last < 256 ^ 1 := below
    have one := small first (by simp)
    have two := small second (by simp)
    have three := small third (by simp)
    rw [List.foldr_cons, List.foldr_cons, List.foldr_cons, List.foldr_nil, putByte, putByte,
      putByte]
    omega

/-- What is read as four bytes fits in them. -/
theorem readFour_lt {name : List Char} {address : Nat} (read : readFour? name = some address) :
    address < 2 ^ 32 := by
  obtain ⟨numbers, -, read⟩ := Option.bind_eq_some_iff.mp read
  obtain ⟨last, -, read⟩ := Option.bind_eq_some_iff.mp read
  dsimp only at read
  split at read
  · exact absurd read (by simp)
  · next fits =>
    simp only [Bool.or_eq_true, decide_eq_true_eq, not_or, Nat.not_lt, Nat.not_le,
      Bool.not_eq_true, List.any_eq_false] at fits
    obtain ⟨⟨count, bytes⟩, below⟩ := fits
    rw [← Option.some.inj read]
    exact foldr_putByte_lt count bytes below

end Metasearch.Url
