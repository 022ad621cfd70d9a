/-
This file settles what becomes of a part of a query when it is read. A plus sign becomes a space
and an escape at most one character; everything else stays as it is. So where each percent sign
starts an escape, a part is read as itself exactly if it has neither of the two marks, and it
never becomes longer.
-/
import Metasearch.Proofs.RawInput

namespace Metasearch

/-! ### Bytes that make no text -/

namespace Text

/-- A byte that continues a character cannot begin one. -/
theorem decode_of_continues {byte : UInt8} (behind : continues byte = true) (rest : List UInt8) :
    decode (byte :: rest) = replacement :: decode rest := by
  simp only [continues, Bool.and_eq_true, decide_eq_true_eq, UInt8.le_iff_toNat_le,
    UInt8.reduceToNat] at behind
  rw [decode.eq_def]
  simp only [UInt8.lt_iff_toNat_lt, UInt8.le_iff_toNat_le, Bool.and_eq_true, decide_eq_true_eq,
    UInt8.reduceToNat]
  rw [if_neg (by omega), if_neg (by omega), if_neg (by omega), if_neg (by omega)]

theorem continues_of_secondOfThree {first second : UInt8}
    (fits : secondOfThree first second = true) : continues second = true := by
  simp only [secondOfThree, continues, UInt8.le_iff_toNat_le, UInt8.reduceToNat] at fits ⊢
  split at fits
  · simp only [Bool.and_eq_true, decide_eq_true_eq] at fits ⊢
    omega
  · split at fits <;> simp only [Bool.and_eq_true, decide_eq_true_eq] at fits ⊢ <;> omega

theorem continues_of_secondOfFour {first second : UInt8}
    (fits : secondOfFour first second = true) : continues second = true := by
  simp only [secondOfFour, continues, UInt8.le_iff_toNat_le, UInt8.reduceToNat] at fits ⊢
  split at fits
  · simp only [Bool.and_eq_true, decide_eq_true_eq] at fits ⊢
    omega
  · split at fits <;> simp only [Bool.and_eq_true, decide_eq_true_eq] at fits ⊢ <;> omega

theorem length_decode_of_continues {byte : UInt8} (behind : continues byte = true)
    (rest : List UInt8) : (decode (byte :: rest)).length = (decode rest).length + 1 := by
  rw [decode_of_continues behind, List.length_cons]

/-- One byte more makes at most one character more: the bytes that it takes into its character
would each have made a replacement character. -/
theorem length_decode_cons (first : UInt8) (rest : List UInt8) :
    (decode (first :: rest)).length ≤ (decode rest).length + 1 := by
  rw [decode.eq_def]
  dsimp only
  split
  · exact Nat.le_refl _
  · split
    · split
      · split
        · next behind =>
          rw [length_decode_of_continues behind, List.length_cons]
          omega
        · exact Nat.le_refl _
      · exact Nat.le_add_left _ _
    · split
      · split
        · split
          · next fits =>
            have second := continues_of_secondOfThree fits
            split
            · split
              · next third =>
                rw [length_decode_of_continues second, length_decode_of_continues third,
                  List.length_cons]
                omega
              · rw [length_decode_of_continues second, List.length_cons]
                omega
            · exact Nat.le_add_left _ _
          · exact Nat.le_refl _
        · exact Nat.le_add_left _ _
      · split
        · split
          · split
            · next fits =>
              have second := continues_of_secondOfFour fits
              split
              · split
                · next third =>
                  split
                  · split
                    · next fourth =>
                      rw [length_decode_of_continues second, length_decode_of_continues third,
                        length_decode_of_continues fourth, List.length_cons]
                      omega
                    · rw [length_decode_of_continues second, length_decode_of_continues third,
                        List.length_cons]
                      omega
                  · exact Nat.le_add_left _ _
                · rw [length_decode_of_continues second, List.length_cons]
                  omega
              · exact Nat.le_add_left _ _
            · exact Nat.le_refl _
          · exact Nat.le_add_left _ _
        · exact Nat.le_refl _

end Text

namespace Url

open Text (charBytes encode decode hexDigitValue?)
open Indexer (badEscape_cons percent_of_mem_charBytes)

/-! ### Strict queries with a mark in them -/

/-- What is found in a query first, with a mark between two parts of it, is found in the first
part if there is anything to find in that. -/
theorem badEscape_append {mark : Char} (noDigit : hexDigitValue? mark = none)
    (noPercent : mark ≠ '%') (left right : List Char) :
    badEscape? (left ++ mark :: right) =
      (badEscape? left).elim (badEscape? right) fun rest => some (rest ++ mark :: right) := by
  fun_induction badEscape? left with
  | case1 first second rest digits inductionHypothesis =>
    rw [List.cons_append, List.cons_append, List.cons_append, badEscape?, if_pos digits]
    exact inductionHypothesis
  | case2 first second rest digits =>
    rw [List.cons_append, List.cons_append, List.cons_append, badEscape?, if_neg digits]
    rfl
  | case3 rest short =>
    cases rest with
    | nil =>
      cases right with
      | nil => rfl
      | cons next rest => simp [badEscape?, noDigit]
    | cons first rest =>
      cases rest with
      | nil => simp [badEscape?, noDigit]
      | cons second rest => exact absurd rfl (short first second rest)
  | case4 c rest _ other inductionHypothesis =>
    rw [List.cons_append, badEscape_cons other]
    exact inductionHypothesis
  | case5 => exact badEscape_cons noPercent right

theorem badEscape_of_noPercent {text : List Char} (noPercent : '%' ∉ text) :
    badEscape? text = none := by
  induction text with
  | nil => rfl
  | cons c rest inductionHypothesis =>
    rw [List.mem_cons, not_or] at noPercent
    rw [badEscape_cons (Ne.symm noPercent.1), inductionHypothesis noPercent.2]

/-! ### One character after the other -/

/-- What a part is read with: a plus sign is a space. -/
def spaced (c : Char) : Char :=
  if c == '+' then ' ' else c

theorem readPart_eq (text : List Char) :
    readPart text = String.ofList (decode (unescape (encode (text.map spaced)))) := rfl

theorem unescape_append {bytes : List UInt8} (noPercent : 37 ∉ bytes) (rest : List UInt8) :
    unescape (bytes ++ rest) = bytes ++ unescape rest := by
  induction bytes with
  | nil => rfl
  | cons byte bytes inductionHypothesis =>
    rw [List.mem_cons, not_or] at noPercent
    rw [List.cons_append, unescape_cons (Ne.symm noPercent.1), inductionHypothesis noPercent.2]
    rfl

/-- A character that is no percent sign is read as itself, or as a space. -/
theorem readPart_cons {c : Char} (other : c ≠ '%') (rest : List Char) :
    (readPart (c :: rest)).toList = spaced c :: (readPart rest).toList := by
  have noPercent : 37 ∉ charBytes (spaced c) := by
    intro member
    have percent := percent_of_mem_charBytes member
    unfold spaced at percent
    split at percent
    · cases percent
    · exact other percent
  rw [readPart_eq, readPart_eq, String.toList_ofList, String.toList_ofList, List.map_cons,
    Text.encode_cons, unescape_append noPercent, Text.decode_charBytes]

/-- A digit of an escape has one byte, and is found again there. -/
theorem hexOfByte_of_hexDigitValue {c : Char} (digit : (hexDigitValue? c).isSome = true) :
    spaced c = c ∧ charBytes c = [UInt8.ofNat c.toNat] ∧
      (hexOfByte? (UInt8.ofNat c.toNat)).isSome = true := by
  have every : ∀ c ∈ Text.asciiChars, (hexDigitValue? c).isSome = true →
      spaced c = c ∧ (hexOfByte? (UInt8.ofNat c.toNat)).isSome = true :=
    Text.forall_of_all (by decide)
  have ascii := Text.ascii_of_hexDigitValue digit
  obtain ⟨same, isHex⟩ := every c (Text.mem_asciiChars ascii) digit
  exact ⟨same, Text.charBytes_ascii ascii, isHex⟩

/-- An escape is read as no more than one character. -/
theorem length_readPart_escape {first second : Char} (high : (hexDigitValue? first).isSome = true)
    (low : (hexDigitValue? second).isSome = true) (rest : List Char) :
    (readPart ('%' :: first :: second :: rest)).toList.length ≤
      (readPart rest).toList.length + 1 := by
  obtain ⟨sameHigh, bytesHigh, isHigh⟩ := hexOfByte_of_hexDigitValue high
  obtain ⟨sameLow, bytesLow, isLow⟩ := hexOfByte_of_hexDigitValue low
  obtain ⟨highValue, foundHigh⟩ := Option.isSome_iff_exists.mp isHigh
  obtain ⟨lowValue, foundLow⟩ := Option.isSome_iff_exists.mp isLow
  have undone : unescape (encode (('%' :: first :: second :: rest).map spaced)) =
      (highValue * 16 + lowValue) :: unescape (encode (rest.map spaced)) := by
    rw [List.map_cons, List.map_cons, List.map_cons, sameHigh, sameLow, Text.encode_cons,
      Text.encode_cons, Text.encode_cons, bytesHigh, bytesLow]
    show unescape (37 :: _ :: _ :: encode (rest.map spaced)) = _
    rw [unescape, foundHigh, foundLow]
  rw [readPart_eq, readPart_eq, String.toList_ofList, String.toList_ofList, undone]
  exact Text.length_decode_cons _ _

/-- A part in which each percent sign starts an escape becomes shorter by two characters at least
for each of them. -/
theorem length_readPart {text : List Char} (sound : badEscape? text = none) :
    (readPart text).toList.length + 2 * text.count '%' ≤ text.length := by
  fun_induction badEscape? text with
  | case1 first second rest digits inductionHypothesis =>
    obtain ⟨high, low⟩ := (Bool.and_eq_true _ _).mp digits
    have notPercent : first ≠ '%' ∧ second ≠ '%' := by
      constructor <;> rintro rfl <;> simp [hexDigitValue?] at high low
    have here := length_readPart_escape high low rest
    have behind := inductionHypothesis sound
    simp only [List.count_cons, List.length_cons, beq_iff_eq, notPercent, if_true, if_false]
    omega
  | case2 => cases sound
  | case3 => cases sound
  | case4 c rest _ other inductionHypothesis =>
    rw [readPart_cons other, List.count_cons_of_ne other, List.length_cons, List.length_cons]
    have behind := inductionHypothesis sound
    omega
  | case5 => exact Nat.le_refl _

theorem readPart_of_noPercent {text : List Char} (noPercent : '%' ∉ text) :
    (readPart text).toList = text.map spaced := by
  induction text with
  | nil => rfl
  | cons c rest inductionHypothesis =>
    rw [List.mem_cons, not_or] at noPercent
    rw [readPart_cons (Ne.symm noPercent.1), inductionHypothesis noPercent.2, List.map_cons]

/-- Where each percent sign starts an escape, a part is read as itself exactly if it has neither a
percent sign nor a plus sign. -/
theorem readPart_eq_self {text : List Char} (sound : badEscape? text = none) :
    (readPart text).toList = text ↔ '%' ∉ text ∧ '+' ∉ text := by
  by_cases percent : '%' ∈ text
  · have shorter := length_readPart sound
    have counted := List.count_pos_iff.mpr percent
    constructor
    · intro same
      rw [same] at shorter
      omega
    · exact fun absent => absurd percent absent.1
  · have fixed : text.map spaced = text ↔ ∀ c ∈ text, spaced c = c := by
      rw [← List.map_inj_left, List.map_id']
    rw [readPart_of_noPercent percent, fixed]
    constructor
    · exact fun same => ⟨percent, fun plus => absurd (same '+' plus) (by decide)⟩
    · rintro ⟨-, noPlus⟩ c member
      have other : c ≠ '+' := by
        rintro rfl
        exact noPlus member
      exact if_neg (by simpa using other)

end Url

end Metasearch
