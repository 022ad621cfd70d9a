/-
This file settles what an escaped text is made of and that undoing its escapes gives the bytes of
the text back. A place that escapes the percent sign loses nothing, because a percent sign in the
result then always starts an escape. A place that does not is settled after one pass: what it
writes, it writes the same again.
-/
import Metasearch.Url.Escape
import Metasearch.Proofs.TextBytes

namespace Metasearch.Url

open Text (charBytes encode)

/-! ### The characters of escapes -/

/-- What escapes are written with: the percent sign and the digits. -/
def escapeChars : List Char :=
  '%' :: (List.range 16).map upperHex

theorem upperHex_mem {value : Nat} (small : value < 16) : upperHex value ∈ escapeChars :=
  List.mem_cons_of_mem _ (List.mem_map_of_mem (List.mem_range.mpr small))

theorem ascii_of_mem_escapeChars {c : Char} (member : c ∈ escapeChars) : c.toNat < 0x80 := by
  have every : ∀ c ∈ escapeChars, c.toNat < 0x80 := Text.forall_of_all (by decide)
  exact every c member

theorem mem_escapeByte {byte : UInt8} {c : Char} (member : c ∈ escapeByte byte) :
    c ∈ escapeChars := by
  have small := byte.toNat_lt
  simp only [escapeByte, List.mem_cons, List.not_mem_nil, or_false] at member
  rcases member with rfl | rfl | rfl
  · exact List.mem_cons_self
  · exact upperHex_mem (by omega)
  · exact upperHex_mem (by omega)

theorem hexOfByte_upperHex {value : Nat} (small : value < 16) :
    hexOfByte? (UInt8.ofNat (upperHex value).toNat) = some (UInt8.ofNat value) := by
  have every : ∀ digit : Fin 16,
      hexOfByte? (UInt8.ofNat (upperHex digit).toNat) = some (UInt8.ofNat digit) := by decide
  exact every ⟨value, small⟩

/-! ### What an escaped text is made of -/

/-- A character that stands as itself in a place. -/
def Stands (escapes : Char → Bool) (c : Char) : Prop :=
  escapes c = false ∧ c.toNat < 0x80

instance (escapes : Char → Bool) (c : Char) : Decidable (Stands escapes c) :=
  inferInstanceAs (Decidable (_ ∧ _))

theorem escapeChar_of_stands {escapes : Char → Bool} {c : Char} (stands : Stands escapes c) :
    escapeChar escapes c = [c] := by
  rw [escapeChar, if_neg]
  simp only [stands.1, Bool.false_or, decide_eq_true_eq]
  exact Nat.not_le.mpr stands.2

theorem escapeChar_of_not_stands {escapes : Char → Bool} {c : Char}
    (escaped : ¬Stands escapes c) : escapeChar escapes c = (charBytes c).flatMap escapeByte := by
  rw [escapeChar, if_pos]
  cases plain : escapes c with
  | true => rfl
  | false => exact decide_eq_true (Nat.not_lt.mp fun ascii => escaped ⟨plain, ascii⟩)

/-- An escaped text is made of escapes and of what stands as itself. -/
theorem mem_escapeText {escapes : Char → Bool} {text : List Char} {c : Char}
    (member : c ∈ escapeText escapes text) :
    c ∈ escapeChars ∨ (Stands escapes c ∧ c ∈ text) := by
  obtain ⟨source, inText, member⟩ := List.mem_flatMap.mp member
  by_cases stands : Stands escapes source
  · rw [escapeChar_of_stands stands, List.mem_singleton] at member
    exact .inr (member ▸ ⟨stands, inText⟩)
  · rw [escapeChar_of_not_stands stands] at member
    obtain ⟨byte, -, member⟩ := List.mem_flatMap.mp member
    exact .inl (mem_escapeByte member)

/-- A text that stands as it is in a place is not changed. -/
theorem escapeText_of_stands {escapes : Char → Bool} {text : List Char}
    (stands : ∀ c ∈ text, Stands escapes c) : escapeText escapes text = text := by
  induction text with
  | nil => rfl
  | cons c rest inductionHypothesis =>
    rw [List.forall_mem_cons] at stands
    rw [escapeText, List.flatMap_cons, escapeChar_of_stands stands.1]
    exact congrArg (c :: ·) (inductionHypothesis stands.2)

/-- In a place where the characters of escapes stand as themselves, an escaped text does. -/
theorem stands_of_mem_escapeText {escapes : Char → Bool} (none : escapeChars.any escapes = false)
    {text : List Char} {c : Char} (member : c ∈ escapeText escapes text) : Stands escapes c := by
  rcases mem_escapeText member with written | ⟨stands, -⟩
  · exact ⟨Bool.eq_false_iff.mpr (List.any_eq_false.mp none c written),
      ascii_of_mem_escapeChars written⟩
  · exact stands

/-! ### Undoing escapes -/

theorem unescape_cons {byte : UInt8} (other : byte ≠ 37) (rest : List UInt8) :
    unescape (byte :: rest) = byte :: unescape rest := by
  rw [unescape.eq_def]
  split
  · next equal => exact absurd (List.cons.inj equal).1 other
  · next equal => obtain ⟨rfl, rfl⟩ := List.cons.inj equal; rfl
  · next equal => simp at equal

theorem unescape_escapeByte (byte : UInt8) (rest : List UInt8) :
    unescape (encode (escapeByte byte) ++ rest) = byte :: unescape rest := by
  have small := byte.toNat_lt
  have ascii : ∀ c ∈ escapeByte byte, c.toNat < 0x80 := fun c member =>
    ascii_of_mem_escapeChars (mem_escapeByte member)
  have value : UInt8.ofNat (byte.toNat / 16) * 16 + UInt8.ofNat (byte.toNat % 16) = byte := by
    rw [← UInt8.toNat_inj, UInt8.toNat_add, UInt8.toNat_mul, Text.toNat_byte _ (by omega),
      Text.toNat_byte _ (by omega)]
    simp only [UInt8.reduceToNat]
    omega
  rw [Text.encode_ascii ascii]
  show unescape (37 :: _ :: _ :: rest) = _
  rw [unescape, hexOfByte_upperHex (by omega), hexOfByte_upperHex (by omega)]
  exact congrArg (· :: unescape rest) value

theorem unescape_escapeBytes (bytes rest : List UInt8) :
    unescape (encode (bytes.flatMap escapeByte) ++ rest) = bytes ++ unescape rest := by
  induction bytes with
  | nil => rfl
  | cons byte bytes inductionHypothesis =>
    rw [List.flatMap_cons, Text.encode_append, List.append_assoc, unescape_escapeByte,
      inductionHypothesis]
    rfl

/-- Where the percent sign is escaped, undoing the escapes gives the bytes of the text. -/
theorem unescape_escapeText {escapes : Char → Bool} (percent : escapes '%' = true)
    (text : List Char) : unescape (encode (escapeText escapes text)) = encode text := by
  induction text with
  | nil => rfl
  | cons c rest inductionHypothesis =>
    rw [escapeText, List.flatMap_cons, Text.encode_append, Text.encode_cons]
    by_cases stands : Stands escapes c
    · have other : UInt8.ofNat c.toNat ≠ 37 := by
        intro equal
        rw [← UInt8.toNat_inj, Text.toNat_byte _ (Nat.lt_trans stands.2 (by decide))] at equal
        have isPercent : c = '%' := by rw [← Char.ofNat_toNat c, equal]; rfl
        simp [isPercent ▸ stands.1] at percent
      rw [escapeChar_of_stands stands, Text.encode_cons, Text.charBytes_ascii stands.2]
      show unescape (_ :: encode (escapeText escapes rest)) = _
      rw [unescape_cons other, inductionHypothesis]
      rfl
    · rw [escapeChar_of_not_stands stands, unescape_escapeBytes]
      exact congrArg (charBytes c ++ ·) inductionHypothesis

end Metasearch.Url
