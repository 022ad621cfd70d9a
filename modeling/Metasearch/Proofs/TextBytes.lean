/-
This file settles that decoding the bytes of a text gives the text again. A character has one of
four forms, and each form is read back by itself whatever bytes follow, so the text is read back
character by character. Also here is what the bytes of a character outside ASCII cannot be: none
of them is the byte of a character of ASCII, so marks are found in bytes where they stand in the
text.
-/
import Metasearch.Text.Utf8

namespace Metasearch.Text

/-! ### The bytes of one character -/

theorem toNat_byte (value : Nat) (small : value < 0x100) : (UInt8.ofNat value).toNat = value :=
  UInt8.toNat_ofNat_of_lt' small

theorem charBytes_ascii {c : Char} (ascii : c.toNat < 0x80) :
    charBytes c = [UInt8.ofNat c.toNat] := by
  simp only [charBytes]
  rw [if_pos ascii]

/-- No byte of a character outside ASCII is one of a character of ASCII. -/
theorem le_of_mem_charBytes {c : Char} (beyond : 0x80 ≤ c.toNat) {byte : UInt8}
    (member : byte ∈ charBytes c) : 0x80 ≤ byte.toNat := by
  have valid : c.toNat < 0xD800 ∨ 0xDFFF < c.toNat ∧ c.toNat < 0x110000 := c.valid
  simp only [charBytes] at member
  rw [if_neg (by omega)] at member
  split at member
  · simp only [List.mem_cons, List.not_mem_nil, or_false] at member
    rcases member with rfl | rfl <;> rw [toNat_byte _ (by omega)] <;> omega
  · split at member <;> simp only [List.mem_cons, List.not_mem_nil, or_false] at member
    · rcases member with rfl | rfl | rfl <;> rw [toNat_byte _ (by omega)] <;> omega
    · rcases member with rfl | rfl | rfl | rfl <;> rw [toNat_byte _ (by omega)] <;> omega

theorem charBytes_ne_nil (c : Char) : charBytes c ≠ [] := by
  simp only [charBytes]
  split
  · simp
  · split
    · simp
    · split <;> simp

theorem encode_cons (c : Char) (rest : List Char) :
    encode (c :: rest) = charBytes c ++ encode rest :=
  List.flatMap_cons

theorem encode_append (left right : List Char) :
    encode (left ++ right) = encode left ++ encode right :=
  List.flatMap_append

/-- A text of ASCII has one byte for each character. -/
theorem encode_ascii {text : List Char} (ascii : ∀ c ∈ text, c.toNat < 0x80) :
    encode text = text.map fun c => UInt8.ofNat c.toNat := by
  induction text with
  | nil => rfl
  | cons c rest inductionHypothesis =>
    rw [List.forall_mem_cons] at ascii
    rw [encode_cons, charBytes_ascii ascii.1, inductionHypothesis ascii.2]
    rfl

/-! ### Reading each form back -/

theorem continues_byte {bits : Nat} (small : bits < 0x40) :
    continues (UInt8.ofNat (0x80 + bits)) = true := by
  have value := toNat_byte (0x80 + bits) (by omega)
  simp only [continues, Bool.and_eq_true, decide_eq_true_eq, UInt8.le_iff_toNat_le, value,
    UInt8.reduceToNat]
  omega

theorem secondOfThree_byte {lead bits : Nat} (high : lead < 0x10) (small : bits < 0x40)
    (needed : lead = 0 → 0x20 ≤ bits) (noSurrogate : lead = 0xD → bits < 0x20) :
    secondOfThree (UInt8.ofNat (0xE0 + lead)) (UInt8.ofNat (0x80 + bits)) = true := by
  have first := toNat_byte (0xE0 + lead) (by omega)
  have second := toNat_byte (0x80 + bits) (by omega)
  simp only [secondOfThree, continues, beq_iff_eq, ← UInt8.toNat_inj, UInt8.le_iff_toNat_le, first,
    second, UInt8.reduceToNat]
  split
  · simp only [Bool.and_eq_true, decide_eq_true_eq]
    omega
  · split <;> simp only [Bool.and_eq_true, decide_eq_true_eq] <;> omega

theorem secondOfFour_byte {lead bits : Nat} (high : lead < 5) (small : bits < 0x40)
    (needed : lead = 0 → 0x10 ≤ bits) (last : lead = 4 → bits < 0x10) :
    secondOfFour (UInt8.ofNat (0xF0 + lead)) (UInt8.ofNat (0x80 + bits)) = true := by
  have first := toNat_byte (0xF0 + lead) (by omega)
  have second := toNat_byte (0x80 + bits) (by omega)
  simp only [secondOfFour, continues, beq_iff_eq, ← UInt8.toNat_inj, UInt8.le_iff_toNat_le, first,
    second, UInt8.reduceToNat]
  split
  · simp only [Bool.and_eq_true, decide_eq_true_eq]
    omega
  · split <;> simp only [Bool.and_eq_true, decide_eq_true_eq] <;> omega

theorem decode_one {point : Nat} (small : point < 0x80) (rest : List UInt8) :
    decode (UInt8.ofNat point :: rest) = Char.ofNat point :: decode rest := by
  have first := toNat_byte point (by omega)
  rw [decode.eq_def]
  simp only [UInt8.lt_iff_toNat_lt, first, UInt8.reduceToNat]
  rw [if_pos (by omega)]

theorem decode_two {lead bits : Nat} (low : 2 ≤ lead) (high : lead < 0x20) (small : bits < 0x40)
    (rest : List UInt8) :
    decode (UInt8.ofNat (0xC0 + lead) :: UInt8.ofNat (0x80 + bits) :: rest) =
      Char.ofNat (lead * 0x40 + bits) :: decode rest := by
  have first := toNat_byte (0xC0 + lead) (by omega)
  have second := toNat_byte (0x80 + bits) (by omega)
  rw [decode.eq_def]
  simp only [continues_byte small, UInt8.lt_iff_toNat_lt, UInt8.le_iff_toNat_le, first, second,
    Bool.and_eq_true, decide_eq_true_eq, UInt8.reduceToNat, Nat.add_sub_cancel_left, if_true]
  rw [if_neg (by omega), if_pos (by omega)]

theorem decode_three {lead bits₁ bits₂ : Nat} (high : lead < 0x10) (small₁ : bits₁ < 0x40)
    (small₂ : bits₂ < 0x40) (needed : lead = 0 → 0x20 ≤ bits₁)
    (noSurrogate : lead = 0xD → bits₁ < 0x20) (rest : List UInt8) :
    decode (UInt8.ofNat (0xE0 + lead) :: UInt8.ofNat (0x80 + bits₁) ::
        UInt8.ofNat (0x80 + bits₂) :: rest) =
      Char.ofNat (lead * 0x1000 + bits₁ * 0x40 + bits₂) :: decode rest := by
  have first := toNat_byte (0xE0 + lead) (by omega)
  have second := toNat_byte (0x80 + bits₁) (by omega)
  have third := toNat_byte (0x80 + bits₂) (by omega)
  rw [decode.eq_def]
  simp only [secondOfThree_byte high small₁ needed noSurrogate, continues_byte small₂,
    UInt8.lt_iff_toNat_lt, UInt8.le_iff_toNat_le, first, second, third,
    Bool.and_eq_true, decide_eq_true_eq, UInt8.reduceToNat, Nat.add_sub_cancel_left, if_true]
  rw [if_neg (by omega), if_neg (by omega), if_pos (by omega)]

theorem decode_four {lead bits₁ bits₂ bits₃ : Nat} (high : lead < 5) (small₁ : bits₁ < 0x40)
    (small₂ : bits₂ < 0x40) (small₃ : bits₃ < 0x40) (needed : lead = 0 → 0x10 ≤ bits₁)
    (last : lead = 4 → bits₁ < 0x10) (rest : List UInt8) :
    decode (UInt8.ofNat (0xF0 + lead) :: UInt8.ofNat (0x80 + bits₁) ::
        UInt8.ofNat (0x80 + bits₂) :: UInt8.ofNat (0x80 + bits₃) :: rest) =
      Char.ofNat (lead * 0x40000 + bits₁ * 0x1000 + bits₂ * 0x40 + bits₃) :: decode rest := by
  have first := toNat_byte (0xF0 + lead) (by omega)
  have second := toNat_byte (0x80 + bits₁) (by omega)
  have third := toNat_byte (0x80 + bits₂) (by omega)
  have fourth := toNat_byte (0x80 + bits₃) (by omega)
  rw [decode.eq_def]
  simp only [secondOfFour_byte high small₁ needed last, continues_byte small₂,
    continues_byte small₃, UInt8.lt_iff_toNat_lt, UInt8.le_iff_toNat_le, first, second, third,
    fourth, Bool.and_eq_true, decide_eq_true_eq, UInt8.reduceToNat, Nat.add_sub_cancel_left,
    if_true]
  rw [if_neg (by omega), if_neg (by omega), if_neg (by omega), if_pos (by omega)]

/-! ### Reading a text back -/

/-- A character is read back whatever follows it. What keeps the second byte in its range is that
the form is the shortest and that no character is a surrogate. -/
theorem decode_charBytes (c : Char) (rest : List UInt8) :
    decode (charBytes c ++ rest) = c :: decode rest := by
  have valid : c.toNat < 0xD800 ∨ 0xDFFF < c.toNat ∧ c.toNat < 0x110000 := c.valid
  have same : Char.ofNat c.toNat = c := Char.ofNat_toNat c
  simp only [charBytes]
  split
  · next one => exact (decode_one one rest).trans (by rw [same])
  · split
    · next two =>
      refine (decode_two (by omega) (by omega) (by omega) rest).trans ?_
      rw [show c.toNat / 0x40 * 0x40 + c.toNat % 0x40 = c.toNat by omega, same]
    · split
      · next three =>
        refine (decode_three (by omega) (by omega) (by omega) (by omega) (by omega) rest).trans ?_
        rw [show c.toNat / 0x1000 * 0x1000 + c.toNat / 0x40 % 0x40 * 0x40 + c.toNat % 0x40 =
          c.toNat by omega, same]
      · next four =>
        refine (decode_four (by omega) (by omega) (by omega) (by omega) (by omega) (by omega)
          rest).trans ?_
        rw [show c.toNat / 0x40000 * 0x40000 + c.toNat / 0x1000 % 0x40 * 0x1000 +
          c.toNat / 0x40 % 0x40 * 0x40 + c.toNat % 0x40 = c.toNat by omega, same]

/-- Decoding the bytes of a text gives the text. -/
theorem decode_encode (text : List Char) : decode (encode text) = text := by
  induction text with
  | nil => simp [encode, decode]
  | cons c rest inductionHypothesis =>
    rw [encode_cons, decode_charBytes, inductionHypothesis]

end Metasearch.Text
