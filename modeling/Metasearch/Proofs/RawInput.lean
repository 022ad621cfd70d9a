/-
This file settles what a raw input is read as. Pairs that were written as a query are read back,
and a query is refused exactly if it has a percent sign that two hexadecimal digits do not follow;
what the refusal shows starts at the first such percent sign. The reader looks among characters.
That it finds what there is among the bytes holds because no byte of a character outside ASCII is
a percent sign or a digit.
-/
import Metasearch.Indexer.Search
import Metasearch.Proofs.QueryPairs

namespace Metasearch.Indexer

open Text (charBytes encode decode hexDigitValue?)
open Url

/-! ### Loose percent signs -/

/-- A byte is a hexadecimal digit of ASCII. -/
def isHexByte (byte : UInt8) : Bool :=
  (encode "0123456789ABCDEFabcdef".toList).contains byte

/-- The byte at a place is a percent sign that two hexadecimal digits do not follow. -/
def IsLoose (bytes : List UInt8) (place : Nat) : Prop :=
  bytes[place]? = some 37 ∧
    ¬∃ first second, bytes[place + 1]? = some first ∧ bytes[place + 2]? = some second ∧
      isHexByte first = true ∧ isHexByte second = true

/-- The first place of a loose percent sign. -/
def IsFirstLoose (bytes : List UInt8) (place : Nat) : Prop :=
  IsLoose bytes place ∧ ∀ earlier < place, ¬IsLoose bytes earlier

/-- What a search for a loose percent sign in a text has to find: nothing if there is none, and
else the text from the first one on. -/
def Finds (text : List Char) : Option (List Char) → Prop
  | none => ∀ place, ¬IsLoose (encode text) place
  | some rest =>
    ∃ place, IsFirstLoose (encode text) place ∧ (encode text).drop place = encode rest

theorem isLoose_append (before rest : List UInt8) (place : Nat) :
    IsLoose (before ++ rest) (before.length + place) ↔ IsLoose rest place := by
  have shifted : ∀ behind, (before ++ rest)[before.length + behind]? = rest[behind]? := by
    intro behind
    rw [List.getElem?_append_right (Nat.le_add_right _ _), Nat.add_sub_cancel_left]
  rw [IsLoose, IsLoose, Nat.add_assoc, Nat.add_assoc, shifted, shifted, shifted]

/-- What is found behind a text without loose percent signs is what is found in the whole. -/
theorem finds_append (before : List Char) {rest : List Char} {result : Option (List Char)}
    (quiet : ∀ place < (encode before).length, ¬IsLoose (encode before ++ encode rest) place)
    (found : Finds rest result) : Finds (before ++ rest) result := by
  have inRest : ∀ place, ¬place < (encode before).length →
      IsLoose (encode before ++ encode rest) place →
        IsLoose (encode rest) (place - (encode before).length) := by
    intro place beyond loose
    rw [← isLoose_append (encode before), Nat.add_sub_cancel' (Nat.not_lt.mp beyond)]
    exact loose
  cases result with
  | none =>
    intro place loose
    rw [Text.encode_append] at loose
    by_cases early : place < (encode before).length
    · exact quiet place early loose
    · exact found _ (inRest place early loose)
  | some text =>
    obtain ⟨place, ⟨loose, first⟩, suffix⟩ := found
    refine ⟨(encode before).length + place, ⟨?_, ?_⟩, ?_⟩
    · rw [Text.encode_append, isLoose_append]
      exact loose
    · intro earlier isEarlier
      rw [Text.encode_append]
      intro looseEarlier
      by_cases early : earlier < (encode before).length
      · exact quiet earlier early looseEarlier
      · exact first _ (by omega) (inRest earlier early looseEarlier)
    · rw [Text.encode_append, List.drop_append, List.drop_of_length_le (Nat.le_add_right _ _),
        Nat.add_sub_cancel_left, suffix]
      rfl

/-! ### Characters and their bytes -/

theorem isHexByte_ascii {c : Char} (ascii : c.toNat < 0x80) :
    isHexByte (UInt8.ofNat c.toNat) = (hexDigitValue? c).isSome := by
  have every : ∀ c ∈ Text.asciiChars,
      isHexByte (UInt8.ofNat c.toNat) = (hexDigitValue? c).isSome :=
    Text.forall_of_all (by decide)
  exact every c (Text.mem_asciiChars ascii)

theorem small_of_isHexByte {byte : UInt8} (digit : isHexByte byte = true) :
    byte.toNat < 0x80 ∧ byte ≠ 37 := by
  have digits : ∀ byte ∈ encode "0123456789ABCDEFabcdef".toList,
      byte.toNat < 0x80 ∧ byte ≠ 37 := Text.forall_of_all (by decide)
  exact digits byte (List.contains_iff_mem.mp digit)

/-- The first byte of a character is a digit exactly if the character is, and it is then the only
byte of the character. -/
theorem charBytes_digit (c : Char) : ∃ byte tail, charBytes c = byte :: tail ∧
    isHexByte byte = (hexDigitValue? c).isSome ∧ (isHexByte byte = true → tail = []) := by
  by_cases ascii : c.toNat < 0x80
  · exact ⟨_, [], Text.charBytes_ascii ascii, isHexByte_ascii ascii, fun _ => rfl⟩
  · cases bytes : charBytes c with
    | nil => exact absurd bytes (Text.charBytes_ne_nil c)
    | cons byte tail =>
      have large := Text.le_of_mem_charBytes (Nat.not_lt.mp ascii) (bytes ▸ List.mem_cons_self)
      have noByte : isHexByte byte = false :=
        Bool.eq_false_iff.mpr fun digit => Nat.not_le.mpr (small_of_isHexByte digit).1 large
      have noDigit : (hexDigitValue? c).isSome = false :=
        Bool.eq_false_iff.mpr fun digit => ascii (Text.ascii_of_hexDigitValue digit)
      exact ⟨byte, tail, rfl, noByte.trans noDigit.symm, fun digit => by simp [noByte] at digit⟩

/-- Only the percent sign has its byte. -/
theorem percent_of_mem_charBytes {c : Char} (member : 37 ∈ charBytes c) : c = '%' := by
  by_cases ascii : c.toNat < 0x80
  · rw [Text.charBytes_ascii ascii, List.mem_singleton, ← UInt8.toNat_inj,
      Text.toNat_byte _ (by omega)] at member
    rw [← Char.ofNat_toNat c, ← member]
    rfl
  · exact absurd (Text.le_of_mem_charBytes (Nat.not_lt.mp ascii) member) (by decide)

/-! ### The search -/

/-- A character that is no percent sign is passed over. -/
theorem finds_cons {c : Char} (other : c ≠ '%') {rest : List Char} {result : Option (List Char)}
    (found : Finds rest result) : Finds (c :: rest) result := by
  refine finds_append [c] ?_ found
  intro place inside loose
  have isPercent := loose.1
  rw [List.getElem?_append_left inside, Text.encode_cons] at isPercent
  have member := List.mem_of_getElem? isPercent
  rw [show encode [] = [] from rfl, List.append_nil] at member
  exact other (percent_of_mem_charBytes member)

/-- An escape is passed over: its percent sign is not loose, and its digits are no percent
signs. -/
theorem finds_escape {first second : Char} (high : (hexDigitValue? first).isSome = true)
    (low : (hexDigitValue? second).isSome = true) {rest : List Char}
    {result : Option (List Char)} (found : Finds rest result) :
    Finds ('%' :: first :: second :: rest) result := by
  obtain ⟨highByte, tail, highBytes, isHigh, highAlone⟩ := charBytes_digit first
  obtain ⟨lowByte, tail', lowBytes, isLow, lowAlone⟩ := charBytes_digit second
  rw [high] at isHigh
  rw [low] at isLow
  obtain rfl := highAlone isHigh
  obtain rfl := lowAlone isLow
  have bytes : encode ['%', first, second] = [37, highByte, lowByte] := by
    rw [Text.encode_cons, Text.encode_cons, Text.encode_cons, highBytes, lowBytes]
    rfl
  refine finds_append ['%', first, second] ?_ found
  rw [bytes]
  intro place inside loose
  match place, inside with
  | 0, _ => exact loose.2 ⟨highByte, lowByte, rfl, rfl, isHigh, isLow⟩
  | 1, _ => exact (small_of_isHexByte isHigh).2 (Option.some.inj loose.1)
  | 2, _ => exact (small_of_isHexByte isLow).2 (Option.some.inj loose.1)

/-- A percent sign that starts no escape is found. -/
theorem finds_percent {rest : List Char}
    (loose : ∀ first second tail, rest = first :: second :: tail →
      ¬((hexDigitValue? first).isSome = true ∧ (hexDigitValue? second).isSome = true)) :
    Finds ('%' :: rest) (some ('%' :: rest)) := by
  refine ⟨0, ⟨⟨rfl, ?_⟩, fun earlier isEarlier => absurd isEarlier (Nat.not_lt_zero _)⟩, rfl⟩
  rintro ⟨highByte, lowByte, highPlace, lowPlace, isHigh, isLow⟩
  have percent : encode ('%' :: rest) = 37 :: encode rest := rfl
  rw [percent] at highPlace lowPlace
  simp only [List.getElem?_cons_succ] at highPlace lowPlace
  cases rest with
  | nil => simp [encode] at highPlace
  | cons first rest =>
    obtain ⟨byte, tail, bytes, digit, alone⟩ := charBytes_digit first
    rw [Text.encode_cons, bytes] at highPlace lowPlace
    obtain rfl : byte = highByte := Option.some.inj highPlace
    obtain rfl := alone isHigh
    simp only [List.cons_append, List.nil_append, List.getElem?_cons_succ] at lowPlace
    cases rest with
    | nil => simp [encode] at lowPlace
    | cons second rest =>
      obtain ⟨byte', tail, bytes', digit', -⟩ := charBytes_digit second
      rw [Text.encode_cons, bytes'] at lowPlace
      obtain rfl : byte' = lowByte := Option.some.inj lowPlace
      exact loose first second rest rfl ⟨digit ▸ isHigh, digit' ▸ isLow⟩

/-- The search among characters finds the first loose percent sign among the bytes. -/
theorem finds_badEscape (text : List Char) : Finds text (badEscape? text) := by
  fun_induction badEscape? text with
  | case1 first second rest digits inductionHypothesis =>
    rw [Bool.and_eq_true] at digits
    exact finds_escape digits.1 digits.2 inductionHypothesis
  | case2 first second rest digits =>
    refine finds_percent fun first' second' tail equal both => digits ?_
    obtain ⟨rfl, rest⟩ := List.cons.inj equal
    obtain ⟨rfl, -⟩ := List.cons.inj rest
    rw [Bool.and_eq_true]
    exact both
  | case3 rest short =>
    exact finds_percent fun first second tail equal => absurd equal (short first second tail)
  | case4 c rest _ other inductionHypothesis => exact finds_cons other inductionHypothesis
  | case5 => exact fun place loose => by simp [IsLoose, encode] at loose

/-! ### Written pairs -/

theorem badEscape_cons {c : Char} (other : c ≠ '%') (rest : List Char) :
    badEscape? (c :: rest) = badEscape? rest :=
  badEscape?.eq_3 c rest (fun _ _ _ percent => absurd percent other) other

theorem hexDigitValue_upperHex {value : Nat} (small : value < 16) :
    (hexDigitValue? (upperHex value)).isSome = true := by
  have every : ∀ digit : Fin 16, (hexDigitValue? (upperHex digit)).isSome = true := by decide
  exact every ⟨value, small⟩

theorem badEscape_escapeBytes (bytes : List UInt8) (rest : List Char) :
    badEscape? (bytes.flatMap escapeByte ++ rest) = badEscape? rest := by
  induction bytes with
  | nil => rfl
  | cons byte bytes inductionHypothesis =>
    have small := byte.toNat_lt
    have digits : ((hexDigitValue? (upperHex (byte.toNat / 16))).isSome &&
        (hexDigitValue? (upperHex (byte.toNat % 16))).isSome) = true := by
      rw [hexDigitValue_upperHex (by omega), hexDigitValue_upperHex (by omega)]
      rfl
    rw [List.flatMap_cons, List.append_assoc]
    show badEscape? ('%' :: _ :: _ :: (bytes.flatMap escapeByte ++ rest)) = _
    rw [badEscape?, if_pos digits, inductionHypothesis]

/-- A written part has no loose percent sign in it. -/
theorem badEscape_escapePart (text : String) (rest : List Char) :
    badEscape? (escapePart text ++ rest) = badEscape? rest := by
  rw [escapePart]
  induction text.toList with
  | nil => rfl
  | cons c tail inductionHypothesis =>
    rw [escapeText, List.flatMap_cons, List.append_assoc]
    by_cases stands : Stands escapedInPair c
    · have other : c ≠ '%' := by
        rintro rfl
        exact absurd stands.1 (by decide)
      rw [escapeChar_of_stands stands, List.singleton_append, badEscape_cons other]
      exact inductionHypothesis
    · rw [escapeChar_of_not_stands stands, badEscape_escapeBytes]
      exact inductionHypothesis

theorem badEscape_writePair (pair : String × String) (rest : List Char) :
    badEscape? (writePair pair ++ rest) = badEscape? rest := by
  rw [writePair, List.append_assoc, badEscape_escapePart, List.cons_append,
    badEscape_cons (by decide), badEscape_escapePart]

theorem badEscape_writePairs (pairs : List (String × String)) :
    badEscape? (['&'].intercalate (pairs.map writePair)) = none := by
  induction pairs with
  | nil => rfl
  | cons pair rest inductionHypothesis =>
    cases rest with
    | nil =>
      rw [List.map_singleton, List.intercalate_singleton, ← List.append_nil (writePair pair),
        badEscape_writePair]
      rfl
    | cons next rest =>
      rw [List.map_cons, List.map_cons, List.intercalate_cons_cons, List.append_assoc,
        badEscape_writePair, List.singleton_append, badEscape_cons (by decide)]
      exact inductionHypothesis

/-! ### The raw input -/

theorem readRawInput_of_none {input : String} (none : badEscape? input.toList = none) :
    readRawInput input = .ok (readPairs input) := by
  rw [readRawInput, Url.readStrictly, none]
  rfl

theorem readRawInput_of_some {input : String} {rest : List Char}
    (some : badEscape? input.toList = some rest) :
    readRawInput input =
      .error (.badRawInput input (String.ofList (decode ((encode rest).take 3)))) := by
  rw [readRawInput, Url.readStrictly, some]
  rfl

/-- Pairs that were written as a query are read back, in their order. An input is refused exactly
if there is a loose percent sign among its bytes, for the three bytes, or fewer at its end, from
the first one on; every other input is read as a query. -/
theorem readRawInput_decided (pairs : List (String × String)) (input : String) :
    readRawInput (writePairs pairs) = .ok pairs ∧
    ((∃ escape, readRawInput input = .error (.badRawInput input escape)) ↔
      ∃ place, IsLoose (encode input.toList) place) ∧
    (∀ place, IsFirstLoose (encode input.toList) place →
      readRawInput input = .error (.badRawInput input
        (String.ofList (decode (((encode input.toList).drop place).take 3))))) ∧
    ((¬∃ place, IsLoose (encode input.toList) place) →
      readRawInput input = .ok (readPairs input)) := by
  have found := finds_badEscape input.toList
  refine ⟨?_, ?_⟩
  · rw [readRawInput_of_none, readPairs_writePairs]
    rw [writePairs, String.toList_ofList]
    exact badEscape_writePairs pairs
  · cases outcome : badEscape? input.toList with
    | none =>
      rw [outcome] at found
      refine ⟨⟨?_, ?_⟩, ?_, fun _ => readRawInput_of_none outcome⟩
      · rintro ⟨escape, refused⟩
        rw [readRawInput_of_none outcome] at refused
        exact absurd refused (by simp)
      · rintro ⟨place, loose⟩
        exact absurd loose (found place)
      · exact fun place first => absurd first.1 (found place)
    | some rest =>
      rw [outcome] at found
      obtain ⟨place, ⟨loose, first⟩, suffix⟩ := found
      have refused := readRawInput_of_some outcome
      refine ⟨⟨fun _ => ⟨place, loose⟩, fun _ => ⟨_, refused⟩⟩, ?_, ?_⟩
      · rintro place' ⟨loose', first'⟩
        have same : place' = place := by
          refine Nat.le_antisymm ?_ ?_
          · exact Nat.not_lt.mp fun before => first' place before loose
          · exact Nat.not_lt.mp fun before => first place' before loose'
        rw [same, suffix]
        exact refused
      · exact fun noLoose => absurd ⟨place, loose⟩ noLoose

end Metasearch.Indexer
