/-
This file settles that an address of eight pieces is read back from its text, hexadecimal numbers
with colons between and the longest run of zeros left out. Reading the pieces keeps what was read
so far backwards, so what is proved goes over the pieces in front of the gap and behind it,
whatever was read before. Whatever is read as such an address has eight pieces of two bytes.
-/
import Metasearch.Proofs.FourBytes

namespace Metasearch.Url

open Text (hexDigits hexDigitValue?)

/-! ### Pieces -/

/-- A piece fits in two bytes. -/
def IsPiece (piece : Nat) : Prop :=
  piece < 0x10000

theorem hexDigits_ne_nil (piece : Nat) : hexDigits piece ≠ [] :=
  Nat.toDigits_ne_nil

theorem length_hexDigits {piece : Nat} (fits : IsPiece piece) : (hexDigits piece).length ≤ 4 :=
  (Nat.length_toDigits_le_iff (by decide) (by decide)).mpr fits

theorem isHex_of_mem_hexDigits {number : Nat} {c : Char} (member : c ∈ hexDigits number) :
    (hexDigitValue? c).isSome = true := by
  rw [hexDigits] at member
  induction number using Nat.strongRecOn with
  | ind number inductionHypothesis =>
    by_cases single : number < 16
    · rw [Nat.toDigits_of_lt_base single, List.mem_singleton] at member
      rw [member, hexDigitValue_digitChar single]
      rfl
    · have shorter : number / 16 < number := Nat.div_lt_self (by omega) (by decide)
      rw [Nat.toDigits_of_base_le (by decide) (Nat.not_lt.mp single), List.mem_append,
        List.mem_singleton] at member
      rcases member with front | last
      · exact inductionHypothesis _ shorter front
      · rw [last, hexDigitValue_digitChar (Nat.mod_lt _ (by decide))]
        rfl

/-- What follows a piece: nothing, or a character that is no digit. -/
def EndsPiece (rest : List Char) : Prop :=
  ∀ c ∈ rest.head?, (hexDigitValue? c).isSome = false

theorem readPiece_hexDigits {piece : Nat} (fits : IsPiece piece) {rest : List Char}
    (ends : EndsPiece rest) :
    readPiece (hexDigits piece ++ rest) = (piece, (hexDigits piece).length, rest) := by
  have digits : ((hexDigits piece ++ rest).take 4).takeWhile
      (fun c => (hexDigitValue? c).isSome) = hexDigits piece := by
    rw [List.take_append, List.take_of_length_le (length_hexDigits fits),
      List.takeWhile_append_of_pos fun c member => isHex_of_mem_hexDigits member]
    cases rest with
    | nil => simp
    | cons c rest =>
      have noDigit := ends c rfl
      cases 4 - (hexDigits piece).length with
      | zero => simp
      | succ count =>
        rw [List.take_succ_cons, List.takeWhile_cons_of_neg (by simp [noDigit]), List.append_nil]
  have value : numberIn? 16 (hexDigits piece) = some piece :=
    numberIn_toDigits (by decide) (by decide) piece
  rw [readPiece, digits, value, List.drop_left]
  rfl

/-- What is read as a piece fits in two bytes. -/
theorem isPiece_readPiece (text : List Char) : IsPiece (readPiece text).1 := by
  have short : ((text.take 4).takeWhile fun c => (hexDigitValue? c).isSome).length ≤ 4 :=
    Nat.le_trans (List.takeWhile_sublist _).length_le (List.length_take_le _ _)
  rw [readPiece, IsPiece]
  cases read : numberIn? 16 ((text.take 4).takeWhile fun c => (hexDigitValue? c).isSome) with
  | none => exact (by decide : 0 < 0x10000)
  | some number =>
    calc number < 16 ^ _ := numberIn_lt read
      _ ≤ 16 ^ 4 := Nat.pow_le_pow_right (by decide) short

/-! ### Reading pieces -/

theorem hexDigits_cons (piece : Nat) :
    ∃ first rest, hexDigits piece = first :: rest ∧ first ≠ ':' := by
  obtain ⟨first, rest, digits⟩ := List.exists_cons_of_ne_nil (hexDigits_ne_nil piece)
  refine ⟨first, rest, digits, ?_⟩
  rintro rfl
  exact absurd (isHex_of_mem_hexDigits (digits ▸ List.mem_cons_self)) (by decide)

variable {fuel piece : Nat} {pieces done : List Nat} {gap : Option Nat}

theorem places_ne_eight (room : done.length + gap.toList.length < 8) :
    (done.length + gap.toList.length == 8) = false :=
  beq_eq_false_iff_ne.mpr (Nat.ne_of_lt room)

/-- A piece with more behind it is put to those read before. -/
theorem readPieces_more (fits : IsPiece piece) {rest : List Char} (more : rest ≠ [])
    (room : done.length + gap.toList.length < 8) :
    readPieces (fuel + 1) (hexDigits piece ++ ':' :: rest) done gap =
      readPieces fuel rest (piece :: done) gap := by
  have ends : EndsPiece (':' :: rest) := by
    intro c isHead
    obtain rfl := Option.some.inj isHead
    decide
  have read := readPiece_hexDigits fits ends
  obtain ⟨first, digits, cons, other⟩ := hexDigits_cons piece
  obtain ⟨next, rest, rfl⟩ := List.exists_cons_of_ne_nil more
  rw [cons, List.cons_append, List.length_cons] at read
  rw [cons, List.cons_append, readPieces]
  · simp only [places_ne_eight room, read, Bool.false_eq_true, if_false]
  · simp
  · simpa using other

/-- The last piece ends the address. -/
theorem readPieces_last (fits : IsPiece piece) (room : done.length + gap.toList.length < 8) :
    readPieces (fuel + 1) (hexDigits piece) done gap = some (piece :: done, gap) := by
  have ends : EndsPiece [] := fun c isHead => absurd isHead (by simp)
  have read := readPiece_hexDigits fits ends
  obtain ⟨first, digits, cons, other⟩ := hexDigits_cons piece
  rw [List.append_nil, cons, List.length_cons] at read
  rw [cons, readPieces]
  · simp only [places_ne_eight room, read, Bool.false_eq_true, if_false]
  · simp
  · simpa using other

/-- The gap stands behind the pieces read so far. -/
theorem readPieces_gap (rest : List Char) (room : done.length < 8) :
    readPieces (fuel + 1) (':' :: rest) done none =
      readPieces fuel rest done (some done.length) := by
  have noGap : done.length + (none : Option Nat).toList.length < 8 := room
  rw [readPieces]
  simp only [places_ne_eight noGap, Option.isSome_none, Bool.or_self, Bool.false_eq_true, if_false]

theorem writePieces_cons_cons (first second : Nat) (rest : List Nat) :
    writePieces (first :: second :: rest) =
      hexDigits first ++ ':' :: writePieces (second :: rest) := by
  rw [writePieces, List.map_cons, List.map_cons, List.intercalate_cons_cons, List.append_assoc]
  rfl

theorem writePieces_single (piece : Nat) : writePieces [piece] = hexDigits piece :=
  List.intercalate_singleton

theorem writePieces_ne_nil (first : Nat) (rest : List Nat) : writePieces (first :: rest) ≠ [] := by
  cases rest with
  | nil =>
    rw [writePieces_single]
    exact hexDigits_ne_nil first
  | cons second rest =>
    rw [writePieces_cons_cons]
    simp

/-- Pieces up to the end are read one after the other. -/
theorem readPieces_writePieces (fits : ∀ piece ∈ pieces, IsPiece piece)
    (room : done.length + gap.toList.length + pieces.length ≤ 8) (enough : pieces.length < fuel) :
    readPieces fuel (writePieces pieces) done gap = some (pieces.reverse ++ done, gap) := by
  induction pieces generalizing fuel done with
  | nil =>
    obtain ⟨fuel, rfl⟩ := Nat.exists_eq_succ_of_ne_zero (Nat.ne_of_gt enough)
    rfl
  | cons first rest inductionHypothesis =>
    obtain ⟨fuel, rfl⟩ := Nat.exists_eq_succ_of_ne_zero (Nat.ne_of_gt (Nat.zero_lt_of_lt enough))
    rw [List.forall_mem_cons] at fits
    rw [List.length_cons] at room enough
    cases rest with
    | nil =>
      rw [writePieces_single, readPieces_last fits.1 (by omega)]
      rfl
    | cons second rest =>
      have roomLater :
          (first :: done).length + gap.toList.length + (second :: rest).length ≤ 8 := by
        rw [List.length_cons]
        omega
      rw [writePieces_cons_cons, readPieces_more fits.1 (writePieces_ne_nil _ _) (by omega),
        inductionHypothesis fits.2 roomLater (by omega), List.reverse_cons (a := first),
        List.append_assoc]
      rfl

/-- Pieces in front of a gap are read, and the gap is where they end. -/
theorem readPieces_front (present : pieces ≠ []) (fits : ∀ piece ∈ pieces, IsPiece piece)
    (room : done.length + pieces.length < 8) (tail : List Char) :
    readPieces (fuel + pieces.length + 1) (writePieces pieces ++ ':' :: ':' :: tail) done none =
      readPieces fuel tail (pieces.reverse ++ done) (some (done.length + pieces.length)) := by
  induction pieces generalizing done with
  | nil => exact absurd rfl present
  | cons first rest inductionHypothesis =>
    rw [List.forall_mem_cons] at fits
    rw [List.length_cons] at room
    have roomHere : done.length + (none : Option Nat).toList.length < 8 := by
      show done.length + 0 < 8
      omega
    cases rest with
    | nil =>
      rw [writePieces_single, readPieces_more fits.1 (by simp) roomHere, List.length_singleton,
        readPieces_gap _ (by rw [List.length_cons]; omega), List.length_cons]
      rfl
    | cons second rest =>
      have roomLater : (first :: done).length + (second :: rest).length < 8 := by
        rw [List.length_cons]
        omega
      rw [writePieces_cons_cons, List.append_assoc, List.cons_append,
        readPieces_more fits.1 (by simp) roomHere]
      have later := inductionHypothesis (by simp) fits.2 roomLater
      rw [List.reverse_cons (a := first), List.append_assoc]
      refine later.trans ?_
      rw [List.length_cons (a := first), List.length_cons (a := first)]
      congr 2
      omega

/-! ### Eight pieces -/

/-- The run that is found is one of zeros. -/
theorem zeroRun_spec (from' : Nat) (pieces : List Nat) :
    (zeroRun from' pieces).2 = 0 ∨ ∃ front back,
      pieces = front ++ List.replicate (zeroRun from' pieces).2 0 ++ back ∧
        (zeroRun from' pieces).1 = from' + front.length := by
  induction pieces generalizing from' with
  | nil => exact .inl rfl
  | cons piece rest inductionHypothesis =>
    simp only [zeroRun]
    split
    · refine .inr ⟨[], (piece :: rest).dropWhile (· == 0), ?_, rfl⟩
      have zeros : (piece :: rest).takeWhile (· == 0) =
          List.replicate ((piece :: rest).takeWhile (· == 0)).length 0 :=
        List.eq_replicate_of_mem fun piece member =>
          eq_of_beq (List.all_eq_true.mp List.all_takeWhile piece member)
      rw [List.nil_append, ← zeros, List.takeWhile_append_dropWhile]
    · refine (inductionHypothesis (from' + 1)).imp_right ?_
      rintro ⟨front, back, parts, start⟩
      refine ⟨piece :: front, back, congrArg (piece :: ·) parts, ?_⟩
      rw [start, List.length_cons]
      omega

/-- Eight pieces, each of which fits in two bytes. -/
def AreEight (pieces : List Nat) : Prop :=
  pieces.length = 8 ∧ ∀ piece ∈ pieces, IsPiece piece

/-- A text that starts with a piece has no gap in front. -/
theorem readSix_writePieces (first : Nat) (rest : List Nat) (tail : List Char) :
    readSix? (writePieces (first :: rest) ++ tail) =
      (readPieces ((writePieces (first :: rest) ++ tail).length + 1)
        (writePieces (first :: rest) ++ tail) [] none).bind fun read => fillGap? read.1 read.2 := by
  obtain ⟨digit, text, head, other⟩ : ∃ digit text,
      writePieces (first :: rest) ++ tail = digit :: text ∧ digit ≠ ':' := by
    obtain ⟨digit, digits, cons, other⟩ := hexDigits_cons first
    cases rest with
    | nil => exact ⟨digit, digits ++ tail, by rw [writePieces_single, cons]; rfl, other⟩
    | cons second rest =>
      refine ⟨digit, digits ++ ':' :: (writePieces (second :: rest) ++ tail), ?_, other⟩
      rw [writePieces_cons_cons, cons, List.append_assoc]
      rfl
  rw [head, readSix?]
  · rfl
  · exact fun rest equal => other (List.cons.inj equal).1
  · exact fun rest equal => other (List.cons.inj equal).1

theorem length_le_writePieces (pieces : List Nat) :
    pieces.length ≤ (writePieces pieces).length := by
  induction pieces with
  | nil => exact Nat.zero_le _
  | cons first rest inductionHypothesis =>
    cases rest with
    | nil =>
      rw [writePieces_single]
      exact List.length_pos_iff.mpr (hexDigits_ne_nil first)
    | cons second rest =>
      rw [writePieces_cons_cons, List.length_append, List.length_cons]
      rw [List.length_cons] at inductionHypothesis ⊢
      rw [List.length_cons]
      omega

/-- A gap is filled with the zeros that were left out. -/
theorem fillGap_of_zeros {front back : List Nat} {zeros : Nat}
    (count : front.length + zeros + back.length = 8) :
    fillGap? (back.reverse ++ front.reverse) (some front.length) =
      some (front ++ List.replicate zeros 0 ++ back) := by
  have missing : 8 - (front ++ back).length = zeros := by
    rw [List.length_append]
    omega
  rw [fillGap?, List.reverse_append, List.reverse_reverse, List.reverse_reverse]
  simp only [missing, List.take_left, List.drop_left]

theorem readSix_all {pieces : List Nat} (count : pieces.length = 8)
    (fits : ∀ piece ∈ pieces, IsPiece piece) : readSix? (writePieces pieces) = some pieces := by
  have enough := length_le_writePieces pieces
  obtain ⟨first, rest, rfl⟩ := List.exists_cons_of_length_eq_add_one count
  have read := readSix_writePieces first rest []
  rw [List.append_nil] at read
  rw [read, readPieces_writePieces fits (Nat.le_of_eq (by simpa using count)) (by omega),
    Option.bind_some, List.append_nil, fillGap?]
  simp only [List.reverse_reverse, count, beq_self_eq_true, if_true]

theorem readSix_gap {front back : List Nat} {zeros : Nat} (left : 0 < zeros)
    (count : front.length + zeros + back.length = 8) (fits : ∀ piece ∈ front, IsPiece piece)
    (fits' : ∀ piece ∈ back, IsPiece piece) :
    readSix? (writePieces front ++ [':', ':'] ++ writePieces back) =
      some (front ++ List.replicate zeros 0 ++ back) := by
  have enough := length_le_writePieces front
  have enough' := length_le_writePieces back
  rw [List.append_assoc]
  cases front with
  | nil =>
    have read : readPieces ((':' :: ':' :: writePieces back).length + 1) (writePieces back) []
        (some 0) = some (back.reverse ++ [], some 0) :=
      readPieces_writePieces fits' (by simp at count ⊢; omega) (by simp; omega)
    show readSix? (':' :: ':' :: writePieces back) = _
    rw [readSix?, read]
    exact fillGap_of_zeros (show ([] : List Nat).length + zeros + back.length = 8 from count)
  | cons first rest =>
    have length : (writePieces (first :: rest) ++ ([':', ':'] ++ writePieces back)).length + 1 =
        (writePieces (first :: rest)).length - (first :: rest).length + 2 +
          (writePieces back).length + (first :: rest).length + 1 := by
      rw [List.length_append, List.length_append, List.length_cons (a := ':'),
        List.length_singleton]
      omega
    have room : ([] : List Nat).length + (first :: rest).length < 8 := by
      rw [List.length_nil]
      omega
    have behind : ((first :: rest).reverse ++ []).length +
        (some (([] : List Nat).length + (first :: rest).length)).toList.length +
          back.length ≤ 8 := by
      rw [List.append_nil, List.length_reverse, Option.toList_some, List.length_singleton]
      omega
    have zero : ([] : List Nat).length + (first :: rest).length = (first :: rest).length :=
      Nat.zero_add _
    rw [readSix_writePieces, length, List.cons_append, List.singleton_append,
      readPieces_front (by simp) fits room, readPieces_writePieces fits' behind (by omega),
      Option.bind_some, List.append_nil, zero]
    exact fillGap_of_zeros count

/-- An address of eight pieces is read back. -/
theorem readSix_writeSix {pieces : List Nat} (eight : AreEight pieces) :
    readSix? (writeSix pieces) = some pieces := by
  obtain ⟨count, fits⟩ := eight
  have isRun := zeroRun_spec 0 pieces
  rw [writeSix]
  generalize zeroRun 0 pieces = run at isRun
  obtain ⟨start, length⟩ := run
  dsimp only at isRun ⊢
  by_cases short : length < 2
  · rw [if_pos short]
    exact readSix_all count fits
  · rw [if_neg short]
    rcases isRun with none | ⟨front, back, parts, startEq⟩
    · omega
    · rw [Nat.zero_add] at startEq
      have upTo : pieces.take start = front := by
        rw [parts, startEq, List.append_assoc, List.take_left]
      have beyond : pieces.drop (start + length) = back := by
        rw [parts, startEq]
        exact List.drop_left' (by rw [List.length_append, List.length_replicate])
      have sizes : front.length + length + back.length = 8 := by
        rw [parts, List.length_append, List.length_append, List.length_replicate] at count
        exact count
      rw [upTo, beyond, readSix_gap (by omega) sizes, ← parts]
      · exact fun piece member => fits piece (by rw [parts]; simp [member])
      · exact fun piece member => fits piece (by rw [parts]; simp [member])

/-! ### What is read as eight pieces -/

theorem readByte_le {digits : List Char} {byte : Nat} (read : readByte? digits = some byte) :
    byte ≤ 255 := by
  unfold readByte? at read
  split at read
  · exact absurd read (by simp)
  · exact absurd read (by simp)
  · split at read
    · exact of_decide_eq_true (Option.filter_eq_some_iff.mp read).2
    · exact absurd read (by simp)

theorem mapM_readByte_le {parts : List (List Char)} {bytes : List Nat}
    (read : parts.mapM readByte? = some bytes) : ∀ byte ∈ bytes, byte ≤ 255 := by
  induction parts generalizing bytes with
  | nil =>
    obtain rfl := Option.some.inj read
    exact fun byte member => absurd member List.not_mem_nil
  | cons part parts inductionHypothesis =>
    rw [List.mapM_cons] at read
    obtain ⟨byte, readHere, read⟩ := Option.bind_eq_some_iff.mp read
    obtain ⟨others, readLater, result⟩ := Option.bind_eq_some_iff.mp read
    obtain rfl := Option.some.inj result
    exact List.forall_mem_cons.mpr ⟨readByte_le readHere, inductionHypothesis readLater⟩

theorem readTail_fits {text : List Char} {tail : List Nat} (read : readTail? text = some tail) :
    tail.length = 2 ∧ ∀ piece ∈ tail, IsPiece piece := by
  obtain ⟨bytes, parts, read⟩ := Option.bind_eq_some_iff.mp read
  have small := mapM_readByte_le parts
  split at read
  · obtain rfl := Option.some.inj read
    simp only [List.forall_mem_cons] at small
    refine ⟨rfl, ?_⟩
    simp only [List.forall_mem_cons, IsPiece]
    exact ⟨by omega, by omega, by simp⟩
  · exact absurd read (by simp)

/-- Pieces read so far, and the gap, take eight places at most. -/
def TakePlaces (done : List Nat) (gap : Option Nat) : Prop :=
  (∀ piece ∈ done, IsPiece piece) ∧ done.length + gap.toList.length ≤ 8

theorem TakePlaces.cons {value : Nat} (taken : TakePlaces done gap) (fits : IsPiece value)
    (room : ¬(done.length + gap.toList.length == 8) = true) :
    TakePlaces (value :: done) gap := by
  have notFull : done.length + gap.toList.length ≠ 8 := fun full => room (beq_iff_eq.mpr full)
  have places := taken.2
  refine ⟨List.forall_mem_cons.mpr ⟨fits, taken.1⟩, ?_⟩
  rw [List.length_cons]
  omega

/-- Each step takes a place only where one is free. -/
theorem readPieces_takePlaces {text : List Char} {back : List Nat} {gap' : Option Nat}
    (taken : TakePlaces done gap) (read : readPieces fuel text done gap = some (back, gap')) :
    TakePlaces back gap' := by
  induction fuel generalizing text done gap with
  | zero => exact absurd read (by simp [readPieces])
  | succ fuel inductionHypothesis =>
    rw [readPieces.eq_def] at read
    dsimp only at read
    split at read
    · obtain ⟨rfl, rfl⟩ := Prod.mk.inj (Option.some.inj read)
      exact taken
    · split at read
      · exact absurd read (by simp)
      · next free =>
        simp only [Bool.or_eq_true, not_or, Bool.not_eq_true, Option.isSome_eq_false_iff,
          Option.isNone_iff_eq_none] at free
        obtain ⟨notFull, rfl⟩ := free
        have places := taken.2
        refine inductionHypothesis ⟨taken.1, ?_⟩ read
        have ne := beq_eq_false_iff_ne.mp notFull
        simp only [Option.toList_none, Option.toList_some, List.length_nil,
          List.length_singleton] at places ne ⊢
        omega
    · split at read
      · exact absurd read (by simp)
      · next room =>
        have fits := isPiece_readPiece text
        generalize readPiece text = pieceRead at read fits
        split at read
        · exact absurd read (by simp)
        · split at read
          · exact absurd read (by simp)
          · next free =>
            obtain ⟨tail, readTail, result⟩ := Option.map_eq_some_iff.mp read
            obtain ⟨rfl, rfl⟩ := Prod.mk.inj result
            obtain ⟨two, tailFits⟩ := readTail_fits readTail
            refine ⟨fun piece member => ?_, ?_⟩
            · rcases List.mem_append.mp member with inTail | before
              · exact tailFits piece (List.mem_reverse.mp inTail)
              · exact taken.1 piece before
            · rw [List.length_append, List.length_reverse, two]
              omega
        · obtain ⟨rfl, rfl⟩ := Prod.mk.inj (Option.some.inj read)
          exact taken.cons fits room
        · exact absurd read (by simp)
        · exact inductionHypothesis (taken.cons fits room) read
        · exact absurd read (by simp)

theorem fillGap_areEight {backwards pieces : List Nat} (taken : TakePlaces backwards gap)
    (filled : fillGap? backwards gap = some pieces) : AreEight pieces := by
  obtain ⟨fits, places⟩ := taken
  unfold fillGap? at filled
  dsimp only at filled
  split at filled
  · obtain rfl := Option.some.inj filled
    refine ⟨?_, fun piece member => ?_⟩
    · simp only [List.length_append, List.length_replicate, List.length_take, List.length_drop,
        List.length_reverse, Option.toList_some, List.length_singleton] at places ⊢
      omega
    · rcases List.mem_append.mp member with front | back
      · rcases List.mem_append.mp front with before | zero
        · exact fits piece (List.mem_reverse.mp (List.mem_of_mem_take before))
        · rw [List.eq_of_mem_replicate zero]
          exact (by decide : 0 < 0x10000)
      · exact fits piece (List.mem_reverse.mp (List.mem_of_mem_drop back))
  · split at filled
    · next eight =>
      obtain rfl := Option.some.inj filled
      exact ⟨beq_iff_eq.mp eight, fun piece member => fits piece (List.mem_reverse.mp member)⟩
    · exact absurd filled (by simp)

/-- What is read as eight pieces is eight pieces. -/
theorem readSix_areEight {text : List Char} {pieces : List Nat}
    (read : readSix? text = some pieces) : AreEight pieces := by
  have atStart : TakePlaces [] none :=
    ⟨fun piece member => absurd member List.not_mem_nil, by decide⟩
  have behindGap : TakePlaces [] (some 0) :=
    ⟨fun piece member => absurd member List.not_mem_nil, by decide⟩
  unfold readSix? at read
  dsimp only at read
  split at read
  · obtain ⟨⟨backwards, gap⟩, readAll, filled⟩ := Option.bind_eq_some_iff.mp read
    exact fillGap_areEight (readPieces_takePlaces behindGap readAll) filled
  · exact absurd read (by simp)
  · obtain ⟨⟨backwards, gap⟩, readAll, filled⟩ := Option.bind_eq_some_iff.mp read
    exact fillGap_areEight (readPieces_takePlaces atStart readAll) filled

end Metasearch.Url
