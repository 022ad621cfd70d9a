/-
This file settles what the pieces of a phrase are. Blanks stand in no piece; each piece is a number,
a word or one other character; and no piece goes on in the character behind it, which for a point
that stands alone means that no digit follows. A phrase can be cut in one way only that keeps to
these rules, and its pieces are the ones of that cut.

So nothing of a phrase is lost but its blanks. What is in front of a piece and what is behind it are
cut as they would be alone; and two words one behind the other have a blank between them, because
the first would have gone on in the second otherwise.
-/
import Metasearch.Proofs.DecimalNumbers
import Metasearch.Proofs.PhraseJoins
import Metasearch.Proofs.WholeSizes

namespace Metasearch.RelativeTime

open Number.Binary64 (IsDecimal isDecimal_digits isDecimal_point takeWhile_point)
open Text (isBlank)

/-! ### Shapes -/

/-- A character behind a piece would belong to the piece. -/
def Token.goesOn : Token → Char → Bool
  | .number text, c => c.isDigit || (c == '.' && !text.contains '.')
  | .word _, c => continuesWord c
  | .mark text, c => text == ['.'] && c.isDigit

/-- The text of a piece is of its kind. -/
def Token.IsShaped : Token → Prop
  | .number text => IsDecimal text
  | .word text => ∃ c rest, text = c :: rest ∧ startsWord c = true ∧
      ∀ d ∈ rest, continuesWord d = true
  | .mark text => ∃ c, text = [c] ∧ isBlank c = false ∧ c.isDigit = false ∧ startsWord c = false

theorem continuesWord_of_startsWord {c : Char} (starts : startsWord c = true) :
    continuesWord c = true := by
  unfold startsWord at starts
  unfold continuesWord Text.isAlphanumeric
  simp only [Bool.or_eq_true] at starts ⊢
  exact starts.imp_left .inl

theorem solid_of_continuesWord {c : Char} (continues : continuesWord c = true) :
    isBlank c = false := by
  have every : ∀ point ∈ Text.blankPoints, continuesWord (Char.ofNat point) = false := by
    decide +kernel
  refine Bool.eq_false_iff.mpr fun blank => ?_
  have stops := every c.toNat (Text.mem_blankPoints blank)
  rw [Char.ofNat_toNat, continues] at stops
  cases stops

theorem not_startsWord_of_isDigit {c : Char} (digit : c.isDigit = true) : startsWord c = false := by
  have every : ∀ c ∈ Text.asciiChars, c.isDigit = true → startsWord c = false :=
    Text.forall_of_all (by decide)
  exact every c (Text.mem_asciiChars (Text.ascii_of_isDigit digit)) digit

namespace Token.IsShaped

variable {token : Token}

theorem solid (shaped : token.IsShaped) : ∀ c ∈ token.text, isBlank c = false := by
  intro c member
  cases token with
  | number text =>
    rcases IsDecimal.allowed shaped c member with digit | rfl
    · exact (Calendar.solid_of_isDigit digit).1
    · rfl
  | word text =>
    obtain ⟨first, rest, rfl, starts, continues⟩ := shaped
    rcases List.mem_cons.mp member with rfl | later
    · exact solid_of_continuesWord (continuesWord_of_startsWord starts)
    · exact solid_of_continuesWord (continues c later)
  | mark text =>
    obtain ⟨first, rfl, solid, -, -⟩ := shaped
    rwa [List.mem_singleton.mp member]

theorem ne_nil (shaped : token.IsShaped) : token.text ≠ [] := by
  cases token with
  | number text =>
    obtain ⟨c, member, -⟩ := IsDecimal.some shaped
    exact List.ne_nil_of_mem member
  | word text =>
    obtain ⟨first, rest, rfl, -, -⟩ := shaped
    exact List.cons_ne_nil first rest
  | mark text =>
    obtain ⟨first, rfl, -⟩ := shaped
    exact List.cons_ne_nil first []

end Token.IsShaped

/-! ### One piece after the other -/

theorem tokensFrom_eq (skip : Nat) (text : List Char) :
    tokensFrom skip text = tokens (text.drop skip) := by
  induction text generalizing skip with
  | nil => rw [List.drop_nil]; rfl
  | cons c rest inductionHypothesis =>
    cases skip with
    | zero => rfl
    | succ skip => exact inductionHypothesis skip

theorem tokens_blank {c : Char} (blank : isBlank c = true) (rest : List Char) :
    tokens (c :: rest) = tokens rest := by
  rw [tokens, tokensFrom, if_pos blank]
  rfl

/-- A run ends where a character of another kind stands, or the text does. -/
theorem takeWhile_run {takes : Char → Bool} {run rest : List Char}
    (each : ∀ c ∈ run, takes c = true) (ends : ∀ c, rest.head? = some c → takes c = false) :
    (run ++ rest).takeWhile takes = run := by
  cases rest with
  | nil => rw [List.append_nil, List.takeWhile_eq_self_iff.mpr each]
  | cons c rest =>
    rw [takeWhile_append_stop (ends c rfl), List.takeWhile_eq_self_iff.mpr each]

theorem startsNumber_of_isDigit {c : Char} (digit : c.isDigit = true) (rest : List Char) :
    startsNumber (c :: rest) = true := by
  have noPoint : c ≠ '.' := by rintro rfl; cases digit
  simp [startsNumber, noPoint, digit]

/-- The number that stands at the beginning of a text ends where it does not go on. -/
theorem startsNumber_and_length {number rest : List Char} (isNumber : IsDecimal number)
    (ends : ∀ c, rest.head? = some c → (Token.number number).goesOn c = false) :
    startsNumber (number ++ rest) = true ∧ numberLength (number ++ rest) = number.length := by
  have noDigit : ∀ c, rest.head? = some c → c.isDigit = false := fun c here =>
    (Bool.or_eq_false_iff.mp (ends c here)).1
  obtain ⟨digits, present⟩ | ⟨whole, fraction, rfl, digits, behind, present⟩ :=
    isNumber.digits_or_point
  case inl =>
    refine ⟨?_, ?_⟩
    · obtain ⟨c, tail, rfl⟩ := List.exists_cons_of_ne_nil present
      exact startsNumber_of_isDigit (digits c List.mem_cons_self) _
    · have noPoint : '.' ∉ number := fun member => by cases digits '.' member
      unfold numberLength
      simp only [takeWhile_run digits noDigit, List.drop_left]
      split
      · next behind =>
        have goesOn := ends '.' rfl
        simp [Token.goesOn, noPoint] at goesOn
      · rfl
  case inr =>
    rw [List.append_assoc, List.cons_append]
    refine ⟨?_, ?_⟩
    · cases whole with
      | cons c tail => exact startsNumber_of_isDigit (digits c List.mem_cons_self) _
      | nil =>
        obtain ⟨c, tail, rfl⟩ := List.exists_cons_of_ne_nil present
        exact behind c List.mem_cons_self
    · unfold numberLength
      simp only [takeWhile_point digits, List.drop_left, takeWhile_run behind noDigit,
        List.length_append, List.length_cons]
      omega

/-- A piece that does not go on behind its text is the first one. -/
theorem tokens_piece {token : Token} {rest : List Char} (shaped : token.IsShaped)
    (ends : ∀ c, rest.head? = some c → token.goesOn c = false) :
    tokens (token.text ++ rest) = token :: tokens rest := by
  have solid := shaped.solid
  obtain ⟨c, tail, isText⟩ := List.exists_cons_of_ne_nil shaped.ne_nil
  have here : isBlank c ≠ true := by simp [solid c (isText ▸ List.mem_cons_self)]
  cases token with
  | number text =>
    obtain rfl : text = c :: tail := isText
    obtain ⟨starts, length⟩ := startsNumber_and_length shaped ends
    have taken : (c :: (tail ++ rest)).take (c :: tail).length = c :: tail := List.take_left
    rw [List.cons_append] at starts length
    show tokensFrom 0 (c :: (tail ++ rest)) = _
    rw [tokensFrom, if_neg here, if_pos starts]
    simp only [length, taken, tokensFrom_eq]
    rw [List.length_cons, Nat.add_sub_cancel, List.drop_left]
  | word text =>
    obtain ⟨first, run, rfl, starts, continues⟩ := shaped
    obtain ⟨rfl, rfl⟩ := List.cons.inj isText
    have noPoint : first ≠ '.' := by rintro rfl; cases starts
    have noDigit : first.isDigit = false := Bool.eq_false_iff.mpr fun digit =>
      absurd starts (by simp [not_startsWord_of_isDigit digit])
    have noNumber : startsNumber (first :: (run ++ rest)) ≠ true := by
      simp [startsNumber, noPoint, noDigit]
    show tokensFrom 0 (first :: (run ++ rest)) = _
    rw [tokensFrom, if_neg here, if_neg noNumber, if_pos starts]
    simp only [takeWhile_run continues ends, tokensFrom_eq, List.drop_left]
  | mark text =>
    obtain ⟨first, rfl, -, noDigit, noWord⟩ := shaped
    obtain ⟨rfl, rfl⟩ := List.cons.inj isText
    have noNumber : startsNumber (first :: rest) ≠ true := by
      by_cases point : first = '.'
      · subst point
        cases rest with
        | nil => decide
        | cons next rest => simpa [startsNumber, Token.goesOn] using ends next rfl
      · simp [startsNumber, point, noDigit]
    show tokensFrom 0 (first :: rest) = _
    rw [tokensFrom, if_neg here, if_neg noNumber, if_neg (by simp [noWord])]
    rfl

/-! ### Cuts -/

/-- A phrase is cut into pieces: blanks stand in none of them, and each goes as far as it can. -/
inductive IsCutInto : List Char → List Token → Prop
  | nil : IsCutInto [] []
  | blank {c : Char} {rest : List Char} {pieces : List Token} (blank : isBlank c = true)
      (cut : IsCutInto rest pieces) : IsCutInto (c :: rest) pieces
  | piece {token : Token} {rest : List Char} {pieces : List Token} (shaped : token.IsShaped)
      (ends : ∀ c, rest.head? = some c → token.goesOn c = false) (cut : IsCutInto rest pieces) :
      IsCutInto (token.text ++ rest) (token :: pieces)

theorem head?_dropWhile {takes : Char → Bool} {text : List Char} {c : Char}
    (here : (text.dropWhile takes).head? = some c) : takes c = false := by
  have stops := List.head?_dropWhile_not takes text
  rw [here] at stops
  exact stops

/-- A number begins with a digit, or with a point before one, and goes as far as it can. -/
theorem exists_number {text : List Char} (starts : startsNumber text = true) :
    ∃ number rest, text = number ++ rest ∧ IsDecimal number ∧
      ∀ c, rest.head? = some c → (Token.number number).goesOn c = false := by
  have digits : ∀ c ∈ text.takeWhile Char.isDigit, c.isDigit = true :=
    fun c member => List.mem_takeWhile_imp member
  have whole : text = text.takeWhile Char.isDigit ++ text.dropWhile Char.isDigit :=
    List.takeWhile_append_dropWhile.symm
  have noDigit : ∀ c, (text.dropWhile Char.isDigit).head? = some c → c.isDigit = false :=
    fun c here => head?_dropWhile here
  generalize text.takeWhile Char.isDigit = front at digits whole
  generalize text.dropWhile Char.isDigit = behind at whole noDigit
  subst whole
  by_cases point : behind.head? = some '.'
  case pos =>
    obtain ⟨rest, rfl⟩ := List.head?_eq_some_iff.mp point
    have fraction : ∀ c ∈ rest.takeWhile Char.isDigit, c.isDigit = true :=
      fun c member => List.mem_takeWhile_imp member
    have present : front ++ rest.takeWhile Char.isDigit ≠ [] := by
      intro empty
      obtain ⟨rfl, none⟩ := List.append_eq_nil_iff.mp empty
      cases rest with
      | nil => cases starts
      | cons c rest =>
        have digit : c.isDigit = true := starts
        rw [List.takeWhile_cons_of_pos digit] at none
        cases none
    refine ⟨front ++ '.' :: rest.takeWhile Char.isDigit, rest.dropWhile Char.isDigit, ?_,
      isDecimal_point digits fraction present, fun c here => ?_⟩
    · rw [List.append_assoc, List.cons_append, List.takeWhile_append_dropWhile]
    · simp [Token.goesOn, head?_dropWhile here]
  case neg =>
    have present : front ≠ [] := by
      rintro rfl
      cases behind with
      | nil => cases starts
      | cons c rest =>
        have noPoint : c ≠ '.' := fun same => point (congrArg some same)
        have digit : c.isDigit = true := by simpa [startsNumber, noPoint] using starts
        rw [noDigit c rfl] at digit
        cases digit
    refine ⟨front, behind, rfl, isDecimal_digits digits present, fun c here => ?_⟩
    have noPoint : c ≠ '.' := fun same => point (same ▸ here)
    simp [Token.goesOn, noDigit c here, noPoint]

/-- Where no blank stands, a piece does. -/
theorem exists_piece {c : Char} (solid : isBlank c = false) (text : List Char) :
    ∃ (token : Token) (rest : List Char), c :: text = token.text ++ rest ∧ token.IsShaped ∧
      ∀ d, rest.head? = some d → token.goesOn d = false := by
  by_cases starts : startsNumber (c :: text) = true
  case pos =>
    obtain ⟨number, rest, whole, isNumber, ends⟩ := exists_number starts
    exact ⟨.number number, rest, whole, isNumber, ends⟩
  case neg =>
    by_cases isWord : startsWord c = true
    case pos =>
      refine ⟨.word (c :: text.takeWhile continuesWord), text.dropWhile continuesWord, ?_,
        ⟨c, _, rfl, isWord, fun d member => List.mem_takeWhile_imp member⟩,
        fun d here => head?_dropWhile here⟩
      exact congrArg (c :: ·) List.takeWhile_append_dropWhile.symm
    case neg =>
      have noDigit : c.isDigit = false := Bool.eq_false_iff.mpr fun digit =>
        starts (startsNumber_of_isDigit digit text)
      refine ⟨.mark [c], text, rfl, ⟨c, rfl, solid, noDigit, Bool.eq_false_iff.mpr isWord⟩,
        fun d here => ?_⟩
      obtain ⟨rest, rfl⟩ := List.head?_eq_some_iff.mp here
      refine Bool.eq_false_iff.mpr fun goesOn => starts ?_
      obtain ⟨isPoint, digit⟩ := Bool.and_eq_true_iff.mp goesOn
      obtain ⟨rfl, -⟩ := List.cons.inj (beq_iff_eq.mp isPoint)
      exact digit

/-- A phrase can be cut in one way, and its pieces are the ones of this cut. -/
theorem isCutInto_tokens (phrase : List Char) : IsCutInto phrase (tokens phrase) := by
  induction isLength : phrase.length using Nat.strongRecOn generalizing phrase with
  | ind length inductionHypothesis =>
    subst isLength
    cases phrase with
    | nil => exact .nil
    | cons c text =>
      by_cases blank : isBlank c = true
      · rw [tokens_blank blank]
        exact .blank blank (inductionHypothesis text.length (Nat.lt_succ_self _) text rfl)
      · obtain ⟨token, rest, whole, shaped, ends⟩ :=
          exists_piece (Bool.eq_false_iff.mpr blank) text
        have shorter : rest.length < (c :: text).length := by
          rw [whole, List.length_append]
          exact Nat.lt_add_of_pos_left (List.length_pos_iff.mpr shaped.ne_nil)
        rw [whole, tokens_piece shaped ends]
        exact .piece shaped ends (inductionHypothesis rest.length shorter rest rfl)

theorem IsCutInto.tokens_eq {phrase : List Char} {pieces : List Token}
    (cut : IsCutInto phrase pieces) : tokens phrase = pieces := by
  induction cut with
  | nil => rfl
  | blank blank _ inductionHypothesis => rw [tokens_blank blank, inductionHypothesis]
  | piece shaped ends _ inductionHypothesis => rw [tokens_piece shaped ends, inductionHypothesis]

theorem tokens_eq_iff {phrase : List Char} {pieces : List Token} :
    tokens phrase = pieces ↔ IsCutInto phrase pieces :=
  ⟨fun same => same ▸ isCutInto_tokens phrase, IsCutInto.tokens_eq⟩

/-! ### What is in a cut -/

namespace IsCutInto

variable {phrase : List Char} {pieces : List Token}

/-- Nothing is lost but the blanks. -/
theorem flatMap_text (cut : IsCutInto phrase pieces) :
    pieces.flatMap Token.text = phrase.filter fun c => !isBlank c := by
  induction cut with
  | nil => rfl
  | blank blank _ inductionHypothesis =>
    rw [inductionHypothesis, List.filter_cons_of_neg (by simp [blank])]
  | @piece token rest pieces shaped _ _ inductionHypothesis =>
    have kept : (token.text.filter fun c => !isBlank c) = token.text :=
      List.filter_eq_self.mpr fun c member => by simp [shaped.solid c member]
    rw [List.flatMap_cons, inductionHypothesis, List.filter_append, kept]

theorem isShaped (cut : IsCutInto phrase pieces) : ∀ piece ∈ pieces, piece.IsShaped := by
  induction cut with
  | nil => exact fun _ member => absurd member List.not_mem_nil
  | blank _ _ inductionHypothesis => exact inductionHypothesis
  | piece shaped _ _ inductionHypothesis =>
    exact List.forall_mem_cons.mpr ⟨shaped, inductionHypothesis⟩

theorem blank_of_nil (cut : IsCutInto phrase []) : ∀ c ∈ phrase, isBlank c = true := by
  generalize isNone : ([] : List Token) = pieces at cut
  induction cut with
  | nil => exact fun _ member => absurd member List.not_mem_nil
  | blank blank _ inductionHypothesis =>
    exact List.forall_mem_cons.mpr ⟨blank, inductionHypothesis isNone⟩
  | piece => cases isNone

/-- A phrase falls into what is in front of a piece, the piece, and what is behind it. -/
theorem around {before behind : List Token} {token : Token}
    (cut : IsCutInto phrase (before ++ token :: behind)) :
    ∃ left right, phrase = left ++ token.text ++ right ∧ IsCutInto left before ∧
      IsCutInto right behind ∧ ∀ c, right.head? = some c → token.goesOn c = false := by
  generalize whole : before ++ token :: behind = pieces at cut
  induction cut generalizing before with
  | nil => exact absurd whole (by simp)
  | @blank c rest pieces blank _ inductionHypothesis =>
    obtain ⟨left, right, rfl, inFront, after, ends⟩ := inductionHypothesis whole
    exact ⟨c :: left, right, rfl, .blank blank inFront, after, ends⟩
  | @piece first rest pieces shaped ends cut inductionHypothesis =>
    cases before with
    | nil =>
      obtain ⟨rfl, rfl⟩ := List.cons.inj whole
      exact ⟨[], rest, rfl, .nil, cut, ends⟩
    | cons head before =>
      obtain ⟨rfl, later⟩ := List.cons.inj whole
      obtain ⟨left, right, rfl, inFront, after, stops⟩ := inductionHypothesis later
      refine ⟨head.text ++ left, right, by simp only [List.append_assoc],
        .piece shaped (fun c here => ends c ?_) inFront, after, stops⟩
      rw [List.append_assoc, List.head?_append, here, Option.some_or]

end IsCutInto

/-- The pieces of a phrase lose nothing of it but its blanks, and each is of its kind: a number is
decimal digits, one at least, with one point among them at the most; a word begins with a letter or
an underscore and goes on with letters, numbers and underscores; any other piece is one character.
The phrase falls into what is in front of a piece, the piece, and what is behind it, each cut as it
would be alone; a piece is as long as it can be, and two words one behind the other have blanks
between them. There is no other way to cut the phrase by these rules. -/
theorem tokens_loseNothing (phrase : List Char) :
    (tokens phrase).flatMap Token.text = phrase.filter (fun c => !isBlank c) ∧
    (∀ piece ∈ tokens phrase, piece.text ≠ [] ∧ (∀ c ∈ piece.text, isBlank c = false) ∧
      piece.IsShaped) ∧
    (∀ before piece behind, tokens phrase = before ++ piece :: behind →
      ∃ left right, phrase = left ++ piece.text ++ right ∧ tokens left = before ∧
        tokens right = behind ∧ ∀ c, right.head? = some c → piece.goesOn c = false) ∧
    (∀ before first second behind,
      tokens phrase = before ++ .word first :: .word second :: behind →
      ∃ left gap right, phrase = left ++ first ++ gap ++ second ++ right ∧ tokens left = before ∧
        tokens right = behind ∧ gap ≠ [] ∧ ∀ c ∈ gap, isBlank c = true) ∧
    ∀ pieces, tokens phrase = pieces ↔ IsCutInto phrase pieces := by
  have cut := isCutInto_tokens phrase
  refine ⟨cut.flatMap_text, fun piece member => ?_, ?_, ?_, fun pieces => tokens_eq_iff⟩
  · have shaped := cut.isShaped piece member
    exact ⟨shaped.ne_nil, shaped.solid, shaped⟩
  · intro before piece behind whole
    rw [whole] at cut
    obtain ⟨left, right, parts, inFront, after, ends⟩ := cut.around
    exact ⟨left, right, parts, inFront.tokens_eq, after.tokens_eq, ends⟩
  · intro before first second behind whole
    rw [whole] at cut
    obtain ⟨left, later, rfl, inFront, after, ends⟩ := cut.around
    have between : IsCutInto later ([] ++ .word second :: behind) := after
    obtain ⟨gap, right, rfl, between, rest, -⟩ := between.around
    obtain ⟨c, tail, isSecond, starts, -⟩ := after.isShaped (.word second) List.mem_cons_self
    refine ⟨left, gap, right, by simp only [Token.text, List.append_assoc], inFront.tokens_eq,
      rest.tokens_eq, ?_, between.blank_of_nil⟩
    -- without a gap the first word would go on with the first character of the second
    rintro rfl
    have stops : continuesWord c = false := ends c (by rw [isSecond]; rfl)
    rw [continuesWord_of_startsWord starts] at stops
    cases stops

end Metasearch.RelativeTime
