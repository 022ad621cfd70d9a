/-
This file settles which texts a variable of the environment can have as they stand. A text is read
as itself exactly if nothing can be trimmed off it and it stands for nothing else: it is no truth
value and no number, and it is not in marks as a text, a list or a table.
-/
import Mathlib.Data.List.DropRight
import Mathlib.Data.List.TakeWhile
import Metasearch.Proofs.DecimalNumbers
import Metasearch.Proofs.IntegerTexts
import Metasearch.Proofs.Outcomes
import Metasearch.Settings.Environment

namespace Metasearch

/-! ### Blanks at the ends -/

namespace Text

/-- A text that nothing is trimmed off has no blanks at its start. -/
theorem trimStart_of_trim {text : List Char} (solid : trim text = text) :
    trimStart text = text := by
  refine (List.dropWhile_suffix isBlank).eq_of_length_le ?_
  calc text.length = (trimEnd (trimStart text)).length := congrArg List.length solid.symm
    _ ≤ (trimStart text).length := (List.rdropWhile_prefix isBlank _).length_le

theorem trim_trim (text : List Char) : trim (trim text) = trim text := by
  have start : trimStart (trim text) = trim text := by
    refine List.dropWhile_eq_self_iff.mpr fun some => ?_
    have beginning := List.rdropWhile_prefix isBlank (text.dropWhile isBlank)
    have same := beginning.getElem some
    have solid := List.dropWhile_get_zero_not isBlank text (some.trans_le beginning.length_le)
    exact same ▸ solid
  rw [trim, start]
  exact List.rdropWhile_idempotent isBlank (text.dropWhile isBlank)

/-- The last character of a text that nothing is trimmed off is no blank. -/
theorem getLast_of_trim {text : List Char} (solid : trim text = text) (some : text ≠ []) :
    isBlank (text.getLast some) = false := by
  have ends : text.rdropWhile isBlank = text := by
    have kept := solid
    rwa [trim, trimStart_of_trim solid] at kept
  exact eq_false_of_ne_true (List.rdropWhile_eq_self_iff.mp ends some)

end Text

namespace Settings

theorem isBlank_of_isSpace {c : Char} (space : isSpace c = true) : Text.isBlank c = true := by
  have member : c ∈ [' ', '\t', '\n', '\r', '\x0c'] := List.contains_iff_mem.mp space
  have every : ∀ c ∈ [' ', '\t', '\n', '\r', '\x0c'], Text.isBlank c = true :=
    Text.forall_of_all (by decide)
  exact every c member

/-- Nothing but what is not there can be blank behind a text that nothing is trimmed off. -/
theorem nil_of_blanks (front : List Char) {rest : List Char}
    (solid : Text.trim (front ++ rest) = front ++ rest) :
    rest.dropWhile isSpace = [] ↔ rest = [] := by
  refine ⟨fun blanks => ?_, fun none => by rw [none]; rfl⟩
  by_contra some
  have last := Text.getLast_of_trim solid (List.append_ne_nil_of_right_ne_nil front some)
  rw [List.getLast_append_of_right_ne_nil _ _ some] at last
  have blank := List.dropWhile_eq_nil_iff.mp blanks _ (List.getLast_mem some)
  exact absurd (isBlank_of_isSpace blank) (by rw [last]; decide)

/-! ### Texts that stand for something else -/

/-- A text that is read as a number. -/
def IsNumeral (text : List Char) : Prop :=
  isReal text = true ∨ (∃ value, Number.readUnsigned Number.maxUnsigned text = .ok value) ∨
    ∃ value, Number.readSigned text = .ok value

/-- Something is read, and only blanks are left. -/
def Closes {Value : Type} (read : Option (Value × List Char)) : Prop :=
  ∃ value rest, read = some (value, rest) ∧ rest.dropWhile isSpace = []

/-- A text that is in marks from its first character to its last. -/
inductive IsMarked : List Char → Prop
  | quoted {inside : List Char} (closes : Closes (readQuoted? inside.length inside)) :
      IsMarked ('"' :: inside)
  | character (c : Char) : IsMarked ['\'', c, '\'']
  | list {inside : List Char} (closes : Closes (readList? (inside.length + 2) inside)) :
      IsMarked ('[' :: inside)
  | table {inside : List Char} (closes : Closes (readTable? (inside.length + 2) inside)) :
      IsMarked ('\x7b' :: inside)

/-- A text that stands for something else: a truth value, a number, or what is in its marks. -/
def StandsForOther (text : List Char) : Prop :=
  text = ['t', 'r', 'u', 'e'] ∨ text = ['f', 'a', 'l', 's', 'e'] ∨ IsNumeral text ∨ IsMarked text

/-! ### Numbers -/

/-- A character that a number can have. -/
def InNumeral (c : Char) : Prop :=
  c.isDigit = true ∨ c ∈ ['+', '-', '.', 'e', 'E']

instance (c : Char) : Decidable (InNumeral c) :=
  inferInstanceAs (Decidable (_ ∨ _))

theorem not_inNumeral_of_isMark {c : Char} (mark : isMark c = true) : ¬ InNumeral c := by
  have member : c ∈ [',', '\x7b', '\x7d', '[', ']'] := List.contains_iff_mem.mp mark
  have every : ∀ c ∈ [',', '\x7b', '\x7d', '[', ']'], ¬ InNumeral c :=
    Text.forall_of_all (by decide)
  exact every c member

theorem inNumeral_of_splitSign {text : List Char}
    (body : ∀ c ∈ (splitSign text).2, InNumeral c) : ∀ c ∈ text, InNumeral c := by
  unfold splitSign at body
  split at body
  · exact List.forall_mem_cons.mpr ⟨.inr (by simp), body⟩
  · exact List.forall_mem_cons.mpr ⟨.inr (by simp), body⟩
  · exact body

theorem inNumeral_of_readDecimal {text : List Char}
    (read : (Number.Binary64.readDecimal? text).isSome = true) : ∀ c ∈ text, InNumeral c := by
  intro c member
  rcases (Number.Binary64.isSome_readDecimal?.mp read).allowed c member with digit | rfl
  · exact .inl digit
  · exact .inr (by simp)

theorem inNumeral_of_isReal {text : List Char} (real : isReal text = true) :
    ∀ c ∈ text, InNumeral c := by
  refine inNumeral_of_splitSign ?_
  unfold isReal at real
  generalize (splitSign text).2 = body at real ⊢
  dsimp only at real
  have cut := List.prefix_iff_eq_append.mp
    (List.takeWhile_prefix (p := fun c => c != 'e' && c != 'E') (l := body))
  have stops : ∀ c rest, body.drop (body.takeWhile fun c => c != 'e' && c != 'E').length =
      c :: rest → c = 'e' ∨ c = 'E' := by
    intro c rest behind
    have goesOn := List.takeWhile_append_dropWhile (p := fun c => c != 'e' && c != 'E') (l := body)
    have same := List.append_cancel_left (goesOn.trans cut.symm)
    have first := List.head?_dropWhile_not (fun c => c != 'e' && c != 'E') body
    rw [same, behind] at first
    simpa [Decidable.imp_iff_not_or] using first
  generalize body.takeWhile (fun c => c != 'e' && c != 'E') = size at real cut stops
  simp only [Bool.and_eq_true, Bool.or_eq_true] at real
  obtain ⟨⟨-, decimal⟩, ends⟩ := real
  rw [← cut, List.forall_mem_append]
  refine ⟨inNumeral_of_readDecimal decimal, ?_⟩
  rcases ends with all | ⟨-, exponent⟩
  · rw [List.drop_of_length_le (eq_of_beq all).ge]
    exact nofun
  · rw [← List.tail_drop] at exponent
    generalize body.drop size.length = behind at exponent stops
    cases behind with
    | nil => exact nofun
    | cons c rest =>
      refine List.forall_mem_cons.mpr ⟨.inr ?_, inNumeral_of_splitSign fun c member =>
        .inl (List.all_eq_true.mp exponent c member)⟩
      rcases stops c rest rfl with rfl | rfl <;> simp

theorem inNumeral_of_readDigits {limit whole value : Nat} {beyond : Number.IntegerError}
    {text : List Char} (read : Number.readDigits limit whole beyond text = .ok value) :
    ∀ c ∈ text, InNumeral c := by
  induction text generalizing whole with
  | nil => exact nofun
  | cons c rest inductionHypothesis =>
    unfold Number.readDigits at read
    split at read
    · next digit =>
      dsimp only at read
      split at read
      · exact List.forall_mem_cons.mpr ⟨.inl digit, inductionHypothesis read⟩
      · cases read
    · cases read

/-- A number has no other characters. -/
theorem IsNumeral.inNumeral {text : List Char} (numeral : IsNumeral text) :
    ∀ c ∈ text, InNumeral c := by
  have signed : ∀ {sign : Char} {rest : List Char}, sign ∈ ['+', '-'] →
      (∀ c ∈ rest, InNumeral c) → ∀ c ∈ sign :: rest, InNumeral c := fun isSign rest =>
    List.forall_mem_cons.mpr ⟨.inr (List.mem_append_left ['.', 'e', 'E'] isSign), rest⟩
  rcases numeral with real | ⟨value, read⟩ | ⟨value, read⟩
  · exact inNumeral_of_isReal real
  · unfold Number.readUnsigned at read
    split at read
    · cases read
    · cases read
    · exact signed (by simp) (inNumeral_of_readDigits read)
    · exact inNumeral_of_readDigits read
  · unfold Number.readSigned at read
    split at read
    · cases read
    · cases read
    · cases read
    · obtain ⟨size, read, -⟩ := map_eq_ok.mp read
      exact signed (by simp) (inNumeral_of_readDigits read)
    · obtain ⟨_, read, -⟩ := map_eq_ok.mp read
      obtain ⟨size, read, -⟩ := except_of_bind read
      exact signed (by simp) (inNumeral_of_readDigits read)
    · obtain ⟨size, read, -⟩ := map_eq_ok.mp read
      exact inNumeral_of_readDigits read

/-- A bare text is a text exactly if it is no number. -/
theorem bareValue_eq (text : List Char) :
    (IsNumeral text ∧ ∀ other, bareValue text ≠ .text other) ∨
      (¬ IsNumeral text ∧ bareValue text = .text (String.ofList text)) := by
  unfold bareValue
  split
  · next real => exact .inl ⟨.inl real, fun _ => Json.noConfusion⟩
  · next notReal =>
    split
    · next value read => exact .inl ⟨.inr (.inl ⟨value, read⟩), fun _ => Json.noConfusion⟩
    · next value read _ => exact .inl ⟨.inr (.inr ⟨value, read⟩), fun _ => Json.noConfusion⟩
    · next notUnsigned notSigned =>
      refine .inr ⟨?_, rfl⟩
      rintro (real | ⟨value, read⟩ | ⟨value, read⟩)
      · exact notReal real
      · exact notUnsigned value read
      · exact notSigned value read

/-! ### Marks -/

theorem readEscaped_length {text rest : List Char} {c : Char}
    (read : readEscaped? text = some (c, rest)) : rest.length < text.length := by
  unfold readEscaped? at read
  split at read
  all_goals cases read
  all_goals simp

/-- A text in marks is shorter than what is written for it. -/
theorem readQuoted_length {fuel : Nat} {text value rest : List Char}
    (read : readQuoted? fuel text = some (value, rest)) : value.length < text.length := by
  induction fuel, text using readQuoted?.induct generalizing value rest with
  | case1 fuel text =>
    simp only [readQuoted?, Option.some.injEq, Prod.mk.injEq] at read
    simp [← read.1]
  | case2 fuel text inductionHypothesis =>
    rw [readQuoted?] at read
    obtain ⟨⟨c, behind⟩, escaped, read⟩ := Option.bind_eq_some_iff.mp read
    obtain ⟨⟨more, left⟩, inside, same⟩ := Option.map_eq_some_iff.mp read
    have shorter := readEscaped_length escaped
    have inner := inductionHypothesis _ inside
    rw [← (Prod.mk.inj same).1, List.length_cons, List.length_cons]
    omega
  | case3 fuel c text _ _ inductionHypothesis =>
    rw [readQuoted?] at read
    · obtain ⟨⟨more, left⟩, inside, same⟩ := Option.map_eq_some_iff.mp read
      have inner := inductionHypothesis inside
      rw [← (Prod.mk.inj same).1, List.length_cons, List.length_cons]
      omega
    all_goals assumption
  | case4 => simp_all [readQuoted?]

/-! ### Values -/

theorem closes_some {Value : Type} {value : Value} {rest : List Char} :
    Closes (some (value, rest)) ↔ rest.dropWhile isSpace = [] :=
  ⟨fun ⟨_, _, same, blanks⟩ => (Prod.mk.inj (Option.some.inj same)).2 ▸ blanks,
    fun blanks => ⟨value, rest, rfl, blanks⟩⟩

theorem closes_map {Value Result : Type} {read : Option (Value × List Char)}
    {change : Value → Result} :
    Closes (read.map fun (value, rest) => (change value, rest)) ↔ Closes read := by
  cases read with
  | none => exact ⟨fun ⟨_, _, same, _⟩ => (nomatch same), fun ⟨_, _, same, _⟩ => (nomatch same)⟩
  | some pair => exact closes_some.trans closes_some.symm

theorem isMarked_quoted {inside : List Char} :
    IsMarked ('"' :: inside) ↔ Closes (readQuoted? inside.length inside) :=
  ⟨fun | .quoted closes => closes, .quoted⟩

theorem isMarked_list {inside : List Char} :
    IsMarked ('[' :: inside) ↔ Closes (readList? (inside.length + 2) inside) :=
  ⟨fun | .list closes => closes, .list⟩

theorem isMarked_table {inside : List Char} :
    IsMarked ('\x7b' :: inside) ↔ Closes (readTable? (inside.length + 2) inside) :=
  ⟨fun | .table closes => closes, .table⟩

/-- What begins with a character that no number has stands for something else only by its marks. -/
theorem standsForOther_iff {c : Char} {rest : List Char} (odd : ¬ InNumeral c) (small : c ≠ 't')
    (other : c ≠ 'f') : StandsForOther (c :: rest) ↔ IsMarked (c :: rest) := by
  refine ⟨?_, fun marked => .inr (.inr (.inr marked))⟩
  rintro (same | same | numeral | marked)
  · exact absurd (List.cons.inj same).1 small
  · exact absurd (List.cons.inj same).1 other
  · exact absurd (numeral.inNumeral c List.mem_cons_self) odd
  · exact marked

/-- The value of a text of which something was read. -/
def valueOfRead (text : List Char) (read : Option (Json × List Char)) : Json :=
  match read with
  | some (json, []) => json
  | _ => .text (String.ofList text)

/-- How a text is read: as something else that it stands for, which is no text as long as it is, or
as itself. -/
def ReadsRightly (text : List Char) (json : Json) : Prop :=
  (StandsForOther text ∧ ∀ other, json = .text other → other.length < text.length) ∨
    (¬ StandsForOther text ∧ json = .text (String.ofList text))

/-- What is not read to the end of the text is no value of it. -/
theorem valueOfRead_of_open {text : List Char} {read : Option (Json × List Char)}
    (opens : ¬ Closes read) :
    valueOfRead text (do
      let (json, rest) ← read
      return (json, rest.dropWhile isSpace)) = .text (String.ofList text) := by
  cases read with
  | none => rfl
  | some pair =>
    obtain ⟨json, rest⟩ := pair
    rw [closes_some] at opens
    obtain ⟨c, more, behind⟩ := List.exists_cons_of_ne_nil opens
    change valueOfRead text (some (json, rest.dropWhile isSpace)) = _
    rw [behind]
    rfl

theorem readsRightly_of_closes {text : List Char} {read : Option (Json × List Char)}
    (stands : Closes read ↔ StandsForOther text)
    (shorter : ∀ other rest, read = some (.text other, rest) → other.length < text.length) :
    ReadsRightly text (valueOfRead text (do
      let (json, rest) ← read
      return (json, rest.dropWhile isSpace))) := by
  by_cases closes : Closes read
  · refine .inl ⟨stands.mp closes, fun other same => ?_⟩
    obtain ⟨json, rest, rfl, blanks⟩ := closes
    change valueOfRead text (some (json, rest.dropWhile isSpace)) = _ at same
    rw [blanks] at same
    exact shorter other rest (congrArg (fun json => some (json, rest)) same)
  · exact .inr ⟨mt stands.mpr closes, valueOfRead_of_open closes⟩

/-- What begins with the word of a truth value stands for it if nothing is behind. -/
theorem standsForOther_word {word rest : List Char}
    (isWord : word = ['t', 'r', 'u', 'e'] ∨ word = ['f', 'a', 'l', 's', 'e']) :
    rest = [] ↔ StandsForOther (word ++ rest) := by
  constructor
  · rintro rfl
    rw [List.append_nil]
    exact isWord.elim .inl fun same => .inr (.inl same)
  · rintro (same | same | numeral | marked)
    · rcases isWord with rfl | rfl
      · simpa using same
      · simp at same
    · rcases isWord with rfl | rfl
      · simp at same
      · simpa using same
    · rcases isWord with rfl | rfl
      · exact absurd (numeral.inNumeral 't' (by simp)) (by decide)
      · exact absurd (numeral.inNumeral 'f' (by simp)) (by decide)
    · rcases isWord with rfl | rfl <;> cases marked

/-- A character in marks stands for itself if nothing is behind it. -/
theorem standsForOther_character {c : Char} {rest : List Char} :
    rest = [] ↔ StandsForOther ('\'' :: c :: '\'' :: rest) := by
  rw [standsForOther_iff (by decide) (by decide) (by decide)]
  constructor
  · rintro rfl
    exact .character c
  · rintro ⟨⟩
    rfl

/-- What begins neither like a truth value nor with a mark stands for something else exactly if it
is a number. -/
theorem standsForOther_bare {text : List Char}
    (noTruth : text ≠ ['t', 'r', 'u', 'e'] ∧ text ≠ ['f', 'a', 'l', 's', 'e'])
    (unmarked : ¬ IsMarked text) : StandsForOther text ↔ IsNumeral text := by
  refine ⟨?_, fun numeral => .inr (.inr (.inl numeral))⟩
  rintro (same | same | numeral | marked)
  · exact absurd same noTruth.1
  · exact absurd same noTruth.2
  · exact numeral
  · exact absurd marked unmarked

/-- A bare text is read rightly: up to the first mark it would be a number or a text, but behind a
mark there is something left. -/
theorem readsRightly_bare {text : List Char} (solid : Text.trim text = text)
    (stands : StandsForOther text ↔ IsNumeral text) :
    let bare := text.takeWhile (!isMark ·)
    ReadsRightly text (valueOfRead text (do
      let (json, rest) ← some (bareValue (Text.trim bare), text.drop bare.length)
      return (json, rest.dropWhile isSpace))) := by
  intro bare
  by_cases whole : bare = text
  · rw [whole, List.drop_length, solid]
    change ReadsRightly text (bareValue text)
    rcases bareValue_eq text with ⟨numeral, noText⟩ | ⟨noNumeral, same⟩
    · exact .inl ⟨stands.mpr numeral, fun other same => absurd same (noText other)⟩
    · exact .inr ⟨mt stands.mp noNumeral, same⟩
  · refine .inr ⟨fun other => whole ?_, valueOfRead_of_open fun closes => whole ?_⟩
    · refine List.takeWhile_eq_self_iff.mpr fun c member => ?_
      have fine := (stands.mp other).inNumeral c member
      have unmarked : isMark c = false :=
        eq_false_of_ne_true fun mark => not_inNumeral_of_isMark mark fine
      simpa using unmarked
    · have cut : bare ++ text.drop bare.length = text :=
        List.prefix_iff_eq_append.mp (List.takeWhile_prefix _)
      rw [closes_some, nil_of_blanks bare (by rw [cut, solid])] at closes
      rwa [closes, List.append_nil] at cut

/-- A text that nothing is trimmed off is read rightly. -/
theorem read_whole {text : List Char} (solid : Text.trim text = text) :
    ReadsRightly text (valueOfRead text (readSetting? (text.length + 2) text)) := by
  have dropped : text.dropWhile isSpace = text := by
    have start := List.dropWhile_eq_self_iff.mp (Text.trimStart_of_trim solid)
    exact List.dropWhile_eq_self_iff.mpr fun some => mt isBlank_of_isSpace (start some)
  rw [readSetting?, dropped]
  split
  · next rest =>
    refine readsRightly_of_closes ?_ fun other rest same => ?_
    · exact (closes_some.trans (nil_of_blanks ['t', 'r', 'u', 'e'] solid)).trans
        (standsForOther_word (.inl rfl))
    · cases same
  · next rest =>
    refine readsRightly_of_closes ?_ fun other rest same => ?_
    · exact (closes_some.trans (nil_of_blanks ['f', 'a', 'l', 's', 'e'] solid)).trans
        (standsForOther_word (.inr rfl))
    · cases same
  · next inside =>
    refine readsRightly_of_closes ?_ fun other rest same => ?_
    · have closes := @closes_map _ _ (readQuoted? inside.length inside)
        fun value => Json.text (String.ofList value)
      exact (closes.trans isMarked_quoted.symm).trans
        (standsForOther_iff (by decide) (by decide) (by decide)).symm
    · obtain ⟨⟨value, left⟩, quoted, same⟩ := Option.map_eq_some_iff.mp same
      have shorter := readQuoted_length quoted
      rw [← Json.text.inj (Prod.mk.inj same).1, String.length_ofList, List.length_cons]
      omega
  · next c rest =>
    refine readsRightly_of_closes ?_ fun other rest same => ?_
    · exact (closes_some.trans (nil_of_blanks ['\'', c, '\''] solid)).trans
        standsForOther_character
    · rw [← Json.text.inj (Prod.mk.inj (Option.some.inj same)).1]
      simp
  · next rest notCharacter =>
    refine readsRightly_of_closes ?_ fun other rest same => nomatch same
    rw [standsForOther_iff (by decide) (by decide) (by decide)]
    constructor
    · rintro ⟨_, _, same, -⟩
      cases same
    · intro marked
      cases marked
      exact absurd rfl (notCharacter _ _)
  · next inside =>
    refine readsRightly_of_closes ?_ fun other rest same => ?_
    · exact ((@closes_map _ _ _ Json.list).trans isMarked_list.symm).trans
        (standsForOther_iff (by decide) (by decide) (by decide)).symm
    · obtain ⟨⟨value, left⟩, -, same⟩ := Option.map_eq_some_iff.mp same
      cases same
  · next inside =>
    refine readsRightly_of_closes ?_ fun other rest same => ?_
    · exact ((@closes_map _ _ _ Json.object).trans isMarked_table.symm).trans
        (standsForOther_iff (by decide) (by decide) (by decide)).symm
    · obtain ⟨⟨value, left⟩, -, same⟩ := Option.map_eq_some_iff.mp same
      cases same
  · next notTrue notFalse notQuoted notCharacter notSingle notList notTable =>
    have unmarked : ¬ IsMarked text := by
      rintro (_ | _ | _ | _)
      · exact notQuoted _ rfl
      · exact notCharacter _ _ rfl
      · exact notList _ rfl
      · exact notTable _ rfl
    exact readsRightly_bare solid
      (standsForOther_bare ⟨fun same => notTrue [] same, fun same => notFalse [] same⟩ unmarked)

theorem valueOf_eq (value : String) : valueOf value =
    valueOfRead (Text.trim value.toList)
      (readSetting? ((Text.trim value.toList).length + 2) (Text.trim value.toList)) := by
  unfold valueOf
  dsimp only
  split
  · next none =>
    rw [List.isEmpty_iff.mp none]
    rfl
  · rfl

theorem length_trim_le (text : List Char) : (Text.trim text).length ≤ text.length :=
  (List.rdropWhile_prefix Text.isBlank _).length_le.trans (List.dropWhile_suffix _).length_le

/-- A text is read as itself exactly if nothing can be trimmed off it and it stands for nothing
else. -/
theorem valueOf_eq_text {value : String} : valueOf value = .text value ↔
    Text.trim value.toList = value.toList ∧ ¬ StandsForOther value.toList := by
  rw [valueOf_eq]
  rcases read_whole (Text.trim_trim value.toList) with ⟨stands, shorter⟩ | ⟨itself, same⟩
  · refine iff_of_false (fun same => ?_) fun ⟨solid, itself⟩ => itself (solid ▸ stands)
    exact absurd (shorter value same) (length_trim_le value.toList).not_gt
  · rw [same, Json.text.injEq, String.ext_iff, String.toList_ofList]
    exact ⟨fun solid => ⟨solid, solid ▸ itself⟩, And.left⟩

end Settings

end Metasearch
