/-
This file settles what the words of a command are read as. They are read if they can be taken apart
into flags with their values and arguments, two hyphens alone making all words behind them
arguments, such that every flag is known, is given once at most, and takes its value, and that
nothing is missing. How a flag is written does not matter: its value follows an equals sign or
its letter, or is the next word. Words ask for help if they do so behind words that can be taken
apart like that. Everything else is misuse.

In front of a command one flag is different: if its value is the word right in front of the command,
it was not looked at when the command is found. What is settled of the flags is therefore told
together with the rest of the words, and not what was read as it stands.
-/
import Metasearch.CommandLine.Reader
import Metasearch.Proofs.Outcomes

namespace Metasearch.CommandLine

/-! ### Ways to write a flag -/

/-- A word that does not look like a flag. A hyphen alone does not. -/
def IsPlain (word : String) : Prop :=
  word = "-" ∨ word.toList.head? ≠ some '-'

/-- A word names a flag, with the value of the flag if that is in the word. -/
inductive Names (flag : Flag) (word : String) : Option String → Prop
  | long (same : word = "--" ++ flag.name) : Names flag word none
  | longEquals {value : String} (same : word = "--" ++ flag.name ++ "=" ++ value) :
      Names flag word (some value)
  | short {letter : Char} (known : flag.letter = some letter)
      (same : word.toList = ['-', letter]) : Names flag word none
  | shortBefore {letter : Char} {value : String} (known : flag.letter = some letter)
      (present : value ≠ "") (unlike : value.toList.head? ≠ some '=')
      (same : word.toList = '-' :: letter :: value.toList) : Names flag word (some value)
  | shortEquals {letter : Char} {value : String} (known : flag.letter = some letter)
      (same : word.toList = '-' :: letter :: '=' :: value.toList) : Names flag word (some value)

/-- Words give a flag its value: one that has both in it, or two of which the second does not look
like a flag. -/
inductive Gives (flag : Flag) (value : String) : List String → Prop
  | together {word : String} (names : Names flag word (some value)) : Gives flag value [word]
  | apart {word : String} (names : Names flag word none) (plain : IsPlain value) :
      Gives flag value [word, value]

/-- A word asks for help. What follows the letter does not matter. -/
def AsksForHelp (word : String) : Prop :=
  word = "--help" ∨ ∃ rest, word.toList = '-' :: 'h' :: rest

/-! ### Shapes that can be told apart -/

/-- No flag of a shape can be taken for another, for help, or for no flag at all. -/
structure Shape.IsDistinct (shape : Shape) : Prop where
  names : ∀ flag ∈ shape.flags, ∀ other ∈ shape.flags, other.name = flag.name → other = flag
  letters : ∀ flag ∈ shape.flags, ∀ other ∈ shape.flags,
    other.letter.isSome → other.letter = flag.letter → other = flag
  named : ∀ flag ∈ shape.flags, flag.name ≠ "" ∧ flag.name ≠ "help" ∧ '=' ∉ flag.name.toList
  lettered : ∀ flag ∈ shape.flags, flag.letter ≠ some 'h' ∧ flag.letter ≠ some '-'

theorem find?_eq_some_of_only {Item : Type} {list : List Item} {isWanted : Item → Bool}
    {item : Item} (member : item ∈ list) (wanted : isWanted item = true)
    (only : ∀ other ∈ list, isWanted other = true → other = item) :
    list.find? isWanted = some item := by
  have present : (list.find? isWanted).isSome = true := List.find?_isSome.mpr ⟨item, member, wanted⟩
  obtain ⟨other, found⟩ := Option.isSome_iff_exists.mp present
  rw [found, only other (List.mem_of_find?_eq_some found) (List.find?_some found)]

namespace Shape.IsDistinct

variable {shape : Shape} {flag : Flag}

theorem find?_name (distinct : shape.IsDistinct) (known : flag ∈ shape.flags) :
    shape.flags.find? (·.name == flag.name) = some flag :=
  find?_eq_some_of_only known (beq_self_eq_true _) fun other among same =>
    distinct.names flag known other among (beq_iff_eq.mp same)

theorem find?_letter (distinct : shape.IsDistinct) (known : flag ∈ shape.flags) {letter : Char}
    (has : flag.letter = some letter) :
    shape.flags.find? (·.letter == some letter) = some flag :=
  find?_eq_some_of_only known (by simp [has]) fun other among same => by
    have alike : other.letter = some letter := beq_iff_eq.mp same
    exact distinct.letters flag known other among (by simp [alike]) (alike.trans has.symm)

end Shape.IsDistinct

/-! ### Words -/

theorem wordOf_of_plain {word : String} (plain : IsPlain word) : wordOf word = .plain := by
  have hyphen : word = "-" ↔ word.toList = ['-'] := by
    rw [← String.toList_inj]
    rfl
  unfold IsPlain at plain
  rw [hyphen] at plain
  unfold wordOf
  split
  · next text => simp [text] at plain
  · next text => simp [text] at plain
  · next text => simp [text] at plain
  · rfl

theorem wordOf_short {word : String} {letter : Char} {rest : List Char}
    (same : word.toList = '-' :: letter :: rest) (isLetter : letter ≠ '-') :
    wordOf word = .short letter rest := by
  unfold wordOf
  rw [same]
  split <;> simp_all

theorem wordOf_long {word : String} {text : List Char} (same : word.toList = '-' :: '-' :: text)
    (some : text ≠ []) :
    wordOf word =
      match Text.cut ['='] text with
      | .some (name, value) => .long (String.ofList name) (.some (String.ofList value))
      | none => .long (String.ofList text) none := by
  obtain ⟨c, rest, rfl⟩ := List.exists_cons_of_ne_nil some
  unfold wordOf
  rw [same]
  rfl

/-- Every word is two hyphens, or starts with two, or with one and a letter, or is plain. -/
theorem word_cases (word : String) :
    word = "--" ∨ (∃ text, text ≠ [] ∧ word.toList = '-' :: '-' :: text) ∨
      (∃ letter rest, letter ≠ '-' ∧ word.toList = '-' :: letter :: rest) ∨ IsPlain word := by
  have hyphens : word = "--" ↔ word.toList = ['-', '-'] := by
    rw [← String.toList_inj]
    rfl
  have hyphen : word = "-" ↔ word.toList = ['-'] := by
    rw [← String.toList_inj]
    rfl
  unfold IsPlain
  rw [hyphens, hyphen]
  match word.toList with
  | [] => simp
  | [c] => by_cases dash : c = '-' <;> simp [dash]
  | first :: second :: rest =>
    by_cases dash : first = '-'
    · subst dash
      by_cases both : second = '-'
      · subst both
        cases rest <;> simp
      · exact .inr (.inr (.inl ⟨second, rest, both, rfl⟩))
    · simp [dash]

/-- The text before an equals sign, and the text behind it; without such a sign, nothing is cut. -/
theorem cut_cases (text : List Char) :
    (Text.cut ['='] text = none ∧ '=' ∉ text) ∨
      ∃ name value, Text.cut ['='] text = some (name, value) ∧ text = name ++ '=' :: value ∧
        '=' ∉ name := by
  induction text with
  | nil => exact .inl ⟨rfl, List.not_mem_nil⟩
  | cons c rest inductionHypothesis =>
    by_cases equals : c = '='
    · subst equals
      exact .inr ⟨[], rest, by simp [Text.cut], rfl, List.not_mem_nil⟩
    · have step : Text.cut ['='] (c :: rest) =
          (Text.cut ['='] rest).map fun parts => (c :: parts.1, parts.2) := by
        simp [Text.cut, Ne.symm equals]
      rcases inductionHypothesis with ⟨none, absent⟩ | ⟨name, value, cut, rfl, absent⟩
      · exact .inl ⟨by rw [step, none]; rfl, by simp [Ne.symm equals, absent]⟩
      · exact .inr ⟨c :: name, value, by rw [step, cut]; rfl, rfl, by simp [Ne.symm equals, absent]⟩

theorem isPlain_of_wordOf {word : String} (plain : wordOf word = .plain) : IsPlain word := by
  rcases word_cases word with rfl | ⟨text, present, same⟩ | ⟨letter, rest, isLetter, same⟩ | done
  · cases (show wordOf "--" = .separator by rfl).symm.trans plain
  · rw [wordOf_long same present] at plain
    split at plain <;> cases plain
  · rw [wordOf_short same isLetter] at plain
    cases plain
  · exact done

/-! ### One word -/

section

variable {shape : Shape} {reading : Reading} {word : String} {flag : Flag}

theorem readFlag_long (distinct : shape.IsDistinct) (known : flag ∈ shape.flags)
    (value : Option String) :
    readFlag shape reading (.long flag.name value) = reading.meet flag value := by
  obtain ⟨-, unhelpful, -⟩ := distinct.named flag known
  simp only [readFlag, beq_false_of_ne unhelpful, distinct.find?_name known]
  rfl

theorem readFlag_short (distinct : shape.IsDistinct) (known : flag ∈ shape.flags) {letter : Char}
    (has : flag.letter = some letter) (rest : List Char) :
    letter ≠ '-' ∧
      readFlag shape reading (.short letter rest) = reading.meet flag (valueBehind rest) := by
  obtain ⟨noHelp, noHyphen⟩ := distinct.lettered flag known
  rw [has, ne_eq, Option.some.injEq] at noHelp noHyphen
  refine ⟨noHyphen, ?_⟩
  simp only [readFlag, beq_false_of_ne noHelp, distinct.find?_letter known has]
  rfl

/-- What is behind a letter is a value if it does not begin with an equals sign. -/
theorem valueBehind_of_present {value : String} (present : value ≠ "")
    (unlike : value.toList.head? ≠ some '=') : valueBehind value.toList = some value := by
  unfold valueBehind
  split
  · next none => exact absurd (String.toList_eq_nil_iff.mp none) present
  · next rest equals => simp [equals] at unlike
  · rw [String.ofList_toList]

/-- A word that names a flag is read as that flag. -/
theorem readFlag_of_names (distinct : shape.IsDistinct) (known : flag ∈ shape.flags)
    {value : Option String} (names : Names flag word value) (reading : Reading) :
    wordOf word ≠ .plain ∧ wordOf word ≠ .separator ∧
      readFlag shape reading (wordOf word) = reading.meet flag value := by
  obtain ⟨named, -, absent⟩ := distinct.named flag known
  cases names with
  | long same =>
    have present : flag.name.toList ≠ [] := by simpa using named
    have text : word.toList = '-' :: '-' :: flag.name.toList := by
      rw [same, String.toList_append]
      rfl
    obtain ⟨uncut, -⟩ | ⟨name, value, -, whole, -⟩ := cut_cases flag.name.toList
    · rw [wordOf_long text present, uncut, String.ofList_toList]
      exact ⟨nofun, nofun, readFlag_long distinct known none⟩
    · exact absurd (whole ▸ List.mem_append_right name List.mem_cons_self) absent
  | @longEquals value same =>
    have text : word.toList = '-' :: '-' :: (flag.name.toList ++ '=' :: value.toList) := by
      rw [same]
      simp only [String.toList_append, List.append_assoc]
      rfl
    rw [wordOf_long text (by simp), Text.cut_single absent]
    simp only [String.ofList_toList]
    exact ⟨nofun, nofun, readFlag_long distinct known (some value)⟩
  | @short letter has same =>
    obtain ⟨isLetter, met⟩ := readFlag_short distinct known has []
    rw [wordOf_short same isLetter]
    exact ⟨nofun, nofun, met⟩
  | @shortBefore letter value has present unlike same =>
    obtain ⟨isLetter, met⟩ := readFlag_short distinct known has value.toList
    rw [wordOf_short same isLetter, met, valueBehind_of_present present unlike]
    exact ⟨nofun, nofun, rfl⟩
  | @shortEquals letter value has same =>
    obtain ⟨isLetter, met⟩ := readFlag_short distinct known has ('=' :: value.toList)
    rw [wordOf_short same isLetter, met, valueBehind, String.ofList_toList]
    exact ⟨nofun, nofun, rfl⟩

/-- A word that asks for help is answered with help. -/
theorem readFlag_of_asksForHelp (asks : AsksForHelp word) (shape : Shape) (reading : Reading) :
    wordOf word ≠ .plain ∧ wordOf word ≠ .separator ∧
      readFlag shape reading (wordOf word) = .error (.help shape.help) := by
  rcases asks with rfl | ⟨rest, same⟩
  · have long : wordOf "--help" = .long "help" none := by rfl
    rw [long]
    exact ⟨nofun, nofun, rfl⟩
  · rw [wordOf_short same (by decide)]
    exact ⟨nofun, nofun, rfl⟩

theorem readFlag_long_cases (shape : Shape) (name : String) :
    name = "help" ∨ (∃ flag ∈ shape.flags, flag.name = name) ∨
      ∀ value reading, readFlag shape reading (.long name value) = .error .misuse := by
  by_cases helpful : name = "help"
  · exact .inl helpful
  · cases found : shape.flags.find? (·.name == name) with
    | some flag =>
      exact .inr (.inl ⟨flag, List.mem_of_find?_eq_some found,
        by simpa using List.find?_some found⟩)
    | none =>
      refine .inr (.inr fun value reading => ?_)
      simp only [readFlag, beq_false_of_ne helpful, found]
      rfl

theorem readFlag_short_cases (shape : Shape) (letter : Char) :
    letter = 'h' ∨ (∃ flag ∈ shape.flags, flag.letter = some letter) ∨
      ∀ rest reading, readFlag shape reading (.short letter rest) = .error .misuse := by
  by_cases helpful : letter = 'h'
  · exact .inl helpful
  · cases found : shape.flags.find? (·.letter == some letter) with
    | some flag =>
      exact .inr (.inl ⟨flag, List.mem_of_find?_eq_some found,
        by simpa using List.find?_some found⟩)
    | none =>
      refine .inr (.inr fun rest reading => ?_)
      simp only [readFlag, beq_false_of_ne helpful, found]
      rfl

/-- A letter and what follows it name a flag that has the letter. -/
theorem names_of_letter {letter : Char} {rest : List Char} (has : flag.letter = some letter)
    (same : word.toList = '-' :: letter :: rest) : ∃ value, Names flag word value := by
  cases rest with
  | nil => exact ⟨none, .short has same⟩
  | cons c value =>
    by_cases equals : c = '='
    · subst equals
      exact ⟨some (String.ofList value), .shortEquals has (by rw [same, String.toList_ofList])⟩
    · exact ⟨some (String.ofList (c :: value)), .shortBefore has (by simp)
        (by simpa using equals) (by rw [same, String.toList_ofList])⟩

/-- A word that looks like a flag asks for help, or names a flag, or is misuse. -/
theorem flagWord_cases (distinguished : ¬ IsPlain word) (dashed : word ≠ "--") (shape : Shape) :
    AsksForHelp word ∨ (∃ flag ∈ shape.flags, ∃ value, Names flag word value) ∨
      (wordOf word ≠ .plain ∧ wordOf word ≠ .separator ∧
        ∀ reading, readFlag shape reading (wordOf word) = .error .misuse) := by
  rcases word_cases word with rfl | ⟨text, present, same⟩ | ⟨letter, rest, isLetter, same⟩ | plain
  · exact absurd rfl dashed
  · have written : word = "--" ++ String.ofList text := by
      rw [← String.toList_inj, same]
      simp
    rw [wordOf_long same present]
    rcases cut_cases text with ⟨uncut, -⟩ | ⟨name, value, cut, rfl, -⟩
    · rw [uncut]
      rcases readFlag_long_cases shape (String.ofList text) with
        helpful | ⟨flag, known, named⟩ | not
      · exact .inl (.inl (by rw [written, helpful]; rfl))
      · exact .inr (.inl ⟨flag, known, none, .long (named ▸ written)⟩)
      · exact .inr (.inr ⟨nofun, nofun, not none⟩)
    · rw [cut]
      rcases readFlag_long_cases shape (String.ofList name) with
        helpful | ⟨flag, known, named⟩ | not
      · refine .inr (.inr ⟨nofun, nofun, fun reading => ?_⟩)
        simp only [readFlag, helpful]
        rfl
      · refine .inr (.inl ⟨flag, known, some (String.ofList value), .longEquals ?_⟩)
        rw [written, named, ← String.toList_inj]
        simp
      · exact .inr (.inr ⟨nofun, nofun, not _⟩)
  · rw [wordOf_short same isLetter]
    rcases readFlag_short_cases shape letter with rfl | ⟨flag, known, has⟩ | not
    · exact .inl (.inr ⟨rest, same⟩)
    · exact .inr (.inl ⟨flag, known, names_of_letter has same⟩)
    · exact .inr (.inr ⟨nofun, nofun, not rest⟩)
  · exact absurd plain distinguished

/-! ### Reading on -/

theorem pending_of_settle {settled : Reading} (done : reading.settle = .ok settled) :
    settled.pending = none := by
  unfold Reading.settle at done
  split at done
  · next free =>
    obtain rfl := Except.ok.inj done
    exact free
  · unfold Reading.give at done
    split at done
    · cases done
    · obtain rfl := Except.ok.inj done
      rfl
  · cases done

theorem settle_of_pending (free : reading.pending = none) : reading.settle = .ok reading := by
  rw [Reading.settle, free]

/-- What is settled stays so. -/
theorem settle_bind {Value : Type} (reading : Reading) (next : Reading → Except Stop Value) :
    (reading.settle >>= fun settled => settled.settle >>= next) = reading.settle >>= next := by
  cases done : reading.settle with
  | error stop => rfl
  | ok settled =>
    change (settled.settle >>= next) = next settled
    rw [settle_of_pending (pending_of_settle done)]
    rfl

theorem readWords_nil (shape : Shape) (reading : Reading) :
    readWords shape reading [] =
      (reading.settle >>= fun settled =>
        settled.finish shape >>= fun whole => .ok (whole, [])) := by
  rw [readWords]
  cases reading.settle <;> rfl

theorem readWords_of_flag (notPlain : wordOf word ≠ .plain)
    (notSeparator : wordOf word ≠ .separator) (words : List String) :
    readWords shape reading (word :: words) =
      (reading.settle >>= fun settled =>
        readFlag shape settled (wordOf word) >>= fun next => readWords shape next words) := by
  rw [readWords]
  cases isWord : wordOf word with
  | plain => exact absurd isWord notPlain
  | separator => exact absurd isWord notSeparator
  | long name value => rcases reading.pending with _ | ⟨_, _ | _⟩ <;> rfl
  | short letter rest => rcases reading.pending with _ | ⟨_, _ | _⟩ <;> rfl

theorem readWords_separator (separator : wordOf word = .separator) (words : List String) :
    readWords shape reading (word :: words) =
      (reading.settle >>= fun settled => settled.take shape words >>= fun taken =>
        taken.finish shape >>= fun whole => .ok (whole, [])) := by
  rw [readWords, separator]
  rcases reading.pending with _ | ⟨_, _ | _⟩ <;> cases reading.settle <;> rfl

theorem readWords_of_plain (ready : ∀ flag, reading.pending ≠ some (flag, none))
    (plain : IsPlain word) (words : List String) :
    readWords shape reading (word :: words) =
      if shape.commands.isEmpty then
        (reading.settle >>= fun settled =>
          settled.take shape [word] >>= fun taken => readWords shape taken words)
      else .ok (reading, word :: words) := by
  rw [readWords, wordOf_of_plain plain]
  rcases pending : reading.pending with _ | ⟨flag, _ | value⟩
  · rfl
  · exact absurd pending (ready flag)
  · rfl

/-- A reading with a flag that was given the word before, which was not looked at. -/
def Reading.hold (reading : Reading) (flag : Flag) (value : String) : Reading :=
  { reading with pending := some (flag, some value) }

theorem ready_hold (flag : Flag) (value : String) (other : Flag) :
    (reading.hold flag value).pending ≠ some (other, none) := by
  rintro ⟨⟩

/-- A flag whose value is still to come takes the next word for it. -/
theorem readWords_awaiting (waits : reading.pending = some (flag, none)) (words : List String) :
    (∃ value rest, words = value :: rest ∧ IsPlain value ∧
        readWords shape reading words = readWords shape (reading.hold flag value) rest) ∨
      ((∀ value rest, words = value :: rest → ¬ IsPlain value) ∧
        readWords shape reading words = .error .misuse) := by
  have unsettled : reading.settle = .error .misuse := by rw [Reading.settle, waits]
  cases words with
  | nil =>
    refine .inr ⟨nofun, ?_⟩
    rw [readWords_nil, unsettled]
    rfl
  | cons value rest =>
    by_cases plain : IsPlain value
    · refine .inl ⟨value, rest, rfl, plain, ?_⟩
      rw [readWords, waits, wordOf_of_plain plain]
      rfl
    · refine .inr ⟨?_, ?_⟩
      · rintro _ _ ⟨⟩
        exact plain
      · by_cases separator : wordOf value = .separator
        · rw [readWords_separator separator, unsettled]
          rfl
        · rw [readWords_of_flag (mt isPlain_of_wordOf plain) separator, unsettled]
          rfl

/-- There are commands, and words begin with what stands in the place of one. -/
def MeetsCommand (shape : Shape) (words : List String) : Prop :=
  shape.commands ≠ [] ∧ ∃ name rest, words = name :: rest ∧ IsPlain name

/-- Unless a command follows, what was not looked at is so now. -/
theorem readWords_hold (flag : Flag) (value : String) {words : List String}
    (noCommand : ¬ MeetsCommand shape words) :
    readWords shape (reading.hold flag value) words =
      ((reading.hold flag value).settle >>= fun settled => readWords shape settled words) := by
  have ready := @ready_hold reading flag value
  generalize reading.hold flag value = held at ready ⊢
  cases words with
  | nil => simp only [readWords_nil, settle_bind]
  | cons word words =>
    by_cases plain : IsPlain word
    · have noCommands : shape.commands.isEmpty = true := by
        by_cases commands : shape.commands = []
        · simp [commands]
        · exact absurd ⟨commands, word, words, rfl, plain⟩ noCommand
      rw [readWords_of_plain ready plain, if_pos noCommands]
      cases done : held.settle with
      | error stop => rfl
      | ok settled =>
        have free := pending_of_settle done
        change _ = readWords shape settled (word :: words)
        rw [readWords_of_plain (by simp [free]) plain, if_pos noCommands, settle_of_pending free]
    · by_cases separator : wordOf word = .separator
      · simp only [readWords_separator separator, settle_bind]
      · simp only [readWords_of_flag (mt isPlain_of_wordOf plain) separator, settle_bind]

theorem pending_of_finish {whole : Reading} (free : reading.pending = none)
    (finished : reading.finish shape = .ok whole) : whole.pending = none := by
  simp only [Reading.finish] at finished
  split at finished
  · cases finished
  · obtain rfl := Except.ok.inj finished
    exact free

theorem pending_of_take {taken : Reading} {arguments : List String} (free : reading.pending = none)
    (took : reading.take shape arguments = .ok taken) : taken.pending = none := by
  simp only [Reading.take] at took
  split at took
  · obtain rfl := Except.ok.inj took
    exact free
  · cases took

/-- Without commands to choose from, every flag is looked at, and no word is left. -/
theorem pending_of_readWords (noCommands : shape.commands = []) {words rest : List String}
    {last : Reading} (read : readWords shape reading words = .ok (last, rest)) :
    last.pending = none ∧ rest = [] := by
  induction words generalizing reading with
  | nil =>
    rw [readWords_nil] at read
    obtain ⟨settled, done, read⟩ := except_of_bind read
    obtain ⟨whole, finished, read⟩ := except_of_bind read
    cases read
    exact ⟨pending_of_finish (pending_of_settle done) finished, rfl⟩
  | cons word words inductionHypothesis =>
    by_cases plain : IsPlain word
    · by_cases waits : ∃ flag, reading.pending = some (flag, none)
      · obtain ⟨flag, waits⟩ := waits
        rcases @readWords_awaiting shape reading flag waits (word :: words) with
          ⟨_, _, ⟨⟩, -, held⟩ | ⟨never, -⟩
        · exact inductionHypothesis (held.symm.trans read)
        · exact absurd plain (never word words rfl)
      · rw [readWords_of_plain (not_exists.mp waits) plain, if_pos (by simp [noCommands])] at read
        obtain ⟨settled, -, read⟩ := except_of_bind read
        obtain ⟨taken, -, read⟩ := except_of_bind read
        exact inductionHypothesis read
    · by_cases separator : wordOf word = .separator
      · rw [readWords_separator separator] at read
        obtain ⟨settled, done, read⟩ := except_of_bind read
        obtain ⟨taken, took, read⟩ := except_of_bind read
        obtain ⟨whole, finished, read⟩ := except_of_bind read
        cases read
        exact ⟨pending_of_finish (pending_of_take (pending_of_settle done) took) finished, rfl⟩
      · rw [readWords_of_flag (mt isPlain_of_wordOf plain) separator] at read
        obtain ⟨settled, -, read⟩ := except_of_bind read
        obtain ⟨next, -, read⟩ := except_of_bind read
        exact inductionHypothesis read

end

/-! ### Lines -/

/-- Words are flags with their values and arguments, if there can be arguments. -/
inductive Line (shape : Shape) : List (Flag × String) → List String → List String → Prop
  | nil : Line shape [] [] []
  | flag {flag : Flag} {value : String} {here : List String} {given : List (Flag × String)}
      {arguments words : List String} (known : flag ∈ shape.flags) (gives : Gives flag value here)
      (behind : Line shape given arguments words) :
      Line shape ((flag, value) :: given) arguments (here ++ words)
  | argument {word : String} {given : List (Flag × String)} {arguments words : List String}
      (takes : shape.commands = []) (plain : IsPlain word)
      (behind : Line shape given arguments words) :
      Line shape given (word :: arguments) (word :: words)

/-- Flags and arguments can stand together: no flag twice, each with a value that it takes, and no
more arguments than there can be. -/
structure Fits (shape : Shape) (given : List (Flag × String)) (arguments : List String) :
    Prop where
  once : (given.map fun pair => pair.1.name).Nodup
  admitted : ∀ pair ∈ given, pair.1.kind.admits pair.2 = true
  few : arguments.length ≤ shape.arguments.length

/-- Flags and arguments can stand together, and nothing is missing. -/
structure IsWhole (shape : Shape) (given : List (Flag × String)) (arguments : List String) : Prop
    extends Fits shape given arguments where
  enough : shape.arguments.length ≤ arguments.length
  needed : ∀ flag ∈ shape.flags, flag.isNeeded = true →
    flag.name ∈ given.map fun pair => pair.1.name

instance (shape : Shape) (given : List (Flag × String)) (arguments : List String) :
    Decidable (Fits shape given arguments) :=
  decidable_of_iff
    ((given.map fun pair => pair.1.name).Nodup ∧
      (∀ pair ∈ given, pair.1.kind.admits pair.2 = true) ∧
      arguments.length ≤ shape.arguments.length)
    ⟨fun ⟨once, admitted, few⟩ => ⟨once, admitted, few⟩,
      fun fits => ⟨fits.once, fits.admitted, fits.few⟩⟩

instance (shape : Shape) (given : List (Flag × String)) (arguments : List String) :
    Decidable (IsWhole shape given arguments) :=
  decidable_of_iff
    (Fits shape given arguments ∧ shape.arguments.length ≤ arguments.length ∧
      ∀ flag ∈ shape.flags, flag.isNeeded = true →
        flag.name ∈ given.map fun pair => pair.1.name)
    ⟨fun ⟨fits, enough, needed⟩ => ⟨fits, enough, needed⟩,
      fun whole => ⟨whole.toFits, whole.enough, whole.needed⟩⟩

/-- Flags and arguments as they are kept while words are read. -/
def readingOf (given : List (Flag × String)) (arguments : List String) : Reading :=
  ⟨given.map fun pair => (pair.1.name, pair.2), none, arguments⟩

section

variable {shape : Shape} {given more : List (Flag × String)} {arguments others words : List String}

theorem Fits.of_append (fits : Fits shape (given ++ more) (arguments ++ others)) :
    Fits shape given arguments where
  once := by
    have all := fits.once
    rw [List.map_append] at all
    exact (List.nodup_append.mp all).1
  admitted pair member := fits.admitted pair (List.mem_append_left _ member)
  few := by
    have all := fits.few
    rw [List.length_append] at all
    omega

theorem fits_append_flag {flag : Flag} {value : String} :
    Fits shape (given ++ [(flag, value)]) arguments ↔
      Fits shape given arguments ∧ (flag.name ∉ given.map fun pair => pair.1.name) ∧
        flag.kind.admits value = true := by
  constructor
  · intro fits
    have same := fits
    rw [← List.append_nil arguments] at same
    refine ⟨same.of_append, ?_, ?_⟩
    · have once := fits.once
      rw [List.map_append, List.nodup_append] at once
      exact fun member => once.2.2 _ member _ List.mem_cons_self rfl
    · exact fits.admitted (flag, value) (by simp)
  · rintro ⟨fits, fresh, admitted⟩
    refine ⟨?_, ?_, fits.few⟩
    · rw [List.map_append, List.nodup_append]
      refine ⟨fits.once, by simp, ?_⟩
      rintro name member _ same rfl
      rw [List.map_singleton, List.mem_singleton] at same
      exact fresh (same ▸ member)
    · simpa [or_imp, forall_and, admitted] using fits.admitted

theorem lookup_isSome_iff {list : List (String × String)} {name : String} :
    (list.lookup name).isSome = true ↔ name ∈ list.map Prod.fst := by
  induction list with
  | nil => simp
  | cons head rest inductionHypothesis =>
    rw [List.lookup_cons, List.map_cons, List.mem_cons, ← inductionHypothesis]
    cases same : name == head.1 with
    | true => simp [beq_iff_eq.mp same]
    | false => simp [beq_eq_false_iff_ne.mp same]

/-- A flag is taken exactly if it still fits. -/
theorem give_readingOf (fits : Fits shape given arguments) (flag : Flag) (value : String)
    (pending : Option (Flag × Option String)) :
    Reading.give { readingOf given arguments with pending } flag value =
      if Fits shape (given ++ [(flag, value)]) arguments then
        .ok (readingOf (given ++ [(flag, value)]) arguments)
      else .error .misuse := by
  have taken : (((readingOf given arguments).values.lookup flag.name).isSome = true) ↔
      flag.name ∈ given.map fun pair => pair.1.name := by
    rw [lookup_isSome_iff, readingOf, List.map_map]
    rfl
  have still : Fits shape (given ++ [(flag, value)]) arguments ↔
      ¬ ((readingOf given arguments).values.lookup flag.name).isSome = true ∧
        flag.kind.admits value = true := by
    rw [fits_append_flag, and_iff_right fits, taken]
  simp only [still]
  unfold Reading.give
  cases ((readingOf given arguments).values.lookup flag.name).isSome <;>
    cases flag.kind.admits value <;> simp [readingOf]

/-- Arguments are taken exactly if they still fit. -/
theorem take_readingOf (fits : Fits shape given arguments) (others : List String) :
    Reading.take shape (readingOf given arguments) others =
      if Fits shape given (arguments ++ others) then .ok (readingOf given (arguments ++ others))
      else .error .misuse := by
  have still : Fits shape given (arguments ++ others) ↔
      (arguments ++ others).length ≤ shape.arguments.length :=
    ⟨Fits.few, fun few => ⟨fits.once, fits.admitted, few⟩⟩
  simp only [still]
  rfl

/-- A reading can end exactly if nothing is missing. -/
theorem finish_readingOf (fits : Fits shape given arguments) :
    Reading.finish shape (readingOf given arguments) =
      if IsWhole shape given arguments then .ok (readingOf given arguments)
      else .error .misuse := by
  have isGiven : ∀ flag : Flag,
      (((readingOf given arguments).values.lookup flag.name).isSome = true) ↔
        flag.name ∈ given.map fun pair => pair.1.name := by
    intro flag
    rw [lookup_isSome_iff, readingOf, List.map_map]
    rfl
  have needed : (shape.flags.all fun flag => !flag.isNeeded ||
        ((readingOf given arguments).values.lookup flag.name).isSome) = true ↔
      ∀ flag ∈ shape.flags, flag.isNeeded = true →
        flag.name ∈ given.map fun pair => pair.1.name := by
    simp only [List.all_eq_true, Bool.or_eq_true, isGiven, Bool.not_eq_true']
    exact forall₂_congr fun flag _ => by cases flag.isNeeded <;> simp
  have whole : IsWhole shape given arguments ↔ ¬ arguments.length < shape.arguments.length ∧
      (shape.flags.all fun flag => !flag.isNeeded ||
        ((readingOf given arguments).values.lookup flag.name).isSome) = true := by
    rw [needed, Nat.not_lt]
    exact ⟨fun whole => ⟨whole.enough, whole.needed⟩,
      fun ⟨enough, needed⟩ => ⟨fits, enough, needed⟩⟩
  simp only [whole]
  change (if (decide (arguments.length < shape.arguments.length) ||
    !(shape.flags.all fun flag => !flag.isNeeded ||
      ((readingOf given arguments).values.lookup flag.name).isSome)) = true then _ else _) = _
  cases shape.flags.all fun flag => !flag.isNeeded ||
      ((readingOf given arguments).values.lookup flag.name).isSome <;>
    by_cases enough : arguments.length < shape.arguments.length <;> simp [enough]

/-! ### Reading lines -/

/-- What reading comes to, with what is settled of the flags instead of what was read. -/
def told (outcome : Except Stop (Reading × List String)) :
    Except Stop (Except Stop Reading × List String) :=
  outcome.map fun (reading, rest) => (reading.settle, rest)

theorem settle_readingOf (given : List (Flag × String)) (arguments : List String) :
    (readingOf given arguments).settle = .ok (readingOf given arguments) := rfl

theorem ready_readingOf (flag : Flag) :
    (readingOf given arguments).pending ≠ some (flag, none) := by
  rintro ⟨⟩

theorem settle_hold (fits : Fits shape given arguments) (flag : Flag) (value : String) :
    ((readingOf given arguments).hold flag value).settle =
      if Fits shape (given ++ [(flag, value)]) arguments then
        .ok (readingOf (given ++ [(flag, value)]) arguments)
      else .error .misuse :=
  give_readingOf fits flag value _

/-- An argument. -/
theorem readWords_argument {word : String} (takes : shape.commands = []) (plain : IsPlain word)
    (fits : Fits shape given arguments) (words : List String) :
    readWords shape (readingOf given arguments) (word :: words) =
      if Fits shape given (arguments ++ [word]) then
        readWords shape (readingOf given (arguments ++ [word])) words
      else .error .misuse := by
  rw [readWords_of_plain ready_readingOf plain, if_pos (by simp [takes]), settle_readingOf]
  change (Reading.take shape (readingOf given arguments) [word] >>= _) = _
  rw [take_readingOf fits]
  split <;> rfl

/-- The end of the words. -/
theorem readWords_end (fits : Fits shape given arguments) :
    readWords shape (readingOf given arguments) [] =
      if IsWhole shape given arguments then .ok (readingOf given arguments, [])
      else .error .misuse := by
  rw [readWords_nil, settle_readingOf]
  change (Reading.finish shape (readingOf given arguments) >>= _) = _
  rw [finish_readingOf fits]
  split <;> rfl

/-- Two hyphens, which make all words behind them arguments. -/
theorem readWords_dashes (fits : Fits shape given arguments) (words : List String) :
    readWords shape (readingOf given arguments) ("--" :: words) =
      if IsWhole shape given (arguments ++ words) then
        .ok (readingOf given (arguments ++ words), [])
      else .error .misuse := by
  have separator : wordOf "--" = .separator := by rfl
  rw [readWords_separator separator, settle_readingOf]
  change (Reading.take shape (readingOf given arguments) words >>= _) = _
  rw [take_readingOf fits]
  by_cases more : Fits shape given (arguments ++ words)
  · rw [if_pos more]
    change (Reading.finish shape (readingOf given (arguments ++ words)) >>= _) = _
    rw [finish_readingOf more]
    split <;> rfl
  · have missing : ¬ IsWhole shape given (arguments ++ words) := fun whole => more whole.toFits
    rw [if_neg more, if_neg missing]
    rfl

/-- A word that looks like a flag. -/
theorem readWords_flag {word : String} (notPlain : wordOf word ≠ .plain)
    (notSeparator : wordOf word ≠ .separator) (words : List String) :
    readWords shape (readingOf given arguments) (word :: words) =
      (readFlag shape (readingOf given arguments) (wordOf word) >>= fun next =>
        readWords shape next words) := by
  rw [readWords_of_flag notPlain notSeparator, settle_readingOf]
  rfl

/-- A flag with its value in the same word. -/
theorem readWords_together (distinct : shape.IsDistinct) {flag : Flag} {value word : String}
    (known : flag ∈ shape.flags) (names : Names flag word (some value))
    (fits : Fits shape given arguments) (words : List String) :
    readWords shape (readingOf given arguments) (word :: words) =
      if Fits shape (given ++ [(flag, value)]) arguments then
        readWords shape (readingOf (given ++ [(flag, value)]) arguments) words
      else .error .misuse := by
  obtain ⟨notPlain, notSeparator, met⟩ := readFlag_of_names distinct known names
    (readingOf given arguments)
  rw [readWords_flag notPlain notSeparator, met]
  change (Reading.give { readingOf given arguments with pending := none } flag value >>= _) = _
  rw [give_readingOf fits]
  split <;> rfl

/-- A flag whose value is to come. -/
theorem readWords_name (distinct : shape.IsDistinct) {flag : Flag} {word : String}
    (known : flag ∈ shape.flags) (names : Names flag word none) (words : List String) :
    readWords shape (readingOf given arguments) (word :: words) =
      readWords shape { readingOf given arguments with pending := some (flag, none) } words := by
  obtain ⟨notPlain, notSeparator, met⟩ := readFlag_of_names distinct known names
    (readingOf given arguments)
  rw [readWords_flag notPlain notSeparator, met]
  rfl

/-- A flag with its value in the next word, which is not looked at. -/
theorem readWords_apart (distinct : shape.IsDistinct) {flag : Flag} {value word : String}
    (known : flag ∈ shape.flags) (names : Names flag word none) (plain : IsPlain value)
    (words : List String) :
    readWords shape (readingOf given arguments) (word :: value :: words) =
      readWords shape ((readingOf given arguments).hold flag value) words := by
  rw [readWords_name distinct known names]
  rcases @readWords_awaiting shape ⟨_, some (flag, none), arguments⟩ flag rfl (value :: words) with
    ⟨_, _, ⟨⟩, -, held⟩ | ⟨never, -⟩
  · exact held
  · exact absurd plain (never value words rfl)

/-- Behind a flag that fits, what is told does not depend on whether it was looked at. -/
theorem told_hold (fits : Fits shape given arguments) {flag : Flag} {value : String}
    (more : Fits shape (given ++ [(flag, value)]) arguments) (words : List String) :
    told (readWords shape ((readingOf given arguments).hold flag value) words) =
      told (readWords shape (readingOf (given ++ [(flag, value)]) arguments) words) := by
  have settled := settle_hold fits flag value
  rw [if_pos more] at settled
  by_cases meets : MeetsCommand shape words
  · obtain ⟨commands, name, rest, rfl, plain⟩ := meets
    have noneTaken : ¬ shape.commands.isEmpty = true := by simpa using commands
    rw [readWords_of_plain (ready_hold flag value) plain, readWords_of_plain ready_readingOf plain,
      if_neg noneTaken, if_neg noneTaken]
    exact congrArg (fun first => Except.ok (first, name :: rest)) settled
  · rw [readWords_hold flag value meets, settled]
    rfl

/-- Words that give a flag its value are read as the flag. -/
theorem told_of_gives (distinct : shape.IsDistinct) {flag : Flag} {value : String}
    {here : List String} (known : flag ∈ shape.flags) (gives : Gives flag value here)
    (more : Fits shape (given ++ [(flag, value)]) arguments) (words : List String) :
    told (readWords shape (readingOf given arguments) (here ++ words)) =
      told (readWords shape (readingOf (given ++ [(flag, value)]) arguments) words) := by
  have fits := (fits_append_flag.mp more).1
  cases gives with
  | together names =>
    rw [List.singleton_append, readWords_together distinct known names fits, if_pos more]
  | apart names plain =>
    rw [List.cons_append, List.singleton_append, readWords_apart distinct known names plain]
    exact told_hold fits more words

/-- One flag or argument, and by induction a line: if all of it fits, reading goes on behind
it. -/
theorem told_of_line (distinct : shape.IsDistinct) (line : Line shape more others words)
    (fits : Fits shape (given ++ more) (arguments ++ others)) (behind : List String) :
    told (readWords shape (readingOf given arguments) (words ++ behind)) =
      told (readWords shape (readingOf (given ++ more) (arguments ++ others)) behind) := by
  induction line generalizing given arguments with
  | nil => simp
  | @flag flag value here more others words known gives line inductionHypothesis =>
    have all := fits
    rw [← List.singleton_append, ← List.append_assoc] at all
    have upTo : Fits shape (given ++ [(flag, value)]) arguments := all.of_append
    rw [List.append_assoc, told_of_gives distinct known gives upTo, inductionHypothesis all,
      List.append_assoc]
    rfl
  | @argument word more others words takes plain line inductionHypothesis =>
    have all := fits
    rw [← List.singleton_append, ← List.append_assoc] at all
    have upTo : Fits shape given (arguments ++ [word]) := all.of_append
    have here : Fits shape given arguments := by
      have same := upTo
      rw [← List.append_nil given] at same
      exact same.of_append
    rw [List.cons_append, readWords_argument takes plain here, if_pos upTo]
    exact (inductionHypothesis all).trans (by simp)

/-- What can follow a line, and what reading then comes to: its end, arguments behind two hyphens,
a call for help, or a command if there are commands. In front of a command there may also be a flag
that cannot be given its value, which comes out once the command was read. -/
inductive Ends (shape : Shape) (given : List (Flag × String)) (arguments : List String) :
    List String → Except Stop (Except Stop Reading × List String) → Prop
  | here (whole : IsWhole shape given arguments) :
      Ends shape given arguments [] (.ok (.ok (readingOf given arguments), []))
  | separated {words : List String} (whole : IsWhole shape given (arguments ++ words)) :
      Ends shape given arguments ("--" :: words)
        (.ok (.ok (readingOf given (arguments ++ words)), []))
  | help {word : String} {words : List String} (asks : AsksForHelp word) :
      Ends shape given arguments (word :: words) (.error (.help shape.help))
  | command {name : String} {words : List String} (commands : shape.commands ≠ [])
      (plain : IsPlain name) :
      Ends shape given arguments (name :: words)
        (.ok (.ok (readingOf given arguments), name :: words))
  | refused {flag : Flag} {word value name : String} {words : List String}
      (commands : shape.commands ≠ []) (known : flag ∈ shape.flags) (names : Names flag word none)
      (isValue : IsPlain value) (plain : IsPlain name)
      (unfit : ¬ Fits shape (given ++ [(flag, value)]) arguments) :
      Ends shape given arguments (word :: value :: name :: words)
        (.ok (.error .misuse, name :: words))

theorem told_of_ends (distinct : shape.IsDistinct)
    {outcome : Except Stop (Except Stop Reading × List String)} (fits : Fits shape given arguments)
    (ends : Ends shape given arguments words outcome) :
    told (readWords shape (readingOf given arguments) words) = outcome := by
  cases ends with
  | here whole =>
    rw [readWords_end fits, if_pos whole]
    rfl
  | separated whole =>
    rw [readWords_dashes fits, if_pos whole]
    rfl
  | help asks =>
    obtain ⟨notPlain, notSeparator, helped⟩ :=
      readFlag_of_asksForHelp asks shape (readingOf given arguments)
    rw [readWords_flag notPlain notSeparator, helped]
    rfl
  | command commands plain =>
    rw [readWords_of_plain ready_readingOf plain, if_neg (by simpa using commands)]
    rfl
  | @refused flag word value name words commands known names isValue plain unfit =>
    have unsettled := settle_hold fits flag value
    rw [if_neg unfit] at unsettled
    rw [readWords_apart distinct known names isValue,
      readWords_of_plain (ready_hold flag value) plain, if_neg (by simpa using commands)]
    exact congrArg (fun first => Except.ok (first, name :: words)) unsettled

/-- Behind flags and arguments, words are a line that fits to these and what can follow it. -/
def IsReadAs (shape : Shape) (given : List (Flag × String)) (arguments words : List String)
    (outcome : Except Stop (Except Stop Reading × List String)) : Prop :=
  ∃ more others front back, words = front ++ back ∧ Line shape more others front ∧
    Fits shape (given ++ more) (arguments ++ others) ∧
    Ends shape (given ++ more) (arguments ++ others) back outcome

namespace IsReadAs

variable {outcome : Except Stop (Except Stop Reading × List String)}

theorem ends (fits : Fits shape given arguments) (ends : Ends shape given arguments words outcome) :
    IsReadAs shape given arguments words outcome :=
  ⟨[], [], [], words, rfl, .nil, by simpa using fits, by simpa using ends⟩

theorem argument {word : String} (takes : shape.commands = []) (plain : IsPlain word)
    (behind : IsReadAs shape given (arguments ++ [word]) words outcome) :
    IsReadAs shape given arguments (word :: words) outcome := by
  obtain ⟨more, others, front, back, rfl, line, fits, ends⟩ := behind
  exact ⟨more, word :: others, word :: front, back, rfl, .argument takes plain line,
    by simpa using fits, by simpa using ends⟩

theorem flag {flag : Flag} {value : String} {here : List String} (known : flag ∈ shape.flags)
    (gives : Gives flag value here)
    (behind : IsReadAs shape (given ++ [(flag, value)]) arguments words outcome) :
    IsReadAs shape given arguments (here ++ words) outcome := by
  obtain ⟨more, others, front, back, rfl, line, fits, ends⟩ := behind
  exact ⟨(flag, value) :: more, others, here ++ front, back, (List.append_assoc _ _ _).symm,
    .flag known gives line, by simpa using fits, by simpa using ends⟩

end IsReadAs

theorem told_of_isReadAs (distinct : shape.IsDistinct)
    {outcome : Except Stop (Except Stop Reading × List String)}
    (read : IsReadAs shape given arguments words outcome) :
    told (readWords shape (readingOf given arguments) words) = outcome := by
  obtain ⟨more, others, front, back, rfl, line, fits, ends⟩ := read
  rw [told_of_line distinct line fits, told_of_ends distinct fits ends]

/-- A word that names a flag gives it a value, alone or with the next word, or is misuse. -/
theorem gives_or_misuse (distinct : shape.IsDistinct) {flag : Flag} (known : flag ∈ shape.flags)
    {word : String} {value : Option String} (names : Names flag word value) (words : List String) :
    (∃ value here behind, Gives flag value here ∧ word :: words = here ++ behind ∧
        behind.length ≤ words.length) ∨
      readWords shape (readingOf given arguments) (word :: words) = .error .misuse := by
  cases value with
  | some value => exact .inl ⟨value, [word], words, .together names, rfl, Nat.le_refl _⟩
  | none =>
    rcases @readWords_awaiting shape ⟨_, some (flag, none), arguments⟩ flag rfl words with
      ⟨value, rest, rfl, plain, -⟩ | ⟨-, misuse⟩
    · exact .inl ⟨value, [word, value], rest, .apart names plain, rfl, Nat.le_succ _⟩
    · rw [readWords_name distinct known names]
      exact .inr misuse

/-- A flag that cannot be given its value is misuse, unless a command follows right behind it. -/
theorem refused_or_misuse (distinct : shape.IsDistinct) {flag : Flag} {value : String}
    {here : List String} (known : flag ∈ shape.flags) (gives : Gives flag value here)
    (fits : Fits shape given arguments)
    (unfit : ¬ Fits shape (given ++ [(flag, value)]) arguments) (words : List String) :
    (∃ outcome, Ends shape given arguments (here ++ words) outcome) ∨
      readWords shape (readingOf given arguments) (here ++ words) = .error .misuse := by
  cases gives with
  | together names =>
    rw [List.singleton_append, readWords_together distinct known names fits, if_neg unfit]
    exact .inr rfl
  | @apart word names plain =>
    by_cases meets : MeetsCommand shape words
    · obtain ⟨commands, name, rest, rfl, isName⟩ := meets
      exact .inl ⟨_, .refused commands known names plain isName unfit⟩
    · have unsettled := settle_hold fits flag value
      rw [if_neg unfit] at unsettled
      refine .inr ?_
      rw [List.cons_append, List.singleton_append, readWords_apart distinct known names plain,
        readWords_hold flag value meets, unsettled]
      rfl

/-- Words are a line and what can follow it, or misuse. The induction is on how many words there
are, since a flag takes one of them or two. -/
theorem isReadAs_or_misuse (distinct : shape.IsDistinct) (fits : Fits shape given arguments)
    (words : List String) :
    (∃ outcome, IsReadAs shape given arguments words outcome) ∨
      told (readWords shape (readingOf given arguments) words) = .error .misuse := by
  induction count : words.length using Nat.strongRecOn generalizing words given arguments with
  | ind length inductionHypothesis =>
  subst count
  match words with
  | [] =>
    by_cases whole : IsWhole shape given arguments
    · exact .inl ⟨_, .ends fits (.here whole)⟩
    · rw [readWords_end fits, if_neg whole]
      exact .inr rfl
  | word :: words =>
    by_cases plain : IsPlain word
    · by_cases commands : shape.commands = []
      · rw [readWords_argument commands plain fits]
        by_cases more : Fits shape given (arguments ++ [word])
        · rw [if_pos more]
          exact (inductionHypothesis words.length (Nat.lt_succ_self _) more words rfl).imp_left
            fun ⟨outcome, behind⟩ => ⟨outcome, behind.argument commands plain⟩
        · rw [if_neg more]
          exact .inr rfl
      · exact .inl ⟨_, .ends fits (.command commands plain)⟩
    · by_cases dashed : word = "--"
      · subst dashed
        by_cases whole : IsWhole shape given (arguments ++ words)
        · exact .inl ⟨_, .ends fits (.separated whole)⟩
        · rw [readWords_dashes fits, if_neg whole]
          exact .inr rfl
      · rcases flagWord_cases plain dashed shape with
          asks | ⟨flag, known, value, names⟩ | ⟨notPlain, notSeparator, misuse⟩
        · exact .inl ⟨_, .ends fits (.help asks)⟩
        · rcases gives_or_misuse distinct known names words with
            ⟨value, here, behind, gives, parts, fewer⟩ | misuse
          · rw [parts]
            by_cases more : Fits shape (given ++ [(flag, value)]) arguments
            · rw [told_of_gives distinct known gives more]
              have shorter := Nat.lt_succ_of_le fewer
              exact (inductionHypothesis behind.length shorter more behind rfl).imp_left
                fun ⟨outcome, later⟩ => ⟨outcome, later.flag known gives⟩
            · exact (refused_or_misuse distinct known gives fits more behind).imp
                (fun ⟨outcome, ends⟩ => ⟨outcome, .ends fits ends⟩) (congrArg told)
          · exact .inr (congrArg told misuse)
        · refine .inr ?_
          rw [readWords_flag notPlain notSeparator, misuse]
          rfl

/-- What reading finds out: what the words are read as, and misuse exactly if they are read as
nothing. -/
theorem told_eq_iff (distinct : shape.IsDistinct) {words : List String}
    {outcome : Except Stop (Except Stop Reading × List String)}
    (useful : outcome ≠ .error .misuse) :
    told (readWords shape .empty words) = outcome ↔ IsReadAs shape [] [] words outcome := by
  refine ⟨fun read => ?_, told_of_isReadAs distinct⟩
  have nothing : Fits shape [] [] := ⟨by simp, by simp, Nat.zero_le _⟩
  rcases isReadAs_or_misuse distinct nothing words with ⟨other, isRead⟩ | misuse
  · have same := told_of_isReadAs distinct isRead
    rwa [← show other = outcome from same.symm.trans read]
  · exact absurd (read.symm.trans misuse) useful

end

end Metasearch.CommandLine
