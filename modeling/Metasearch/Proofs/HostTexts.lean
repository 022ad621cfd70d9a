/-
This file settles that a host under a scheme with rules of its own is read back from its text.
What such a host can be is said once, for hosts that were read: a name in the form of the wire
that is no number, an address of four bytes, or one of eight pieces. Also here is how the text of
a host ends: nothing in it ends a host but the colons between brackets, which do not.
-/
import Metasearch.Proofs.EscapedText
import Metasearch.Proofs.EightPieces
import Metasearch.Proofs.NetworkNames

namespace Metasearch.Url

open Text (encode decode hexDigitValue? splitAt)

/-! ### Hosts that were read -/

/-- A host as reading leaves it. -/
def IsSettledHost : Host → Prop
  | .empty => False
  | .named text => text.toList ≠ [] ∧ (∀ c ∈ text.toList, IsNameChar c) ∧
      asciiName? text.toList = some text.toList ∧ endsInNumber text.toList = false
  | .four address => address < 2 ^ 32
  | .six pieces => AreEight pieces

theorem readBracketed_settled {text : List Char} {host : Host}
    (read : readBracketed text = .ok host) : IsSettledHost host := by
  unfold readBracketed at read
  split at read
  · next pieces found =>
    obtain ⟨inner, -, readInner⟩ := Option.bind_eq_some_iff.mp found
    obtain rfl := Except.ok.inj read
    exact readSix_areEight readInner
  · exact absurd read (by simp)

theorem hostOfName_settled {name : List Char} {host : Host} (present : name ≠ [])
    (chars : ∀ c ∈ name, IsNameChar c) (again : asciiName? name = some name)
    (read : hostOfName name = .ok host) : IsSettledHost host := by
  unfold hostOfName at read
  split at read
  · split at read
    · next address readAddress =>
      obtain rfl := Except.ok.inj read
      exact readFour_lt readAddress
    · exact absurd read (by simp)
  · next noNumber =>
    obtain rfl := Except.ok.inj read
    simp only [IsSettledHost, String.toList_ofList]
    exact ⟨present, chars, again, Bool.eq_false_iff.mpr noNumber⟩

/-- Whatever is read as a host is settled. -/
theorem readHost_settled {text : List Char} {host : Host} (read : readHost text = .ok host) :
    IsSettledHost host := by
  unfold readHost at read
  split at read
  · exact readBracketed_settled read
  · split at read
    · exact absurd read (by simp)
    · exact absurd read (by simp)
    · next name present found =>
      obtain ⟨chars, again⟩ := asciiName_settled found
      exact hostOfName_settled (fun none => present none) chars again read

/-! ### Names read back -/

theorem unescape_of_absent {bytes : List UInt8} (absent : 37 ∉ bytes) : unescape bytes = bytes := by
  induction bytes with
  | nil => rfl
  | cons byte rest inductionHypothesis =>
    rw [List.mem_cons, not_or] at absent
    rw [unescape_cons (Ne.symm absent.1), inductionHypothesis absent.2]

/-- There is nothing to undo in a name of the wire. -/
theorem decode_unescape_name {name : List Char} (chars : ∀ c ∈ name, IsNameChar c) :
    decode (unescape (encode name)) = name := by
  have ascii : ∀ c ∈ name, c.toNat < 0x80 := fun c member => (chars c member).ascii
  have absent : 37 ∉ encode name := by
    rw [Text.encode_ascii ascii]
    intro member
    obtain ⟨c, inName, isPercent⟩ := List.mem_map.mp member
    rw [← UInt8.toNat_inj, Text.toNat_byte _ (Nat.lt_trans (ascii c inName) (by decide))]
      at isPercent
    have percent : c = '%' := by rw [← Char.ofNat_toNat c, isPercent]; rfl
    exact absurd (percent ▸ (chars c inName).allowed) (by decide)
  rw [unescape_of_absent absent, Text.decode_encode]

theorem isLabelChar_of_isDigit {c : Char} (digit : c.isDigit = true) : IsLabelChar c := by
  have every : ∀ c ∈ Text.asciiChars, c.isDigit = true → c ∈ '-' :: labelDigits :=
    Text.forall_of_all (by decide)
  exact isLabelChar_of_mem
    (every c (Text.mem_asciiChars (Text.ascii_of_isDigit digit)) digit)

theorem asciiLabel_digits {label : List Char} (digits : ∀ c ∈ label, c.isDigit = true) :
    asciiLabel? label = some label := by
  have chars : ∀ c ∈ label, IsLabelChar c := fun c member =>
    isLabelChar_of_isDigit (digits c member)
  have ascii : label.all (·.toNat < firstPoint) = true :=
    List.all_eq_true.mpr fun c member => decide_eq_true (chars c member).1.ascii
  have noBarred : label.any barredFromNames = false :=
    List.any_eq_false.mpr fun c member => Bool.eq_false_iff.mp (chars c member).1.allowed
  have noMark : Text.dropBeginning? labelMark label = none := by
    cases marked : Text.dropBeginning? labelMark label with
    | none => rfl
    | some code =>
      have isMark : 'x' ∈ label := by
        rw [Text.eq_append_of_dropBeginning marked]
        exact List.mem_append_left _ (by decide)
      exact absurd (digits 'x' isMark) (by decide)
  rw [asciiLabel?, if_pos ascii, noMark]
  simp only [noBarred, Bool.false_eq_true, if_false]

theorem mapM_asciiLabel_digits {labels : List (List Char)}
    (digits : ∀ label ∈ labels, ∀ c ∈ label, c.isDigit = true) :
    labels.mapM asciiLabel? = some labels := by
  induction labels with
  | nil => rfl
  | cons label rest inductionHypothesis =>
    rw [List.forall_mem_cons] at digits
    rw [List.mapM_cons, asciiLabel_digits digits.1, inductionHypothesis digits.2]
    rfl

theorem mem_writeFour {address : Nat} {c : Char} (member : c ∈ writeFour address) :
    c = '.' ∨ c.isDigit = true := by
  refine (mem_intercalate member).imp_right ?_
  rintro ⟨part, isPart, inPart⟩
  exact isDigit_of_mem_writtenBytes isPart inPart

theorem isNameChar_of_mem_writeFour {address : Nat} {c : Char} (member : c ∈ writeFour address) :
    IsNameChar c := by
  rcases mem_writeFour member with rfl | digit
  · exact ⟨by decide, by decide, by decide⟩
  · exact (isLabelChar_of_isDigit digit).1

theorem writeFour_ne_nil (address : Nat) : writeFour address ≠ [] := by
  intro none
  have parts := splitAt_writeFour address
  rw [none] at parts
  exact absurd (congrArg List.length parts) (by simp [splitAt, writtenBytes, bytesOf])

theorem asciiName_writeFour (address : Nat) :
    asciiName? (writeFour address) = some (writeFour address) := by
  have labels : (writtenBytes address).mapM asciiLabel? = some (writtenBytes address) :=
    mapM_asciiLabel_digits fun label isLabel c member => isDigit_of_mem_writtenBytes isLabel member
  rw [asciiName?, flatMap_foldNameChar fun c member => isNameChar_of_mem_writeFour member,
    splitAt_writeFour, labels]
  rfl

/-! ### Hosts read back -/

theorem dropEnding_append (text ending : List Char) :
    Text.dropEnding? ending (text ++ ending) = some text := by
  rw [Text.dropEnding?, List.reverse_append, Text.dropBeginning_append, Option.map_some,
    List.reverse_reverse]

/-- A text of the wire is read as the name it is. -/
theorem readHost_of_name {name : List Char} (present : name ≠ [])
    (chars : ∀ c ∈ name, IsNameChar c) (again : asciiName? name = some name) :
    readHost name = hostOfName name := by
  obtain ⟨first, rest, rfl⟩ := List.exists_cons_of_ne_nil present
  have noBracket : ∀ tail, first :: rest ≠ '[' :: tail := by
    intro tail equal
    obtain ⟨rfl, -⟩ := List.cons.inj equal
    exact absurd (chars '[' List.mem_cons_self).allowed (by decide)
  simp only [readHost.eq_2 _ noBracket, decode_unescape_name chars, again]

theorem toList_writeHost_six (pieces : List Nat) :
    (writeHost (.six pieces)).toList = '[' :: (writeSix pieces ++ [']']) := by
  simp [writeHost]

/-- A host is read back from its text. -/
theorem readHost_writeHost {host : Host} (settled : IsSettledHost host) :
    readHost (writeHost host).toList = .ok host := by
  cases host with
  | empty => exact settled.elim
  | named text =>
    obtain ⟨present, chars, again, noNumber⟩ := settled
    rw [writeHost, readHost_of_name present chars again, hostOfName, noNumber,
      if_neg (by decide), String.ofList_toList]
  | four address =>
    have present : writeFour address ≠ [] := writeFour_ne_nil address
    rw [writeHost, String.toList_ofList, readHost_of_name present
      (fun c member => isNameChar_of_mem_writeFour member) (asciiName_writeFour address),
      hostOfName, endsInNumber_writeFour, if_pos rfl, readFour_writeFour settled]
  | six pieces =>
    rw [toList_writeHost_six, readHost, readBracketed, dropEnding_append, Option.bind_some,
      readSix_writeSix settled]

/-! ### Where the text of a host ends -/

/-- A character that ends no host and starts none, whatever the scheme, and is kept by reading. -/
structure IsHostChar (c : Char) : Prop where
  visible : 0x20 < c.toNat
  noSlash : c ≠ '/' ∧ c ≠ '\\'
  noEnd : endsPath c = false
  noUser : c ≠ '@'

instance : DecidablePred IsHostChar := fun c =>
  decidable_of_iff (0x20 < c.toNat ∧ (c ≠ '/' ∧ c ≠ '\\') ∧ endsPath c = false ∧ c ≠ '@')
    ⟨fun ⟨visible, noSlash, noEnd, noUser⟩ => ⟨visible, noSlash, noEnd, noUser⟩,
      fun ⟨visible, noSlash, noEnd, noUser⟩ => ⟨visible, noSlash, noEnd, noUser⟩⟩

/-- A character that in no place ends a host. -/
def IsPlainHostChar (c : Char) : Prop :=
  IsHostChar c ∧ c ≠ ':' ∧ c ≠ '[' ∧ c ≠ ']'

instance : DecidablePred IsPlainHostChar := fun _ => inferInstanceAs (Decidable (_ ∧ _))

theorem IsNameChar.isPlainHostChar {c : Char} (isNameChar : IsNameChar c) :
    IsPlainHostChar c := by
  have every : ∀ c ∈ Text.asciiChars, barredFromNames c = false → IsPlainHostChar c :=
    Text.forall_of_all (by decide)
  exact every c (Text.mem_asciiChars isNameChar.ascii) isNameChar.allowed

theorem isPlainHostChar_of_hex {c : Char} (digit : (hexDigitValue? c).isSome = true) :
    IsPlainHostChar c := by
  have every : ∀ c ∈ Text.asciiChars, (hexDigitValue? c).isSome = true → IsPlainHostChar c :=
    Text.forall_of_all (by decide)
  exact every c (Text.mem_asciiChars (Text.ascii_of_hexDigitValue digit)) digit

theorem mem_writeSix {pieces : List Nat} {c : Char} (member : c ∈ writeSix pieces) :
    c = ':' ∨ (hexDigitValue? c).isSome = true := by
  have ofPieces : ∀ pieces, c ∈ writePieces pieces →
      c = ':' ∨ (hexDigitValue? c).isSome = true := by
    intro pieces inPieces
    refine (mem_intercalate inPieces).imp_right ?_
    rintro ⟨text, isText, inText⟩
    obtain ⟨piece, -, rfl⟩ := List.mem_map.mp isText
    exact isHex_of_mem_hexDigits inText
  unfold writeSix at member
  dsimp only at member
  split at member
  · exact ofPieces _ member
  · rcases List.mem_append.mp member with front | back
    · rcases List.mem_append.mp front with before | gap
      · exact ofPieces _ before
      · simp only [List.mem_cons, List.not_mem_nil, or_false, or_self] at gap
        exact .inl gap
    · exact ofPieces _ back

/-- The text of a settled host is made of characters that hosts are made of. -/
theorem isHostChar_writeHost {host : Host} (settled : IsSettledHost host) {c : Char}
    (member : c ∈ (writeHost host).toList) : IsHostChar c := by
  cases host with
  | empty => exact settled.elim
  | named text => exact (settled.2.1 c member).isPlainHostChar.1
  | four address =>
    rw [writeHost, String.toList_ofList] at member
    exact (isNameChar_of_mem_writeFour member).isPlainHostChar.1
  | six pieces =>
    rw [toList_writeHost_six, List.mem_cons, List.mem_append, List.mem_singleton] at member
    rcases member with rfl | inside | rfl
    · decide
    · rcases mem_writeSix inside with rfl | digit
      · decide
      · exact (isPlainHostChar_of_hex digit).1
    · decide

theorem writeHost_ne_nil {host : Host} (settled : IsSettledHost host) :
    (writeHost host).toList ≠ [] := by
  cases host with
  | empty => exact settled.elim
  | named text => exact settled.1
  | four address =>
    rw [writeHost, String.toList_ofList]
    exact writeFour_ne_nil address
  | six pieces =>
    rw [toList_writeHost_six]
    exact List.cons_ne_nil _ _

/-- What follows a host: nothing, or what ends one. -/
def StopsHost (kind : Kind) (rest : List Char) : Prop :=
  ∀ c ∈ rest.head?, c = ':' ∨ isSlash kind c = true ∨ endsPath c = true

theorem splitHost_stop {kind : Kind} {rest : List Char} (stops : StopsHost kind rest) :
    splitHost kind false rest = ([], rest) := by
  cases rest with
  | nil => rfl
  | cons c rest =>
    rw [splitHost, if_pos]
    have ends := stops c rfl
    simpa [or_assoc] using ends

theorem isSlash_of_isHostChar {c : Char} (isHostChar : IsHostChar c) (kind : Kind) :
    isSlash kind c = false := by
  simp [isSlash, isHostChar.noSlash.1, isHostChar.noSlash.2]

theorem splitHost_plain {kind : Kind} {host rest : List Char}
    (chars : ∀ c ∈ host, IsPlainHostChar c) (stops : StopsHost kind rest) :
    splitHost kind false (host ++ rest) = (host, rest) := by
  induction host with
  | nil => exact splitHost_stop stops
  | cons c host inductionHypothesis =>
    rw [List.forall_mem_cons] at chars
    obtain ⟨⟨isHostChar, noColon, noOpening, noClosing⟩, others⟩ := chars
    rw [List.cons_append, splitHost, if_neg (by
      simp [noColon, isSlash_of_isHostChar isHostChar, isHostChar.noEnd])]
    simp [noOpening, noClosing, inductionHypothesis others]

/-- Between brackets, colons do not end the host. -/
theorem splitHost_brackets {kind : Kind} {inside rest : List Char}
    (chars : ∀ c ∈ inside, c = ':' ∨ IsPlainHostChar c) (stops : StopsHost kind rest) :
    splitHost kind true (inside ++ ']' :: rest) = (inside ++ [']'], rest) := by
  induction inside with
  | nil =>
    rw [List.nil_append, splitHost, if_neg (by simp [isSlash, endsPath])]
    simp [splitHost_stop stops]
  | cons c inside inductionHypothesis =>
    rw [List.forall_mem_cons] at chars
    rw [List.cons_append, splitHost]
    rcases chars.1 with rfl | ⟨isHostChar, noColon, noOpening, noClosing⟩
    · rw [if_neg (by simp [isSlash, endsPath])]
      simp [inductionHypothesis chars.2]
    · rw [if_neg (by simp [isSlash_of_isHostChar isHostChar, isHostChar.noEnd])]
      simp [noOpening, noClosing, inductionHypothesis chars.2]

/-- The text of a settled host is found again before what ends it. -/
theorem splitHost_writeHost {kind : Kind} {host : Host} (settled : IsSettledHost host)
    {rest : List Char} (stops : StopsHost kind rest) :
    splitHost kind false ((writeHost host).toList ++ rest) = ((writeHost host).toList, rest) := by
  cases host with
  | empty => exact settled.elim
  | named text =>
    exact splitHost_plain (fun c member => (settled.2.1 c member).isPlainHostChar) stops
  | four address =>
    rw [writeHost, String.toList_ofList]
    exact splitHost_plain
      (fun c member => (isNameChar_of_mem_writeFour member).isPlainHostChar) stops
  | six pieces =>
    have chars : ∀ c ∈ writeSix pieces, c = ':' ∨ IsPlainHostChar c := fun c member =>
      (mem_writeSix member).imp_right isPlainHostChar_of_hex
    rw [toList_writeHost_six, List.cons_append, List.append_assoc, List.singleton_append,
      splitHost, if_neg (by simp [isSlash, endsPath])]
    simp [splitHost_brackets chars stops]

end Metasearch.Url
