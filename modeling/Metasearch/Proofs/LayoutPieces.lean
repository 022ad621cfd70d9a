/-
This file settles what date pattern a layout becomes. A layout falls into pieces from the left: at
every place the longest part of the reference time that stands there, or a single character where
none does. There is one way to do so. Each piece is one item of the pattern: the directive of its
part, or the character itself, which a percent sign stays because it is written twice.

The pattern that a layout is written with has the same items, but for two things. An offset whose
minutes may be missing is written in full. And because that is done by replacing text, a number sign
is lost where the layout has one between a percent sign and a z.
-/
import Metasearch.Layout
import Metasearch.Proofs.ReplacedText

namespace Metasearch

/-! ### Items character by character -/

namespace Calendar

/-- An item with its text taken apart into characters. -/
def PatternItem.spread : PatternItem → List PatternItem
  | .literal text => text.map fun c => .literal [c]
  | .blanks text => text.map fun c => .blanks [c]
  | item => [item]

/-- The item of a single character of text. -/
def charItem (c : Char) : PatternItem :=
  if Text.isBlank c then .blanks [c] else .literal [c]

/-- The item is a part of a date or a time, not text and not malformed. -/
def PatternItem.isDirective : PatternItem → Bool
  | .literal _ | .blanks _ | .malformed => false
  | _ => true

/-- The item can be written. Writing fails where a pattern has any other. -/
def PatternItem.canBeWritten : PatternItem → Bool
  | .looseOffset | .malformed => false
  | _ => true

theorem spread_of_isDirective {item : PatternItem} (directive : item.isDirective = true) :
    item.spread = [item] := by
  cases item <;> first | rfl | cases directive

theorem charItem_eq_literal {c mark : Char} (solid : Text.isBlank mark = false) :
    charItem c = .literal [mark] ↔ c = mark := by
  unfold charItem
  split
  · next blank =>
    have other : c ≠ mark := by rintro rfl; rw [blank] at solid; cases solid
    simp [other]
  · simp

/-- An ordinary character is one more of the characters. -/
theorem spread_consChar (c : Char) (items : List PatternItem) :
    (consChar c items).flatMap PatternItem.spread =
      charItem c :: items.flatMap PatternItem.spread := by
  unfold consChar charItem
  split
  · split <;> simp [PatternItem.spread]
  · split <;> simp [PatternItem.spread]

/-- The characters of text in front of a pattern that are read back as one character each. -/
theorem spread_copied (c : Char) (rest : List Char) :
    (patternItems 0 (Layout.copied c ++ rest)).flatMap PatternItem.spread =
      charItem c :: (patternItems 0 rest).flatMap PatternItem.spread := by
  by_cases percent : c = '%'
  · subst percent
    rfl
  · have single : Layout.copied c = [c] := if_neg (by simpa using percent)
    have ordinary : patternItems 0 (c :: rest) = consChar c (patternItems 0 rest) :=
      if_neg (by simpa using percent)
    rw [single, List.singleton_append, ordinary, spread_consChar]

end Calendar

namespace Layout

open Calendar (PatternItem patternItems itemsOf charItem)

/-! ### Parts of the reference time -/

/-- The parts of the reference time. -/
def parts : List String := tokens.map Prod.fst

/-- The item that stands for a part of the reference time in a date pattern. -/
def itemOf (part : String) : PatternItem :=
  ((tokens.lookup part).bind fun directive => (itemsOf directive).head?).getD .malformed

/-- A directive is one item, whatever is behind it. -/
theorem patternItems_directive {part directive : String} (listed : (part, directive) ∈ tokens)
    (rest : List Char) :
    patternItems 0 (directive.toList ++ rest) = itemOf part :: patternItems 0 rest := by
  have each : ∀ token ∈ tokens, ∀ rest,
      patternItems 0 (token.2.toList ++ rest) = itemOf token.1 :: patternItems 0 rest := by
    unfold tokens
    repeat refine List.forall_mem_cons.mpr ⟨fun _ => rfl, ?_⟩
    exact fun token member => absurd member List.not_mem_nil
  exact each _ listed rest

theorem itemsOf_directive {part directive : String} (listed : (part, directive) ∈ tokens) :
    itemsOf directive = [itemOf part] := by
  have alone := patternItems_directive listed []
  rwa [List.append_nil] at alone

theorem isDirective_itemOf {part : String} (listed : part ∈ parts) :
    (itemOf part).isDirective = true := by
  have each : ∀ part ∈ parts, (itemOf part).isDirective = true := by decide
  exact each part listed

/-- No part begins with one that is listed before it. -/
theorem pairwise_tokens :
    tokens.Pairwise fun first second => ¬ first.1.toList <+: second.1.toList := by
  decide

/-- A part is the longest that a text begins with. -/
structure IsLongest (part : String) (text rest : List Char) : Prop where
  listed : part ∈ parts
  begins : text = part.toList ++ rest
  longest : ∀ other ∈ parts, other.toList <+: text → other.toList.length ≤ part.toList.length

variable {part : String} {text rest : List Char}

/-- No part that is listed before the longest one stands at the same place. -/
theorem IsLongest.listed_first (found : IsLongest part text rest) :
    ∃ before directive after, tokens = before ++ (part, directive) :: after ∧
      ∀ token ∈ before, ¬ token.1.toList <+: text := by
  obtain ⟨⟨part, directive⟩, member, rfl⟩ := List.mem_map.mp found.listed
  obtain ⟨before, after, split⟩ := List.append_of_mem member
  refine ⟨before, directive, after, split, fun token earlier stands => ?_⟩
  have ordered := pairwise_tokens
  rw [split, List.pairwise_append] at ordered
  have inTokens : token ∈ tokens := split ▸ List.mem_append_left _ earlier
  have shorter := found.longest token.1 (List.mem_map_of_mem inTokens) stands
  have here : part.toList <+: text := found.begins ▸ List.prefix_append _ _
  exact ordered.2.2 token earlier _ List.mem_cons_self
    (List.prefix_of_prefix_length_le stands here shorter)

theorem tokenAt?_of_isLongest (found : IsLongest part text rest) :
    ∃ directive, (part, directive) ∈ tokens ∧
      tokenAt? text = some (part.toList.length, directive.toList) := by
  obtain ⟨before, directive, after, split, absent⟩ := found.listed_first
  refine ⟨directive, split ▸ List.mem_append_right _ List.mem_cons_self, ?_⟩
  refine List.findSome?_eq_some_iff.mpr ⟨before, (part, directive), after, split, ?_, ?_⟩
  · exact if_pos (List.isPrefixOf_iff_prefix.mpr (found.begins ▸ List.prefix_append _ _))
  · intro token earlier
    exact if_neg (mt List.isPrefixOf_iff_prefix.mp (absent token earlier))

theorem tokenAt?_of_absent (absent : ∀ part ∈ parts, ¬ part.toList <+: text) :
    tokenAt? text = none := by
  refine List.findSome?_eq_none_iff.mpr fun token member => ?_
  exact if_neg (mt List.isPrefixOf_iff_prefix.mp (absent token.1 (List.mem_map_of_mem member)))

/-- The first part in the list that a text begins with is the longest. -/
theorem isLongest_of_find?
    (found : parts.find? (fun part => part.toList.isPrefixOf text) = some part) :
    ∃ rest, IsLongest part text rest := by
  obtain ⟨isHere, before, after, split, absent⟩ := List.find?_eq_some_iff_append.mp found
  have here : part.toList <+: text := List.isPrefixOf_iff_prefix.mp isHere
  obtain ⟨rest, begins⟩ := id here
  refine ⟨rest, split ▸ List.mem_append_right _ List.mem_cons_self, begins.symm,
    fun other listed stands => ?_⟩
  have ordered : parts.Pairwise fun first second => ¬ first.toList <+: second.toList :=
    List.pairwise_map.mpr pairwise_tokens
  rw [split, List.pairwise_append, List.pairwise_cons] at ordered
  rw [split, List.mem_append, List.mem_cons] at listed
  rcases listed with earlier | rfl | later
  · have absent := absent other earlier
    rw [List.isPrefixOf_iff_prefix.mpr stands] at absent
    cases absent
  · exact Nat.le_refl _
  · rcases Nat.le_total other.toList.length part.toList.length with shorter | longer
    · exact shorter
    · exact absurd (List.prefix_of_prefix_length_le here stands longer)
        (ordered.2.1.1 other later)

/-! ### Pieces -/

/-- A piece of a layout: a part of the reference time, or a character that belongs to none. -/
inductive Piece
  | part (part : String)
  | char (c : Char)
  deriving DecidableEq, Repr

/-- A text falls into pieces from the left, at every place the longest part that stands there. -/
inductive Scans : List Char → List Piece → Prop
  | nil : Scans [] []
  | part {part text rest pieces} (found : IsLongest part text rest) (later : Scans rest pieces) :
      Scans text (.part part :: pieces)
  | char {c rest pieces} (absent : ∀ part ∈ parts, ¬ part.toList <+: c :: rest)
      (later : Scans rest pieces) : Scans (c :: rest) (.char c :: pieces)

/-- The pieces of a text; the first `skip` characters belong to a piece already found. -/
def piecesFrom (skip : Nat) : List Char → List Piece
  | [] => []
  | c :: rest =>
    match skip with
    | skip + 1 => piecesFrom skip rest
    | 0 =>
      match parts.find? fun part => part.toList.isPrefixOf (c :: rest) with
      | some part => .part part :: piecesFrom (part.toList.length - 1) rest
      | none => .char c :: piecesFrom 0 rest

/-- The pieces of a layout. -/
def piecesOf (layout : String) : List Piece :=
  piecesFrom 0 layout.toList

theorem length_pos_of_listed (listed : part ∈ parts) : 0 < part.toList.length := by
  have each : ∀ part ∈ parts, 0 < part.toList.length := by decide
  exact each part listed

theorem IsLongest.ne_nil (found : IsLongest part text rest) : text ≠ [] := by
  rintro rfl
  have whole := congrArg List.length found.begins
  have present := length_pos_of_listed found.listed
  rw [List.length_append, List.length_nil] at whole
  omega

theorem piecesFrom_drop (skip : Nat) (text : List Char) :
    piecesFrom skip text = piecesFrom 0 (text.drop skip) := by
  induction text generalizing skip with
  | nil =>
    rw [List.drop_nil]
    rfl
  | cons c rest inductionHypothesis =>
    cases skip with
    | zero => rfl
    | succ skip => exact inductionHypothesis skip

/-- Every text falls into its pieces. -/
theorem scans_piecesFrom (text : List Char) : Scans text (piecesFrom 0 text) := by
  induction length : text.length using Nat.strongRecOn generalizing text with
  | ind size inductionHypothesis =>
    cases text with
    | nil => exact .nil
    | cons c rest =>
      rw [List.length_cons] at length
      rw [piecesFrom]
      split
      · next part first =>
        obtain ⟨behind, found⟩ := isLongest_of_find? first
        obtain ⟨d, more, letters⟩ :=
          List.exists_cons_of_length_pos (length_pos_of_listed found.listed)
        have tail : rest = more ++ behind := by
          have begins := found.begins
          rw [letters, List.cons_append] at begins
          exact (List.cons.inj begins).2
        have dropped : rest.drop (part.toList.length - 1) = behind := by
          rw [letters, List.length_cons, Nat.add_sub_cancel, tail, List.drop_left]
        have shorter : behind.length < size := by
          rw [← length, tail, List.length_append]
          omega
        rw [piecesFrom_drop, dropped]
        exact .part found (inductionHypothesis _ shorter behind rfl)
      · next none =>
        refine .char (fun part listed stands => ?_)
          (inductionHypothesis _ (by omega) rest rfl)
        exact List.find?_eq_none.mp none part listed (List.isPrefixOf_iff_prefix.mpr stands)

theorem scans_piecesOf (layout : String) : Scans layout.toList (piecesOf layout) :=
  scans_piecesFrom layout.toList

/-- Two parts that are the longest at one place are one. -/
theorem IsLongest.unique {other : String} {behind : List Char} (found : IsLongest part text rest)
    (foundToo : IsLongest other text behind) : part = other ∧ rest = behind := by
  have here : part.toList <+: text := found.begins ▸ List.prefix_append _ _
  have hereToo : other.toList <+: text := foundToo.begins ▸ List.prefix_append _ _
  have same : part.toList = other.toList :=
    (List.prefix_of_prefix_length_le here hereToo
      (foundToo.longest part found.listed here)).eq_of_length_le
      (found.longest other foundToo.listed hereToo)
  refine ⟨String.toList_injective same, ?_⟩
  have both := found.begins.symm.trans foundToo.begins
  rw [same] at both
  exact List.append_cancel_left both

/-- There is only one way. -/
theorem Scans.unique {pieces others : List Piece} (scans : Scans text pieces)
    (scansToo : Scans text others) : others = pieces := by
  induction scans generalizing others with
  | nil =>
    cases scansToo with
    | nil => rfl
    | part found _ => exact absurd rfl found.ne_nil
  | part found _ inductionHypothesis =>
    cases scansToo with
    | nil => exact absurd rfl found.ne_nil
    | part foundToo laterToo =>
      obtain ⟨rfl, rfl⟩ := found.unique foundToo
      rw [inductionHypothesis laterToo]
    | char absent _ =>
      exact absurd (found.begins ▸ List.prefix_append _ _) (absent _ found.listed)
  | char absent _ inductionHypothesis =>
    cases scansToo with
    | part found _ => exact absurd (found.begins ▸ List.prefix_append _ _) (absent _ found.listed)
    | char _ laterToo => rw [inductionHypothesis laterToo]

/-! ### The pattern of a layout -/

theorem patternFrom_append (front rest : List Char) :
    patternFrom front.length (front ++ rest) = patternFrom 0 rest := by
  induction front with
  | nil => rfl
  | cons c front inductionHypothesis => exact inductionHypothesis

/-- A part becomes its directive. -/
theorem patternFrom_of_isLongest (found : IsLongest part text rest) :
    ∃ directive, (part, directive) ∈ tokens ∧
      patternFrom 0 text = directive.toList ++ patternFrom 0 rest := by
  obtain ⟨directive, listed, token⟩ := tokenAt?_of_isLongest found
  refine ⟨directive, listed, ?_⟩
  obtain ⟨c, more, letters⟩ := List.exists_cons_of_length_pos (length_pos_of_listed found.listed)
  have begins := found.begins
  rw [letters, List.cons_append] at begins
  have behind : patternFrom (part.toList.length - 1) (more ++ rest) = patternFrom 0 rest := by
    rw [letters]
    exact patternFrom_append more rest
  rw [begins] at token
  rw [begins, patternFrom, token]
  exact congrArg (directive.toList ++ ·) behind

/-- A character that belongs to no part is copied. -/
theorem patternFrom_of_absent {c : Char} (absent : ∀ part ∈ parts, ¬ part.toList <+: c :: rest) :
    patternFrom 0 (c :: rest) = copied c ++ patternFrom 0 rest := by
  rw [patternFrom, tokenAt?_of_absent absent]

/-- The item of a piece. -/
def Piece.item : Piece → PatternItem
  | .part part => itemOf part
  | .char c => charItem c

variable {pieces : List Piece}

/-- The items of the pattern are those of the pieces. -/
theorem Scans.spread (scans : Scans text pieces) :
    (patternItems 0 (patternFrom 0 text)).flatMap PatternItem.spread = pieces.map Piece.item := by
  induction scans with
  | nil => rfl
  | part found _ inductionHypothesis =>
    obtain ⟨directive, listed, pattern⟩ := patternFrom_of_isLongest found
    rw [pattern, patternItems_directive listed, List.flatMap_cons,
      Calendar.spread_of_isDirective (isDirective_itemOf found.listed), inductionHypothesis]
    rfl
  | char absent _ inductionHypothesis =>
    rw [patternFrom_of_absent absent, Calendar.spread_copied, inductionHypothesis]
    rfl

/-! ### The pattern that a layout is written with -/

/-- The item that is written for an item that may only be read. -/
def inFull : PatternItem → PatternItem
  | .looseOffset => .offset false
  | item => item

/-- The items that are written for those of a layout: each offset in full, and no number sign where
one stands behind a percent sign and in front of a z. -/
def writtenItems (behindPercent : Bool) : List PatternItem → List PatternItem
  | [] => []
  | item :: rest =>
    if behindPercent && item == .literal ['#'] && rest.head? == some (.literal ['z']) then
      writtenItems false rest
    else inFull item :: writtenItems (item == .literal ['%']) rest

/-- The directive whose minutes may be missing, and what it is written as. -/
def replaceLoose (pattern : List Char) : List Char :=
  Text.replaceAll ['%', '#', 'z'] ['%', 'z'] pattern

/-- The same for what stands behind a percent sign. -/
def replaceLooseBehind (pattern : List Char) : List Char :=
  if ['#', 'z'] <+: pattern then replaceLoose pattern.tail else replaceLoose pattern

theorem replaceLoose_cons {c : Char} (other : c ≠ '%') (rest : List Char) :
    replaceLoose (c :: rest) = c :: replaceLoose rest :=
  Text.replaceAll_cons fun begins => other (List.cons_prefix_cons.mp begins).1.symm

theorem replaceLoose_percent (rest : List Char) :
    replaceLoose ('%' :: rest) = '%' :: replaceLooseBehind rest := by
  unfold replaceLooseBehind
  split
  · next loose =>
    obtain ⟨behind, rfl⟩ := loose
    show replaceLoose (['%', '#', 'z'] ++ behind) = '%' :: replaceLoose ('z' :: behind)
    rw [replaceLoose_cons (by decide)]
    exact Text.replaceAll_append (by decide) behind
  · next other =>
    exact Text.replaceAll_cons fun begins => other (List.cons_prefix_cons.mp begins).2

/-- The directive of a part is the loose one, or begins with a percent sign that no number sign
follows, and has no other. -/
theorem directive_cases {directive : String} (listed : (part, directive) ∈ tokens) :
    directive.toList = ['%', '#', 'z'] ∧ itemOf part = .looseOffset ∨
      ∃ c more, directive.toList = '%' :: c :: more ∧ c ≠ '#' ∧ '%' ∉ c :: more ∧
        inFull (itemOf part) = itemOf part := by
  have each : ∀ token ∈ tokens,
      token.2.toList = ['%', '#', 'z'] ∧ itemOf token.1 = .looseOffset ∨
        token.2.toList.head? = some '%' ∧ token.2.toList.tail ≠ [] ∧
          token.2.toList.tail.head? ≠ some '#' ∧ '%' ∉ token.2.toList.tail ∧
          inFull (itemOf token.1) = itemOf token.1 := by decide
  refine (each _ listed).imp_right fun ⟨head, more, other, single, full⟩ => ?_
  obtain ⟨tail, text⟩ := List.head?_eq_some_iff.mp head
  rw [text, List.tail_cons] at more other single
  obtain ⟨c, tail, rfl⟩ := List.exists_cons_of_ne_nil more
  exact ⟨c, tail, text, fun same => other (same ▸ rfl), single, full⟩

/-- Any directive but the loose one is kept. -/
theorem patternItems_replaceLoose {directive : String} (listed : (part, directive) ∈ tokens)
    (rest : List Char) :
    patternItems 0 (replaceLoose (directive.toList ++ rest)) =
      inFull (itemOf part) :: patternItems 0 (replaceLoose rest) := by
  rcases directive_cases listed with ⟨loose, item⟩ | ⟨c, more, text, other, single, full⟩
  · rw [loose, item, replaceLoose, Text.replaceAll_append (by decide)]
    rfl
  · have kept : replaceLoose (directive.toList ++ rest) =
        directive.toList ++ replaceLoose rest := by
      have noLoose : ¬ ['#', 'z'] <+: c :: (more ++ rest) :=
        fun begins => other (List.cons_prefix_cons.mp begins).1.symm
      rw [text, List.cons_append, List.cons_append, replaceLoose_percent, replaceLooseBehind,
        if_neg noLoose]
      exact congrArg ('%' :: ·) (Text.replaceAll_append_of_not_mem single rest)
    rw [kept, patternItems_directive listed, full]

theorem isDirective_inFull {item : PatternItem} (directive : item.isDirective = true) :
    (inFull item).isDirective = true := by
  cases item <;> first | rfl | cases directive

theorem writtenItems_directive {item : PatternItem} (directive : item.isDirective = true)
    (behindPercent : Bool) (rest : List PatternItem) :
    writtenItems behindPercent (item :: rest) = inFull item :: writtenItems false rest := by
  have noText : ∀ text, (item == .literal text) = false := by
    intro text
    rw [beq_eq_false_iff_ne]
    rintro rfl
    cases directive
  rw [writtenItems, noText, noText, Bool.and_false, Bool.false_and]
  rfl

/-- The pattern begins with an ordinary character exactly if its items do. -/
theorem Scans.head?_eq_some (scans : Scans text pieces) {mark : Char}
    (solid : Text.isBlank mark = false) (ordinary : mark ≠ '%') :
    (patternFrom 0 text).head? = some mark ↔
      (pieces.map Piece.item).head? = some (.literal [mark]) := by
  cases scans with
  | nil => simp [patternFrom]
  | @part part _ rest _ found _ =>
    obtain ⟨directive, listed, pattern⟩ := patternFrom_of_isLongest found
    have noLiteral : itemOf part ≠ .literal [mark] := by
      intro same
      have isDirective := isDirective_itemOf found.listed
      rw [same] at isDirective
      cases isDirective
    have noMark : (directive.toList ++ patternFrom 0 rest).head? ≠ some mark := by
      rcases directive_cases listed with ⟨loose, -⟩ | ⟨c, more, letters, -⟩
      · simp [loose, ordinary.symm]
      · simp [letters, ordinary.symm]
    rw [pattern]
    exact iff_of_false noMark fun same => noLiteral (Option.some.inj same)
  | @char c rest _ absent _ =>
    rw [patternFrom_of_absent absent]
    by_cases percent : c = '%'
    · subst percent
      simp [copied, Piece.item, Calendar.charItem_eq_literal solid, ordinary.symm]
    · have single : copied c = [c] := if_neg (by simpa using percent)
      simp [single, Piece.item, Calendar.charItem_eq_literal solid]

/-- Behind a percent sign only a number sign is told from the beginning of a text. -/
theorem replaceLooseBehind_percent (rest : List Char) :
    replaceLooseBehind ('%' :: rest) = replaceLoose ('%' :: rest) :=
  if_neg (by simp [List.cons_prefix_cons])

theorem replaceLooseBehind_directive {directive : String} (listed : (part, directive) ∈ tokens)
    (rest : List Char) :
    replaceLooseBehind (directive.toList ++ rest) = replaceLoose (directive.toList ++ rest) := by
  rcases directive_cases listed with ⟨letters, -⟩ | ⟨c, more, letters, -⟩ <;>
    rw [letters] <;> exact replaceLooseBehind_percent _

theorem inFull_charItem (c : Char) : inFull (charItem c) = charItem c := by
  unfold charItem
  split <;> rfl

theorem charItem_beq_percent (c : Char) : (charItem c == .literal ['%']) = decide (c = '%') := by
  rw [Bool.eq_iff_iff, beq_iff_eq, decide_eq_true_iff,
    Calendar.charItem_eq_literal (by decide)]

theorem writtenItems_charItem (c : Char) (rest : List PatternItem) :
    writtenItems false (charItem c :: rest) =
      charItem c :: writtenItems (decide (c = '%')) rest := by
  rw [writtenItems, Bool.false_and, Bool.false_and, if_neg Bool.false_ne_true, inFull_charItem,
    charItem_beq_percent]

/-- Behind a percent sign a number sign is lost in front of a z. -/
theorem writtenItems_charItem_behind (c : Char) (rest : List PatternItem) :
    writtenItems true (charItem c :: rest) =
      if c = '#' ∧ rest.head? = some (.literal ['z']) then writtenItems false rest
      else charItem c :: writtenItems (decide (c = '%')) rest := by
  rw [writtenItems, Bool.true_and, inFull_charItem, charItem_beq_percent]
  refine if_congr ?_ rfl rfl
  rw [Bool.and_eq_true, beq_iff_eq, beq_iff_eq, Calendar.charItem_eq_literal (by decide)]

/-- A character other than the percent sign is one more of the characters. -/
theorem spread_replaceLoose_cons {c : Char} (other : c ≠ '%') (rest : List Char) :
    (patternItems 0 (replaceLoose (c :: rest))).flatMap PatternItem.spread =
      charItem c :: (patternItems 0 (replaceLoose rest)).flatMap PatternItem.spread := by
  have single : copied c = [c] := if_neg (by simpa using other)
  have copies := Calendar.spread_copied c (replaceLoose rest)
  rwa [single, List.singleton_append, ← replaceLoose_cons other] at copies

/-- A percent sign, which is written twice, is one more of the characters too, and what is behind
it is told from the second one. -/
theorem spread_replaceLoose_percents (rest : List Char) :
    (patternItems 0 (replaceLoose ('%' :: '%' :: rest))).flatMap PatternItem.spread =
      charItem '%' :: (patternItems 0 (replaceLooseBehind rest)).flatMap PatternItem.spread := by
  rw [replaceLoose_percent, replaceLooseBehind_percent, replaceLoose_percent]
  exact Calendar.spread_copied '%' (replaceLooseBehind rest)

/-- A number sign and a z are where the pattern has them. -/
theorem Scans.sign_and_z (later : Scans rest pieces) (c : Char) :
    ['#', 'z'] <+: c :: patternFrom 0 rest ↔
      c = '#' ∧ (pieces.map Piece.item).head? = some (.literal ['z']) := by
  rw [List.cons_prefix_cons, List.singleton_prefix_iff_head?_eq_some, eq_comm,
    later.head?_eq_some (by decide) (by decide)]

/-- The items of the pattern that a layout is written with, from the beginning of it or from behind
a percent sign. -/
theorem Scans.spread_written (scans : Scans text pieces) :
    (patternItems 0 (replaceLoose (patternFrom 0 text))).flatMap PatternItem.spread =
        writtenItems false (pieces.map Piece.item) ∧
      (patternItems 0 (replaceLooseBehind (patternFrom 0 text))).flatMap PatternItem.spread =
        writtenItems true (pieces.map Piece.item) := by
  induction scans with
  | nil => exact ⟨rfl, rfl⟩
  | @part part _ rest pieces found _ inductionHypothesis =>
    obtain ⟨directive, listed, pattern⟩ := patternFrom_of_isLongest found
    have isDirective := isDirective_itemOf found.listed
    have items :
        (patternItems 0 (replaceLoose (directive.toList ++ patternFrom 0 rest))).flatMap
            PatternItem.spread =
          inFull (itemOf part) :: writtenItems false (pieces.map Piece.item) := by
      rw [patternItems_replaceLoose listed, List.flatMap_cons,
        Calendar.spread_of_isDirective (isDirective_inFull isDirective), inductionHypothesis.1]
      rfl
    rw [pattern, replaceLooseBehind_directive listed, items, List.map_cons, Piece.item,
      writtenItems_directive isDirective, writtenItems_directive isDirective]
    exact ⟨rfl, rfl⟩
  | @char c rest pieces absent later inductionHypothesis =>
    rw [patternFrom_of_absent absent, List.map_cons, Piece.item, writtenItems_charItem,
      writtenItems_charItem_behind]
    by_cases percent : c = '%'
    · subst percent
      have twice : copied '%' ++ patternFrom 0 rest = '%' :: '%' :: patternFrom 0 rest := rfl
      have items := spread_replaceLoose_percents (patternFrom 0 rest)
      rw [inductionHypothesis.2] at items
      -- a percent sign is no number sign, so nothing is lost behind another one
      rw [twice, replaceLooseBehind_percent, if_neg (by simp)]
      exact ⟨items, items⟩
    · have single : copied c = [c] := if_neg (by simpa using percent)
      have items := spread_replaceLoose_cons percent (patternFrom 0 rest)
      rw [inductionHypothesis.1] at items
      rw [single, List.singleton_append, decide_eq_false percent]
      refine ⟨items, ?_⟩
      rw [replaceLooseBehind]
      by_cases isLost : ['#', 'z'] <+: c :: patternFrom 0 rest
      · rw [if_pos isLost, if_pos ((later.sign_and_z c).mp isLost), List.tail_cons,
          inductionHypothesis.1]
      · rw [if_neg isLost, if_neg (mt (later.sign_and_z c).mpr isLost), items]

theorem spread_itemsOf_pattern {layout : String} (scans : Scans layout.toList pieces) :
    (itemsOf (pattern layout)).flatMap PatternItem.spread = pieces.map Piece.item := by
  rw [itemsOf, pattern, String.toList_ofList, scans.spread]

theorem spread_itemsOf_writingPattern {layout : String} (scans : Scans layout.toList pieces) :
    (itemsOf (writingPattern layout)).flatMap PatternItem.spread =
      writtenItems false (pieces.map Piece.item) := by
  rw [itemsOf, writingPattern, String.toList_ofList, pattern, String.toList_ofList,
    ← scans.spread_written.1]
  rfl

/-- What is written for some items is among them, or is an offset in full. -/
theorem exists_of_mem_writtenItems {behindPercent : Bool} {items : List PatternItem}
    {item : PatternItem} (member : item ∈ writtenItems behindPercent items) :
    ∃ read ∈ items, item = inFull read := by
  induction items generalizing behindPercent with
  | nil => cases member
  | cons first rest inductionHypothesis =>
    rw [writtenItems] at member
    split at member
    · obtain ⟨read, inRest, same⟩ := inductionHypothesis member
      exact ⟨read, List.mem_cons_of_mem _ inRest, same⟩
    · rcases List.mem_cons.mp member with rfl | later
      · exact ⟨first, List.mem_cons_self, rfl⟩
      · obtain ⟨read, inRest, same⟩ := inductionHypothesis later
        exact ⟨read, List.mem_cons_of_mem _ inRest, same⟩

/-- The item of a piece is a directive or a character. -/
theorem Scans.item_cases (scans : Scans text pieces) {item : PatternItem}
    (member : item ∈ pieces.map Piece.item) :
    item.isDirective = true ∨ ∃ c, item = charItem c := by
  induction scans with
  | nil => cases member
  | part found _ inductionHypothesis =>
    rcases List.mem_cons.mp member with rfl | later
    · exact .inl (isDirective_itemOf found.listed)
    · exact inductionHypothesis later
  | @char c _ _ _ _ inductionHypothesis =>
    rcases List.mem_cons.mp member with rfl | later
    · exact .inr ⟨c, rfl⟩
    · exact inductionHypothesis later

theorem canBeWritten_inFull {item : PatternItem}
    (known : item.isDirective = true ∨ ∃ c, item = charItem c) :
    (inFull item).canBeWritten = true := by
  rcases known with directive | ⟨c, rfl⟩
  · cases item <;> first | rfl | cases directive
  · rw [inFull_charItem]
    unfold charItem
    split <;> rfl

/-- An item that is neither text nor blanks is among the items character by character. -/
theorem canBeWritten_of_spread {items : List PatternItem}
    (each : ∀ item ∈ items.flatMap PatternItem.spread, item.canBeWritten = true)
    {item : PatternItem} (member : item ∈ items) : item.canBeWritten = true := by
  have spread : ∀ single ∈ item.spread, single.canBeWritten = true :=
    fun single inside => each single (List.mem_flatMap.mpr ⟨item, member, inside⟩)
  cases item with
  | literal _ | blanks _ => rfl
  | _ => exact spread _ List.mem_cons_self

/-- A layout falls into pieces in one way: from the left, at every place the longest part of the
reference time that stands there, or else a character. As a date pattern it has, in this order, the
one directive that stands for each part and each character as it is, percent signs too, and nothing
else. The pattern that it is written with has the same, but for offsets in full and the number
signs that are lost; all its items can be written, so writing never fails. -/
theorem itemsOf_pattern (layout : String) :
    (∀ token ∈ tokens, itemsOf token.2 = [itemOf token.1] ∧ (itemOf token.1).isDirective = true) ∧
    Scans layout.toList (piecesOf layout) ∧
    (∀ others, Scans layout.toList others → others = piecesOf layout) ∧
    (itemsOf (pattern layout)).flatMap PatternItem.spread = (piecesOf layout).map Piece.item ∧
    (itemsOf (writingPattern layout)).flatMap PatternItem.spread =
      writtenItems false ((piecesOf layout).map Piece.item) ∧
    ∀ item ∈ itemsOf (writingPattern layout), item.canBeWritten = true := by
  have scans := scans_piecesOf layout
  have written := spread_itemsOf_writingPattern scans
  refine ⟨fun token listed => ⟨itemsOf_directive listed,
    isDirective_itemOf (List.mem_map_of_mem listed)⟩, scans,
    fun others scansToo => scans.unique scansToo, spread_itemsOf_pattern scans, written,
    fun item member => ?_⟩
  refine canBeWritten_of_spread (fun single inside => ?_) member
  rw [written] at inside
  obtain ⟨read, inItems, rfl⟩ := exists_of_mem_writtenItems inside
  exact canBeWritten_inFull (scans.item_cases inItems)

end Layout

end Metasearch
