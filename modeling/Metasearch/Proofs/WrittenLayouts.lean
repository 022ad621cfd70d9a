/-
This file settles what becomes of the text of a layout when an instant is written with it. A layout
is a row of stretches: parts of the reference time, and the text between two of them. Each part is
written as it is when it stands alone, and the text is copied; but every number sign between a
percent sign and a z is left out. That is so because an offset in a date pattern, `%#z`, is written
in full by replacing text, and a percent sign that is copied stands there twice, so that the second
one and what follows it can look like that offset.

So the text of a layout is copied as it is exactly if it has no number sign in such a place.
-/
import Mathlib.Data.List.Chain
import Metasearch.Proofs.LayoutRoundTrips

namespace Metasearch.Layout

open Calendar (PatternItem Instant Timestamp charItem itemsOf writtenItem)

/-! ### Stretches -/

/-- A stretch of a layout: a part of the reference time, or all the text up to the next one. -/
inductive Stretch
  | part (name : String)
  | text (run : List Char)
  deriving DecidableEq, Repr

/-- What stands in the layout. -/
def Stretch.source : Stretch → List Char
  | .part name => name.toList
  | .text run => run

/-- The items of a stretch, character by character. -/
def Stretch.items : Stretch → List PatternItem
  | .part name => [itemOf name]
  | .text run => run.map charItem

/-- What may stand behind what: no text behind another text, so that a text is all there is between
two parts. -/
def Stretch.Follows : Stretch → Stretch → Prop
  | .text _, .text _ => False
  | _, _ => True

/-- The stretches of a row of pieces. -/
def stretches : List Piece → List Stretch
  | [] => []
  | .part name :: rest => .part name :: stretches rest
  | .char c :: rest =>
    match stretches rest with
    | .text run :: others => .text (c :: run) :: others
    | others => .text [c] :: others

/-- The stretches of a layout. -/
def stretchesOf (layout : String) : List Stretch :=
  stretches (piecesOf layout)

theorem items_stretches (pieces : List Piece) :
    (stretches pieces).flatMap Stretch.items = pieces.map Piece.item := by
  induction pieces with
  | nil => rfl
  | cons piece rest inductionHypothesis =>
    rw [List.map_cons, ← inductionHypothesis]
    cases piece with
    | part name => rfl
    | char c =>
      rw [stretches]
      split <;> simp [Stretch.items, Piece.item, *]

theorem isChain_stretches (pieces : List Piece) :
    (stretches pieces).IsChain Stretch.Follows := by
  induction pieces with
  | nil => exact .nil
  | cons piece rest inductionHypothesis =>
    cases piece with
    | part name =>
      rw [stretches]
      cases found : stretches rest with
      | nil => exact .singleton _
      | cons next others => exact .cons_cons trivial (found ▸ inductionHypothesis)
    | char c =>
      rw [stretches]
      cases found : stretches rest with
      | nil => exact .singleton _
      | cons next others =>
        rw [found] at inductionHypothesis
        cases next with
        | part name => exact .cons_cons trivial inductionHypothesis
        | text run =>
          cases others with
          | nil => exact .singleton _
          | cons behind others =>
            obtain ⟨follows, later⟩ := List.isChain_cons_cons.mp inductionHypothesis
            refine .cons_cons ?_ later
            cases behind with
            | part name => trivial
            | text other => exact follows

theorem part_mem_stretches {pieces : List Piece} {name : String}
    (member : .part name ∈ stretches pieces) : .part name ∈ pieces := by
  induction pieces with
  | nil => cases member
  | cons piece rest inductionHypothesis =>
    cases piece with
    | part other =>
      rcases List.mem_cons.mp member with same | later
      · cases same
        exact List.mem_cons_self
      · exact List.mem_cons_of_mem _ (inductionHypothesis later)
    | char c =>
      rw [stretches] at member
      refine List.mem_cons_of_mem _ (inductionHypothesis ?_)
      cases found : stretches rest with
      | nil => simp [found] at member
      | cons next others =>
        rw [found] at member
        cases next <;> simp at member ⊢ <;> exact member

theorem Scans.source_stretches {text : List Char} {pieces : List Piece}
    (scans : Scans text pieces) : (stretches pieces).flatMap Stretch.source = text := by
  induction scans with
  | nil => rfl
  | part found _ inductionHypothesis =>
    rw [stretches, List.flatMap_cons, inductionHypothesis, found.begins]
    rfl
  | @char c rest pieces _ _ inductionHypothesis =>
    rw [← inductionHypothesis, stretches]
    cases stretches pieces with
    | nil => rfl
    | cons next others => cases next <;> rfl

/-! ### Stretches as they are written -/

section Written

variable (time : Timestamp) (zone : String)

theorem writtenItem_charItem (c : Char) : writtenItem time zone (charItem c) = [c] := by
  unfold charItem
  split <;> rfl

/-- A stretch as it is written, by the items of its parts. -/
def Stretch.written : Stretch → List Char
  | .part name => writtenItem time zone (inFull (itemOf name))
  | .text run => replaceLoose run

/-- A text is written by itself: what is behind it is a part, and does not begin with a z. -/
theorem written_run {rest : List PatternItem}
    (apart : ∀ item, rest.head? = some item → item.isDirective = true) (run : List Char) :
    (writtenItems false (run.map charItem ++ rest)).flatMap (writtenItem time zone) =
        replaceLoose run ++ (writtenItems false rest).flatMap (writtenItem time zone) ∧
      (writtenItems true (run.map charItem ++ rest)).flatMap (writtenItem time zone) =
        replaceLooseBehind run ++ (writtenItems false rest).flatMap (writtenItem time zone) := by
  -- both starts at once: behind a percent sign the text may begin with a number sign
  induction run with
  | nil =>
    refine ⟨rfl, ?_⟩
    cases rest with
    | nil => rfl
    | cons item rest =>
      have directive := apart item rfl
      rw [List.map_nil, List.nil_append, writtenItems_directive directive,
        writtenItems_directive directive]
      rfl
  | cons c run inductionHypothesis =>
    obtain ⟨fromStart, behindPercent⟩ := inductionHypothesis
    have kept : (charItem c :: writtenItems (decide (c = '%')) (run.map charItem ++ rest)).flatMap
          (writtenItem time zone) =
        replaceLoose (c :: run) ++ (writtenItems false rest).flatMap (writtenItem time zone) := by
      rw [List.flatMap_cons, writtenItem_charItem]
      by_cases percent : c = '%'
      · subst percent
        rw [replaceLoose_percent, decide_eq_true rfl, behindPercent]
        rfl
      · rw [replaceLoose_cons percent, decide_eq_false percent, fromStart]
        rfl
    have z : (run.map charItem ++ rest).head? = some (.literal ['z']) ↔ run.head? = some 'z' := by
      cases run with
      | nil =>
        refine iff_of_false (fun literal => ?_) (by simp)
        have directive := apart _ literal
        cases directive
      | cons d run =>
        have solid : Text.isBlank 'z' = false := by decide
        simp [Calendar.charItem_eq_literal solid]
    have lost : ['#', 'z'] <+: c :: run ↔
        c = '#' ∧ (run.map charItem ++ rest).head? = some (.literal ['z']) := by
      rw [z, List.cons_prefix_cons, List.singleton_prefix_iff_head?_eq_some, eq_comm]
    rw [List.map_cons, List.cons_append, writtenItems_charItem, writtenItems_charItem_behind]
    refine ⟨kept, ?_⟩
    rw [replaceLooseBehind]
    by_cases isLost : ['#', 'z'] <+: c :: run
    · rw [if_pos isLost, if_pos (lost.mp isLost)]
      exact fromStart
    · rw [if_neg isLost, if_neg (mt lost.mpr isLost), kept]

/-- Stretches are written one by one. -/
theorem written_stretches {found : List Stretch} (chain : found.IsChain Stretch.Follows)
    (listed : ∀ name, .part name ∈ found → name ∈ parts) :
    (writtenItems false (found.flatMap Stretch.items)).flatMap (writtenItem time zone) =
      found.flatMap (Stretch.written time zone) := by
  induction found with
  | nil => rfl
  | cons stretch rest inductionHypothesis =>
    have later := inductionHypothesis chain.tail
      fun name member => listed name (List.mem_cons_of_mem _ member)
    rw [List.flatMap_cons, List.flatMap_cons, ← later]
    cases stretch with
    | part name =>
      have directive := isDirective_itemOf (listed name List.mem_cons_self)
      rw [Stretch.items, List.singleton_append, writtenItems_directive directive]
      rfl
    | text run =>
      refine (written_run time zone (fun item first => ?_) run).1
      cases rest with
      | nil => cases first
      | cons next others =>
        cases next with
        | text other => exact absurd (List.isChain_cons_cons.mp chain).1 id
        | part name =>
          cases first
          exact isDirective_itemOf (listed name (List.mem_cons_of_mem _ List.mem_cons_self))

end Written

theorem toList_write (instant : Instant) (layout : String) :
    (write instant layout).toList =
      (stretchesOf layout).flatMap (Stretch.written ⟨instant, 0⟩ "UTC") := by
  have scans := scans_piecesOf layout
  rw [write, Calendar.writeWith, String.toList_ofList, ← Calendar.flatMap_writtenItem_spread,
    spread_itemsOf_writingPattern scans, ← items_stretches]
  exact written_stretches _ _ (isChain_stretches _)
    fun name member => scans.mem_parts (part_mem_stretches member)

/-- A part of the reference time falls into nothing but itself. -/
theorem stretchesOf_part {name : String} (listed : name ∈ parts) :
    stretchesOf name = [.part name] := by
  have alone : IsLongest name name.toList [] :=
    ⟨listed, (List.append_nil _).symm, fun other _ stands => stands.length_le⟩
  rw [stretchesOf, ← (scans_piecesOf name).unique (.part alone .nil)]
  rfl

/-- What a stretch is written as: a part as it is written alone, a text without the number signs
that stand between a percent sign and a z. -/
def Stretch.shown (instant : Instant) : Stretch → List Char
  | .part name => (write instant name).toList
  | .text run => Text.replaceAll ['%', '#', 'z'] ['%', 'z'] run

/-- A stretch with its text copied as it is. -/
def Stretch.copied (instant : Instant) : Stretch → List Char
  | .part name => (write instant name).toList
  | .text run => run

variable {layout : String} {stretch : Stretch}

theorem listed_of_mem_stretchesOf {name : String} (member : .part name ∈ stretchesOf layout) :
    name ∈ parts :=
  (scans_piecesOf layout).mem_parts (part_mem_stretches member)

theorem shown_eq_written (instant : Instant) (member : stretch ∈ stretchesOf layout) :
    stretch.written ⟨instant, 0⟩ "UTC" = stretch.shown instant := by
  cases stretch with
  | part name =>
    rw [Stretch.shown, toList_write, stretchesOf_part (listed_of_mem_stretchesOf member),
      List.flatMap_singleton]
  | text run => rfl

theorem shown_le_copied (instant : Instant) (stretch : Stretch) :
    (stretch.shown instant).length ≤ (stretch.copied instant).length := by
  cases stretch with
  | part name => exact Nat.le_refl _
  | text run => exact Text.length_replaceAll_le (by decide) (by decide) run

/-! ### Where a number sign is left out -/

/-- No part begins with a percent sign, a number sign or a z. -/
theorem head_source {name : String} (listed : name ∈ parts) {rest : List Stretch} {c : Char}
    (first : ((Stretch.part name :: rest).flatMap Stretch.source).head? = some c) :
    c ∉ ['%', '#', 'z'] := by
  obtain ⟨noPercent, d, more, letters, noSign, noZ⟩ := part_begins listed
  rw [List.flatMap_cons, Stretch.source, letters] at first
  obtain rfl : d = c := Option.some.inj first
  rw [letters, List.mem_cons, not_or] at noPercent
  simp [noSign, noZ, Ne.symm noPercent.1]

/-- A number sign between a percent sign and a z stands with both of them in one text. -/
theorem infix_source_iff {found : List Stretch} (chain : found.IsChain Stretch.Follows)
    (listed : ∀ name, .part name ∈ found → name ∈ parts) :
    ['%', '#', 'z'] <:+: found.flatMap Stretch.source ↔
      ∃ run, .text run ∈ found ∧ ['%', '#', 'z'] <:+: run := by
  induction found with
  | nil => simp
  | cons stretch rest inductionHypothesis =>
    have later := inductionHypothesis chain.tail
      fun name member => listed name (List.mem_cons_of_mem _ member)
    rw [List.flatMap_cons]
    cases stretch with
    | part name =>
      have noPercent := (part_begins (listed name List.mem_cons_self)).1
      rw [Stretch.source, Text.infix_append_of_not_mem noPercent, later]
      simp
    | text run =>
      have across : (∃ front behind, ['%', '#', 'z'] = front ++ behind ∧ front <:+ run ∧
          behind <+: rest.flatMap Stretch.source) → ['%', '#', 'z'] <:+: run := by
        rintro ⟨front, behind, whole, ends, begins⟩
        cases behind with
        | nil => exact whole ▸ (List.append_nil front).symm ▸ ends.isInfix
        | cons c behind =>
          have member : c ∈ ['%', '#', 'z'] :=
            whole ▸ List.mem_append_right _ List.mem_cons_self
          obtain ⟨tail, begins⟩ := begins
          cases rest with
          | nil => cases begins
          | cons next others =>
            cases next with
            | text other => exact absurd (List.isChain_cons_cons.mp chain).1 id
            | part name =>
              have listed := listed name (List.mem_cons_of_mem _ List.mem_cons_self)
              exact absurd member (head_source listed (congrArg List.head? begins).symm)
      rw [Stretch.source, List.infix_append_iff, later]
      constructor
      · rintro (here | ⟨other, member, there⟩ | straddles)
        · exact ⟨run, List.mem_cons_self, here⟩
        · exact ⟨other, List.mem_cons_of_mem _ member, there⟩
        · exact ⟨run, List.mem_cons_self, across straddles⟩
      · rintro ⟨other, member, occurs⟩
        rcases List.mem_cons.mp member with same | later
        · cases same
          exact .inl occurs
        · exact .inr (.inl ⟨other, later, occurs⟩)

/-- Text is copied as it is exactly if no number sign stands between a percent sign and a z. -/
theorem shown_eq_copied_iff (instant : Instant) (layout : String) :
    (stretchesOf layout).flatMap (Stretch.shown instant) =
        (stretchesOf layout).flatMap (Stretch.copied instant) ↔
      ¬ ['%', '#', 'z'] <:+: layout.toList := by
  have unchanged := Text.replaceAll_eq_self_iff
    (show ['%', '#', 'z'] ≠ [] by decide) (show ['%', 'z'] ≠ ['%', '#', 'z'] by decide)
  have occurs := infix_source_iff (isChain_stretches (piecesOf layout))
    fun name member => listed_of_mem_stretchesOf member
  rw [(scans_piecesOf layout).source_stretches] at occurs
  rw [occurs, not_exists]
  constructor
  · intro same run
    rintro ⟨member, inside⟩
    have kept := Text.eq_of_flatMap_eq (fun stretch _ => shown_le_copied instant stretch) same
    exact (unchanged run).mp (kept (.text run) member) inside
  · intro absent
    refine List.flatMap_congr fun stretch member => ?_
    cases stretch with
    | part name => rfl
    | text run => exact (unchanged run).mpr fun inside => absent run ⟨member, inside⟩

/-- What an instant is written as with a layout. The layout is a row of stretches, parts of the
reference time and the text between them. Each part is written as it is when it stands alone. A text
is copied but for the number signs between a percent sign and a z; so all text is copied as it is
exactly if the layout has no such number sign, and then a layout without any part is written as
itself. -/
theorem write_stretches (layout : String) (instant : Instant) :
    (stretchesOf layout).flatMap Stretch.source = layout.toList ∧
    (stretchesOf layout).IsChain Stretch.Follows ∧
    (write instant layout).toList = (stretchesOf layout).flatMap (Stretch.shown instant) ∧
    ((write instant layout).toList = (stretchesOf layout).flatMap (Stretch.copied instant) ↔
      ¬ ['%', '#', 'z'] <:+: layout.toList) ∧
    (usedParts layout = [] →
      (write instant layout = layout ↔ ¬ ['%', '#', 'z'] <:+: layout.toList)) := by
  have source := (scans_piecesOf layout).source_stretches
  have shown : (write instant layout).toList =
      (stretchesOf layout).flatMap (Stretch.shown instant) := by
    rw [toList_write]
    exact List.flatMap_congr fun stretch member => shown_eq_written instant member
  have copied := shown_eq_copied_iff instant layout
  rw [← shown] at copied
  refine ⟨source, isChain_stretches _, shown, copied, fun noParts => ?_⟩
  have onlyText : (stretchesOf layout).flatMap (Stretch.copied instant) = layout.toList := by
    rw [← source]
    refine List.flatMap_congr fun stretch member => ?_
    cases stretch with
    | part name =>
      have used := mem_usedParts.mpr (part_mem_stretches member)
      rw [noParts] at used
      cases used
    | text run => rfl
  rw [← copied, onlyText, String.toList_inj]

theorem write_stretches_plainText : usedParts "%# of 90 %%z" = [] ∧
    write leapNoon "%# of 90 %%z" = "%# of 90 %%z" := by
  have noParts : usedParts "%# of 90 %%z" = [] := by decide
  obtain ⟨-, -, -, -, plain⟩ := write_stretches "%# of 90 %%z" leapNoon
  exact ⟨noParts, (plain noParts).mpr (by decide)⟩

/-- Not every layout without a part of the reference time is written as itself. -/
theorem write_ne_plainText :
    usedParts "%#z" = [] ∧ write leapNoon "%#z" = "%z" ∧ write leapNoon "%#z" ≠ "%#z" := by
  decide

end Metasearch.Layout
