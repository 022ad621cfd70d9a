/-
This file settles what it is to replace a text within another. A text falls into the pieces between
the occurrences of a needle, found from the left and without overlaps; no piece has the needle in
it, and put together with the needle between them they are the text again. Replacing puts something
else between them, so it changes nothing exactly if there is nothing to replace.

A needle whose first character does not come again in it cannot overlap itself. So nothing around
an occurrence of it changes what the pieces on either side are.
-/
import Mathlib.Algebra.Order.BigOperators.Group.List
import Mathlib.Algebra.Order.Group.Nat
import Mathlib.Data.List.Infix
import Metasearch.Text.Search

namespace Metasearch.Text

variable {needle replacement : List Char}

/-! ### Occurrences -/

/-- A needle does not occur across characters other than its first one. -/
theorem infix_append_of_not_mem {mark : Char} {more front : List Char} (absent : mark ∉ front)
    (rest : List Char) : mark :: more <:+: front ++ rest ↔ mark :: more <:+: rest := by
  induction front with
  | nil => rfl
  | cons c front inductionHypothesis =>
    rw [List.mem_cons, not_or] at absent
    rw [List.cons_append, List.infix_cons_iff, inductionHypothesis absent.2,
      or_iff_right fun begins => absent.1 (List.cons_prefix_cons.mp begins).1]

/-- A needle does not occur across a character that does not stand in it. -/
theorem infix_append_cons {c : Char} (absent : c ∉ needle) (left right : List Char) :
    needle <:+: left ++ c :: right ↔ needle <:+: left ∨ needle <:+: right := by
  constructor
  · intro occurs
    rcases List.infix_append_iff.mp occurs with inLeft | behind | ⟨front, back, rfl, ends, begins⟩
    · exact .inl inLeft
    · rcases List.infix_cons_iff.mp behind with begins | inRight
      · cases needle with
        | nil => exact .inl List.nil_infix
        | cons d needle =>
          obtain rfl := (List.cons_prefix_cons.mp begins).1
          exact absurd List.mem_cons_self absent
      · exact .inr inRight
    · cases back with
      | nil => exact .inl ((List.append_nil front).symm ▸ ends.isInfix)
      | cons d back =>
        obtain rfl := (List.cons_prefix_cons.mp begins).1
        exact absurd (List.mem_append_right _ List.mem_cons_self) absent
  · rintro (inLeft | inRight)
    · exact inLeft.trans (List.prefix_append _ _).isInfix
    · exact inRight.trans ((List.suffix_cons c right).trans (List.suffix_append _ _)).isInfix

/-! ### Pieces -/

/-- What the first of several texts begins with comes before all of them put together. -/
theorem intercalate_append_cons (mark front head : List Char) (tail : List (List Char)) :
    mark.intercalate ((front ++ head) :: tail) = front ++ mark.intercalate (head :: tail) := by
  cases tail with
  | nil => rw [List.intercalate_singleton, List.intercalate_singleton]
  | cons next tail =>
    rw [List.intercalate_cons_cons, List.intercalate_cons_cons, List.append_assoc,
      List.append_assoc, List.append_assoc]

/-- Each of several texts stands in all of them put together. -/
theorem infix_of_mem_intercalate (mark : List Char) {pieces : List (List Char)}
    {piece : List Char} (isPiece : piece ∈ pieces) : piece <:+: mark.intercalate pieces := by
  induction pieces with
  | nil => cases isPiece
  | cons first rest inductionHypothesis =>
    cases rest with
    | nil => rw [List.mem_singleton.mp isPiece, List.intercalate_singleton]
    | cons next rest =>
      rw [List.intercalate_cons_cons, List.append_assoc]
      rcases List.mem_cons.mp isPiece with rfl | later
      · exact (List.prefix_append _ _).isInfix
      · exact (inductionHypothesis later).trans
          ((List.suffix_append _ _).trans (List.suffix_append _ _)).isInfix

theorem piecesAfter_ne_nil (needle : List Char) (skip : Nat) (text : List Char) :
    piecesAfter needle skip text ≠ [] := by
  induction text generalizing skip with
  | nil => simp [piecesAfter]
  | cons c rest inductionHypothesis =>
    cases skip with
    | succ skip => exact inductionHypothesis skip
    | zero =>
      rw [piecesAfter]
      split
      · simp
      · split <;> simp

theorem piecesAfter_append (front rest : List Char) :
    piecesAfter needle front.length (front ++ rest) = piecesAfter needle 0 rest := by
  induction front with
  | nil => rfl
  | cons c front inductionHypothesis => exact inductionHypothesis

theorem splitOn_ne_nil (needle text : List Char) : splitOn needle text ≠ [] :=
  piecesAfter_ne_nil needle 0 text

/-- An occurrence ends the piece before it, and what is behind it is looked at on its own. -/
theorem splitOn_append (present : needle ≠ []) (rest : List Char) :
    splitOn needle (needle ++ rest) = [] :: splitOn needle rest := by
  obtain ⟨c, more, rfl⟩ := List.exists_cons_of_ne_nil present
  have occurs : (c :: more).isPrefixOf (c :: (more ++ rest)) = true :=
    List.isPrefixOf_iff_prefix.mpr (List.prefix_append (c :: more) rest)
  have behind : piecesAfter (c :: more) ((c :: more).length - 1) (more ++ rest) =
      piecesAfter (c :: more) 0 rest := piecesAfter_append more rest
  rw [splitOn, List.cons_append, piecesAfter, if_pos occurs, behind, splitOn]

/-- A character with which no occurrence begins is one more of the piece behind it. -/
theorem splitOn_cons {c : Char} {rest : List Char} (absent : ¬ needle <+: c :: rest) :
    ∃ head tail, splitOn needle rest = head :: tail ∧
      splitOn needle (c :: rest) = (c :: head) :: tail := by
  obtain ⟨head, tail, pieces⟩ := List.exists_cons_of_ne_nil (splitOn_ne_nil needle rest)
  refine ⟨head, tail, pieces, ?_⟩
  rw [splitOn, piecesAfter, if_neg (mt List.isPrefixOf_iff_prefix.mp absent)]
  rw [splitOn] at pieces
  rw [pieces]

/-- Characters other than the first one of the needle are what the first piece begins with. -/
theorem splitOn_append_of_not_mem {mark : Char} {front : List Char} (absent : mark ∉ front)
    (more rest : List Char) :
    ∃ head tail, splitOn (mark :: more) rest = head :: tail ∧
      splitOn (mark :: more) (front ++ rest) = (front ++ head) :: tail := by
  induction front with
  | nil =>
    obtain ⟨head, tail, pieces⟩ := List.exists_cons_of_ne_nil (splitOn_ne_nil (mark :: more) rest)
    exact ⟨head, tail, pieces, pieces⟩
  | cons c front inductionHypothesis =>
    rw [List.mem_cons, not_or] at absent
    have noneHere : ¬ mark :: more <+: c :: (front ++ rest) :=
      fun begins => absent.1 (List.cons_prefix_cons.mp begins).1
    obtain ⟨head, tail, pieces, longer⟩ := inductionHypothesis absent.2
    obtain ⟨first, others, found, further⟩ := splitOn_cons noneHere
    obtain ⟨rfl, rfl⟩ := List.cons.inj (longer.symm.trans found)
    exact ⟨head, tail, pieces, further⟩

/-- Characters other than the first one of the needle are a piece if an occurrence follows them. -/
theorem splitOn_append_append {mark : Char} {front : List Char} (absent : mark ∉ front)
    (more rest : List Char) :
    splitOn (mark :: more) (front ++ (mark :: more ++ rest)) =
      front :: splitOn (mark :: more) rest := by
  obtain ⟨head, tail, pieces, longer⟩ := splitOn_append_of_not_mem absent more (mark :: more ++ rest)
  rw [splitOn_append (List.cons_ne_nil _ _)] at pieces
  obtain ⟨rfl, rfl⟩ := List.cons.inj pieces
  rw [longer, List.append_nil]

/-- Without an occurrence there is nothing but one piece. -/
theorem splitOn_of_none {text : List Char} (absent : ¬ needle <:+: text) :
    splitOn needle text = [text] := by
  induction text with
  | nil => rfl
  | cons c rest inductionHypothesis =>
    rw [List.infix_cons_iff, not_or] at absent
    obtain ⟨head, tail, pieces, longer⟩ := splitOn_cons absent.1
    rw [inductionHypothesis absent.2] at pieces
    obtain ⟨rfl, rfl⟩ := List.cons.inj pieces
    exact longer

/-- Every text is made up from the end, by occurrences of a needle and by characters with which
none begins. -/
@[elab_as_elim]
theorem byOccurrences (present : needle ≠ []) {motive : List Char → Prop} (nil : motive [])
    (occurs : ∀ rest, motive rest → motive (needle ++ rest))
    (other : ∀ c rest, ¬ needle <+: c :: rest → motive rest → motive (c :: rest))
    (text : List Char) : motive text := by
  induction length : text.length using Nat.strongRecOn generalizing text with
  | ind size inductionHypothesis =>
    cases text with
    | nil => exact nil
    | cons c rest =>
      by_cases here : needle <+: c :: rest
      · obtain ⟨behind, begins⟩ := here
        have total := congrArg List.length begins
        have some := List.length_pos_iff.mpr present
        rw [List.length_append, length] at total
        rw [← begins]
        exact occurs behind (inductionHypothesis _ (by omega) behind rfl)
      · rw [List.length_cons] at length
        exact other c rest here (inductionHypothesis _ (by omega) rest rfl)

/-- The pieces with the needle between them are the text. -/
theorem intercalate_splitOn (present : needle ≠ []) (text : List Char) :
    needle.intercalate (splitOn needle text) = text := by
  induction text using byOccurrences present with
  | nil => rfl
  | occurs rest inductionHypothesis =>
    obtain ⟨head, tail, pieces⟩ := List.exists_cons_of_ne_nil (splitOn_ne_nil needle rest)
    rw [splitOn_append present, pieces, List.intercalate_cons_cons, ← pieces, inductionHypothesis]
    rfl
  | other c rest absent inductionHypothesis =>
    obtain ⟨head, tail, pieces, longer⟩ := splitOn_cons absent
    rw [pieces] at inductionHypothesis
    rw [longer]
    exact (intercalate_append_cons needle [c] head tail).trans
      (congrArg (c :: ·) inductionHypothesis)

/-- The first piece is what the text begins with. -/
theorem prefix_of_splitOn (present : needle ≠ []) {text head : List Char}
    {tail : List (List Char)} (pieces : splitOn needle text = head :: tail) : head <+: text := by
  rw [← intercalate_splitOn present text, pieces]
  cases tail with
  | nil => rw [List.intercalate_singleton]
  | cons next tail =>
    rw [List.intercalate_cons_cons, List.append_assoc]
    exact List.prefix_append _ _

/-- No piece has the needle in it. -/
theorem not_infix_of_mem_splitOn (present : needle ≠ []) {text piece : List Char}
    (isPiece : piece ∈ splitOn needle text) : ¬ needle <:+: piece := by
  induction text using byOccurrences present generalizing piece with
  | nil =>
    obtain rfl : piece = [] := List.mem_singleton.mp isPiece
    exact fun occurs => present (List.eq_nil_of_infix_nil occurs)
  | occurs rest inductionHypothesis =>
    rw [splitOn_append present] at isPiece
    rcases List.mem_cons.mp isPiece with rfl | later
    · exact fun occurs => present (List.eq_nil_of_infix_nil occurs)
    · exact inductionHypothesis later
  | other c rest absent inductionHypothesis =>
    obtain ⟨head, tail, pieces, longer⟩ := splitOn_cons absent
    rw [pieces] at inductionHypothesis
    rw [longer] at isPiece
    rcases List.mem_cons.mp isPiece with rfl | later
    · rw [List.infix_cons_iff, not_or]
      refine ⟨fun begins => absent (begins.trans ?_), inductionHypothesis List.mem_cons_self⟩
      exact (List.prefix_cons_inj c).mpr (prefix_of_splitOn present pieces)
    · exact inductionHypothesis (List.mem_cons_of_mem _ later)

/-! ### Replacing -/

/-- An occurrence is replaced where it begins, and what is behind it is looked at on its own. -/
theorem replaceAll_append (present : needle ≠ []) (rest : List Char) :
    replaceAll needle replacement (needle ++ rest) =
      replacement ++ replaceAll needle replacement rest := by
  obtain ⟨head, tail, pieces⟩ := List.exists_cons_of_ne_nil (splitOn_ne_nil needle rest)
  rw [replaceAll, splitOn_append present, replaceAll, pieces, List.intercalate_cons_cons,
    List.nil_append]

/-- A character with which no occurrence begins is kept. -/
theorem replaceAll_cons {c : Char} {rest : List Char} (absent : ¬ needle <+: c :: rest) :
    replaceAll needle replacement (c :: rest) = c :: replaceAll needle replacement rest := by
  obtain ⟨head, tail, pieces, longer⟩ := splitOn_cons absent
  rw [replaceAll, longer, replaceAll, pieces]
  exact intercalate_append_cons replacement [c] head tail

/-- Characters other than the first one of the needle are kept. -/
theorem replaceAll_append_of_not_mem {mark : Char} {more front : List Char}
    (absent : mark ∉ front) (rest : List Char) :
    replaceAll (mark :: more) replacement (front ++ rest) =
      front ++ replaceAll (mark :: more) replacement rest := by
  obtain ⟨head, tail, pieces, longer⟩ := splitOn_append_of_not_mem absent more rest
  rw [replaceAll, longer, replaceAll, pieces]
  exact intercalate_append_cons replacement front head tail

theorem length_replaceAll_le (present : needle ≠ [])
    (shorter : replacement.length ≤ needle.length) (text : List Char) :
    (replaceAll needle replacement text).length ≤ text.length := by
  induction text using byOccurrences present with
  | nil => exact Nat.le_refl _
  | occurs rest inductionHypothesis =>
    rw [replaceAll_append present, List.length_append, List.length_append]
    exact Nat.add_le_add shorter inductionHypothesis
  | other c rest absent inductionHypothesis =>
    rw [replaceAll_cons absent]
    exact Nat.succ_le_succ inductionHypothesis

theorem le_length_replaceAll (present : needle ≠ [])
    (longer : needle.length ≤ replacement.length) (text : List Char) :
    text.length ≤ (replaceAll needle replacement text).length := by
  induction text using byOccurrences present with
  | nil => exact Nat.le_refl _
  | occurs rest inductionHypothesis =>
    rw [replaceAll_append present, List.length_append, List.length_append]
    exact Nat.add_le_add longer inductionHypothesis
  | other c rest absent inductionHypothesis =>
    rw [replaceAll_cons absent]
    exact Nat.succ_le_succ inductionHypothesis

/-- Replacing by something else changes a text exactly if there is something to replace. -/
theorem replaceAll_eq_self_iff (present : needle ≠ []) (differs : replacement ≠ needle)
    (text : List Char) :
    replaceAll needle replacement text = text ↔ ¬ needle <:+: text := by
  induction text using byOccurrences present with
  | nil =>
    exact iff_of_true rfl fun occurs => present (List.eq_nil_of_infix_nil occurs)
  | occurs rest _ =>
    refine iff_of_false (fun same => differs ?_) fun absent =>
      absent (List.prefix_append needle rest).isInfix
    rw [replaceAll_append present] at same
    refine (List.append_inj same ?_).1
    -- what is replaced behind it makes up for no difference in length
    have total := congrArg List.length same
    rw [List.length_append, List.length_append] at total
    rcases Nat.le_total replacement.length needle.length with shorter | longer
    · have behind := length_replaceAll_le present shorter rest
      omega
    · have behind := le_length_replaceAll present longer rest
      omega
  | other c rest absent inductionHypothesis =>
    rw [replaceAll_cons absent, List.cons.injEq, and_iff_right rfl, inductionHypothesis,
      List.infix_cons_iff, or_iff_right absent]

/-- Two rows of texts that are alike as a whole are alike text by text, if no text of the one is
longer than that of the other. -/
theorem eq_of_flatMap_eq {Member : Type} {members : List Member} {left right : Member → List Char}
    (shorter : ∀ member ∈ members, (left member).length ≤ (right member).length)
    (same : members.flatMap left = members.flatMap right) :
    ∀ member ∈ members, left member = right member := by
  induction members with
  | nil => exact fun _ member => absurd member List.not_mem_nil
  | cons first rest inductionHypothesis =>
    obtain ⟨shorterHere, shorterLater⟩ := List.forall_mem_cons.mp shorter
    have shorterRest : (rest.flatMap left).length ≤ (rest.flatMap right).length := by
      rw [List.length_flatMap, List.length_flatMap]
      exact List.sum_le_sum shorterLater
    have total := congrArg List.length same
    rw [List.flatMap_cons, List.flatMap_cons, List.length_append, List.length_append] at total
    obtain ⟨here, later⟩ := List.append_inj same (by omega)
    exact List.forall_mem_cons.mpr ⟨here, inductionHypothesis shorterLater later⟩

/-- Texts put together, with the mark in front of each of them. -/
theorem append_intercalate (mark : List Char) {pieces : List (List Char)} (some : pieces ≠ []) :
    mark ++ mark.intercalate pieces = pieces.flatMap (mark ++ ·) := by
  induction pieces with
  | nil => exact absurd rfl some
  | cons piece rest inductionHypothesis =>
    cases rest with
    | nil => rw [List.intercalate_singleton, List.flatMap_singleton]
    | cons next rest =>
      rw [List.intercalate_cons_cons, List.flatMap_cons,
        ← inductionHypothesis (List.cons_ne_nil _ _), List.append_assoc, List.append_assoc]

/-- So it is with a mark between the texts. -/
theorem eq_of_intercalate_eq {Member : Type} {members : List Member}
    {left right : Member → List Char} (mark : List Char)
    (shorter : ∀ member ∈ members, (left member).length ≤ (right member).length)
    (same : mark.intercalate (members.map left) = mark.intercalate (members.map right)) :
    ∀ member ∈ members, left member = right member := by
  intro member isMember
  have some : members ≠ [] := List.ne_nil_of_mem isMember
  have marked := congrArg (mark ++ ·) same
  simp only [append_intercalate mark (mt List.map_eq_nil_iff.mp some), List.flatMap_map] at marked
  refine List.append_cancel_left (eq_of_flatMap_eq (fun other isOther => ?_) marked member isMember)
  rw [List.length_append, List.length_append]
  exact Nat.add_le_add_left (shorter other isOther) _

/-! ### Needles that do not overlap themselves -/

variable {mark : Char} {more : List Char}

/-- An occurrence does not reach a character that it has at its beginning at the most. -/
theorem prefix_of_prefix_append_cons {c : Char} (absent : c ∉ more) {front right : List Char}
    (some : front ≠ []) (begins : mark :: more <+: front ++ c :: right) :
    mark :: more <+: front := by
  rcases Nat.le_total (mark :: more).length front.length with within | beyond
  · exact List.prefix_of_prefix_length_le begins (List.prefix_append _ _) within
  · obtain ⟨behind, isBehind⟩ :=
      List.prefix_of_prefix_length_le (List.prefix_append front (c :: right)) begins beyond
    rw [← isBehind, List.prefix_append_right_inj] at begins
    cases behind with
    | nil => rw [← isBehind, List.append_nil]
    | cons d behind =>
      obtain rfl := (List.cons_prefix_cons.mp begins).1
      obtain ⟨e, front, rfl⟩ := List.exists_cons_of_ne_nil some
      rw [List.cons_append] at isBehind
      exact absurd ((List.cons.inj isBehind).2 ▸ List.mem_append_right _ List.mem_cons_self) absent

/-- A text is replaced on both sides of a character that does not stand in the needle. -/
theorem replaceAll_append_cons {c : Char} (absent : c ∉ mark :: more) (left right : List Char) :
    replaceAll (mark :: more) replacement (left ++ c :: right) =
      replaceAll (mark :: more) replacement left ++
        c :: replaceAll (mark :: more) replacement right := by
  have present : mark :: more ≠ [] := List.cons_ne_nil _ _
  rw [List.mem_cons, not_or] at absent
  induction left using byOccurrences present with
  | nil => exact replaceAll_cons fun begins => absent.1 (List.cons_prefix_cons.mp begins).1.symm
  | occurs rest inductionHypothesis =>
    rw [List.append_assoc, replaceAll_append present, replaceAll_append present,
      inductionHypothesis, List.append_assoc]
  | other d rest notHere inductionHypothesis =>
    have notBefore : ¬ mark :: more <+: d :: (rest ++ c :: right) := fun begins =>
      notHere (prefix_of_prefix_append_cons absent.2 (List.cons_ne_nil d rest) begins)
    rw [List.cons_append, replaceAll_cons notBefore, replaceAll_cons notHere, inductionHypothesis]
    rfl

/-- A text is replaced on both sides of an occurrence, which is replaced itself. -/
theorem replaceAll_append_append (single : mark ∉ more) (left right : List Char) :
    replaceAll (mark :: more) replacement (left ++ (mark :: more ++ right)) =
      replaceAll (mark :: more) replacement left ++
        (replacement ++ replaceAll (mark :: more) replacement right) := by
  have present : mark :: more ≠ [] := List.cons_ne_nil _ _
  induction left using byOccurrences present with
  | nil => exact replaceAll_append present right
  | occurs rest inductionHypothesis =>
    rw [List.append_assoc, replaceAll_append present, replaceAll_append present,
      inductionHypothesis, List.append_assoc]
  | other c rest notHere inductionHypothesis =>
    have notBefore : ¬ mark :: more <+: c :: (rest ++ (mark :: more ++ right)) := fun begins =>
      notHere (prefix_of_prefix_append_cons single (List.cons_ne_nil c rest) begins)
    rw [List.cons_append, replaceAll_cons notBefore, replaceAll_cons notHere, inductionHypothesis]
    rfl

end Metasearch.Text
