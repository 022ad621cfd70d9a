/-
This file settles that templates can be written side by side. If two texts can each be read and
have no trim markers, and the braces at the seam do not open an action, then their concatenation
can be read, and it is written out as the one and then the other.

The pieces of the concatenation are those of the two texts, except at the seam: a text that ends
the first and a text that starts the second become one piece. An action is found where it was,
for what stands behind it does not matter to the reader. The first text leaves no part open, so
the nodes of the second are built behind those of the first as if these were not there.
-/
import Metasearch.Proofs.Outcomes
import Metasearch.Proofs.TemplateText
import Metasearch.Template.Render

namespace Metasearch

/-! ### Cutting longer texts -/

namespace Text

/-- What stands behind a text changes nothing about the first occurrence in it. -/
theorem cut_append_of_some {needle text before after : List Char}
    (found : cut needle text = some (before, after)) (more : List Char) :
    cut needle (text ++ more) = some (before, after ++ more) := by
  induction text generalizing before with
  | nil =>
    simp only [cut] at found
    split at found
    · next empty =>
      obtain rfl : needle = [] := by simpa using empty
      obtain ⟨rfl, rfl⟩ : [] = before ∧ [] = after := by simpa using found
      cases more <;> simp [cut]
    · cases found
  | cons c rest inductionHypothesis =>
    rw [cut] at found
    split at found
    · next isHere =>
      have prefixed := List.isPrefixOf_iff_prefix.mp isHere
      obtain ⟨rfl, rfl⟩ : [] = before ∧ (c :: rest).drop needle.length = after := by
        simpa using found
      rw [List.cons_append, cut, if_pos, ← List.cons_append,
        List.drop_append_of_le_length prefixed.length_le]
      exact List.isPrefixOf_iff_prefix.mpr (prefixed.trans (List.prefix_append _ _))
    · next notHere =>
      obtain ⟨⟨head, tail⟩, inRest, equal⟩ := Option.map_eq_some_iff.mp found
      obtain ⟨rfl, rfl⟩ : c :: head = before ∧ tail = after := by simpa using equal
      -- The needle fits into the rest, so it would stand in front of it whatever follows.
      have fits : needle.length ≤ (c :: rest).length := by
        have := length_of_cut inRest
        rw [List.length_cons]
        omega
      rw [List.cons_append, cut, if_neg, inductionHypothesis inRest]
      · rfl
      · intro longer
        refine notHere (List.isPrefixOf_iff_prefix.mpr ?_)
        exact List.prefix_of_prefix_length_le (List.isPrefixOf_iff_prefix.mp longer)
          (List.prefix_append (c :: rest) more) fits

/-- Behind a text in which a doubled character does not occur, it occurs where it did before,
unless the seam makes one. -/
theorem cut_double_append {mark : Char} {left right : List Char}
    (absent : cut [mark, mark] left = none)
    (apart : ¬ (left.getLast? = some mark ∧ right.head? = some mark)) :
    cut [mark, mark] (left ++ right) =
      (cut [mark, mark] right).map fun (before, after) => (left ++ before, after) := by
  induction left with
  | nil => simp
  | cons c rest inductionHypothesis =>
    rw [cut] at absent
    split at absent
    · cases absent
    · next notHere =>
      have absentBehind : cut [mark, mark] rest = none := Option.map_eq_none_iff.mp absent
      have stillNotHere : ¬ [mark, mark].isPrefixOf (c :: (rest ++ right)) = true := by
        cases rest with
        | nil =>
          cases right with
          | nil => simp
          | cons next rest =>
            intro here
            obtain ⟨rfl, rfl⟩ : mark = c ∧ mark = next := by simpa [List.isPrefixOf] using here
            exact apart ⟨rfl, rfl⟩
        | cons next rest => simpa [List.isPrefixOf] using notHere
      have apartBehind : ¬ (rest.getLast? = some mark ∧ right.head? = some mark) := by
        rintro ⟨last, head⟩
        refine apart ⟨?_, head⟩
        rw [List.getLast?_cons, last]
        rfl
      rw [List.cons_append, cut, if_neg stillNotHere, inductionHypothesis absentBehind apartBehind,
        Option.map_map]
      rfl

end Text

namespace Template

open Text (cut trim)

/-! ### Trim markers -/

/-- What stands between the braces of the actions of a text, as it is written. -/
def actionTexts (text : List Char) : List (List Char) :=
  match first : cut openingBraces text with
  | none => []
  | some (_, after) =>
    match second : cut closingBraces after with
    | none => []
    | some (body, rest) =>
      have := Text.length_of_cut first
      have := Text.length_of_cut second
      body :: actionTexts rest
termination_by text.length
decreasing_by
  simp only [openingBraces, closingBraces, List.length_cons, List.length_nil] at *
  omega

/-- The action has a trim marker at one of its ends. -/
def isMarked (action : List Char) : Bool :=
  (dropLeftMarker action).1 || (dropRightMarker action).1

/-- No action of the text has a trim marker. -/
def Unmarked (text : List Char) : Prop :=
  ∀ action ∈ actionTexts text, isMarked action = false

instance (text : List Char) : Decidable (Unmarked text) :=
  inferInstanceAs (Decidable (∀ action ∈ actionTexts text, isMarked action = false))

theorem dropLeftMarker_of_unmarked {action : List Char}
    (unmarked : (dropLeftMarker action).1 = false) : dropLeftMarker action = (false, action) := by
  unfold dropLeftMarker at unmarked ⊢
  split at unmarked
  · cases unmarked
  · split at unmarked
    · cases unmarked
    · next solid => simp [solid]
  · rfl

theorem dropRightMarker_of_unmarked {action : List Char}
    (unmarked : (dropRightMarker action).1 = false) :
    dropRightMarker action = (false, action) := by
  have reversed : dropLeftMarker action.reverse = (false, action.reverse) :=
    dropLeftMarker_of_unmarked unmarked
  rw [dropRightMarker, reversed]
  simp

/-! ### The pieces of two texts -/

/-- A text without trim markers and without an action that is left open, and the pieces that it
falls into. -/
inductive FallsInto : List Char → List Piece → Prop
  | text {content : List Char} (absent : cut openingBraces content = none) :
      FallsInto content (textPiece content)
  | action {content before after body rest : List Char} {later : List Piece}
      (opens : cut openingBraces content = some (before, after))
      (closes : cut closingBraces after = some (body, rest)) (unmarked : isMarked body = false)
      (behind : FallsInto rest later) :
      FallsInto content (textPiece before ++ .action (trim body) :: later)

theorem pieces_of_fallsInto {content : List Char} {list : List Piece}
    (falls : FallsInto content list) : pieces false content = list := by
  induction falls with
  | text absent => exact pieces_of_absent (by rw [Text.occursIn, absent]; rfl)
  | @action content before after body rest later opens closes unmarked _ inductionHypothesis =>
    obtain ⟨left, right⟩ := Bool.or_eq_false_iff.mp unmarked
    rw [pieces_of_cuts opens closes, bareAction, dropLeftMarker_of_unmarked left,
      dropRightMarker_of_unmarked right, inductionHypothesis]
    rfl

theorem actionTexts_of_cuts {content before after body rest : List Char}
    (opens : cut openingBraces content = some (before, after))
    (closes : cut closingBraces after = some (body, rest)) :
    actionTexts content = body :: actionTexts rest := by
  rw [actionTexts]
  split
  · next none => rw [opens] at none; cases none
  · next found =>
    rw [opens] at found
    cases found
    split
    · next none => rw [closes] at none; cases none
    · next found =>
      rw [closes] at found
      cases found
      rfl

theorem actionTexts_of_uncut {content : List Char} (uncut : cut openingBraces content = none) :
    actionTexts content = [] := by
  rw [actionTexts]
  split
  · rfl
  · next found => rw [uncut] at found; cases found

theorem actionTexts_of_unclosed {content before after : List Char}
    (opens : cut openingBraces content = some (before, after))
    (open? : cut closingBraces after = none) : actionTexts content = [] := by
  rw [actionTexts]
  split
  · rfl
  · next found =>
    rw [opens] at found
    cases found
    split
    · rfl
    · next found => rw [open?] at found; cases found

theorem pieces_of_unclosed {trimmed : Bool} {content before after : List Char}
    (opens : cut openingBraces content = some (before, after))
    (open? : cut closingBraces after = none) : pieces trimmed content = [.unclosed] := by
  rw [pieces]
  split
  · next none => rw [opens] at none; cases none
  · next found =>
    rw [opens] at found
    cases found
    split
    · rfl
    · next found => rw [open?] at found; cases found

/-- A text falls into its pieces, if it has no trim markers and nothing is left open in it. -/
theorem fallsInto_pieces {content : List Char} (unmarked : Unmarked content)
    (closed : .unclosed ∉ pieces false content) : FallsInto content (pieces false content) := by
  induction content using actionTexts.induct with
  | case1 content absent =>
    rw [pieces_of_absent (by rw [Text.occursIn, absent]; rfl)]
    exact .text absent
  | case2 content before after opens open? =>
    exact absurd (by rw [pieces_of_unclosed opens open?]; exact List.mem_singleton_self _) closed
  | case3 content before after opens body rest closes _ _ inductionHypothesis =>
    rw [Unmarked, actionTexts_of_cuts opens closes, List.forall_mem_cons] at unmarked
    obtain ⟨left, right⟩ := Bool.or_eq_false_iff.mp unmarked.1
    have here : pieces false content = textPiece before ++ .action (trim body) ::
        pieces false rest := by
      rw [pieces_of_cuts opens closes, bareAction, dropLeftMarker_of_unmarked left,
        dropRightMarker_of_unmarked right]
      rfl
    rw [here] at closed ⊢
    simp only [List.mem_append, List.mem_cons, not_or] at closed
    exact .action opens closes unmarked.1 (inductionHypothesis unmarked.2 closed.2.2)

/-- The pieces of two texts and those of their concatenation: what stands on both sides of the
seam becomes one text. -/
def Joins (left right whole : List Piece) : Prop :=
  ∃ front last first behind, left = front ++ textPiece last ∧ right = textPiece first ++ behind ∧
    whole = front ++ (textPiece (last ++ first) ++ behind)

theorem Joins.behind {left right whole : List Piece} (joins : Joins left right whole)
    (pieces : List Piece) : Joins (pieces ++ left) right (pieces ++ whole) := by
  obtain ⟨front, last, first, behind, rfl, rfl, rfl⟩ := joins
  exact ⟨pieces ++ front, last, first, behind, by simp, rfl, by simp⟩

/-- The braces at the seam of two texts do not open an action. -/
def SeamIsPlain (left right : List Char) : Prop :=
  ¬ (left.getLast? = some '\x7b' ∧ right.head? = some '\x7b')

/-- Two texts side by side fall into the pieces of both, joined at the seam. -/
theorem FallsInto.append {left right : List Char} {leftPieces rightPieces : List Piece}
    (fallsLeft : FallsInto left leftPieces) (fallsRight : FallsInto right rightPieces)
    (plain : SeamIsPlain left right) :
    ∃ whole, FallsInto (left ++ right) whole ∧ Joins leftPieces rightPieces whole := by
  induction fallsLeft with
  | @text content absent =>
    have seam := Text.cut_double_append absent plain
    cases fallsRight with
    | text absentRight =>
      refine ⟨textPiece (content ++ right), .text ?_, ⟨[], content, right, [], ?_⟩⟩
      · rw [openingBraces, seam, ← openingBraces, absentRight]
        rfl
      · simp
    | @action _ before after body rest later opens closes unmarked behind =>
      refine ⟨textPiece (content ++ before) ++ .action (trim body) :: later,
        .action ?_ closes unmarked behind,
        ⟨[], content, before, .action (trim body) :: later, ?_⟩⟩
      · rw [openingBraces, seam, ← openingBraces, opens]
        rfl
      · simp
  | @action content before after body rest later opens closes unmarked behind
      inductionHypothesis =>
    have lastPart : rest.getLast? = some '\x7b' → content.getLast? = some '\x7b' := by
      intro last
      rw [Text.eq_append_of_cut opens, Text.eq_append_of_cut closes, List.getLast?_append,
        List.getLast?_append, last]
      rfl
    obtain ⟨whole, falls, joins⟩ :=
      inductionHypothesis fun both => plain ⟨lastPart both.1, both.2⟩
    refine ⟨textPiece before ++ .action (trim body) :: whole,
      .action (Text.cut_append_of_some opens right) (Text.cut_append_of_some closes right) unmarked
        falls, ?_⟩
    have shift := joins.behind (textPiece before ++ [.action (trim body)])
    simpa using shift

/-! ### Nodes behind other nodes -/

/-- The tree with nodes in front of those at the outermost level. -/
def Builder.under (front : List Node) (builder : Builder) : Builder :=
  { builder with root := front ++ builder.root }

namespace Builder

variable (front : List Node)

theorem push_under (builder : Builder) (node : Node) :
    (builder.under front).push node = (builder.push node).under front := by
  obtain ⟨root, openParts⟩ := builder
  cases openParts with
  | nil => simp [under, push]
  | cons part rest => rfl

theorem turn_under (builder : Builder) :
    (builder.under front).turn = builder.turn.map (under front) := by
  obtain ⟨root, openParts⟩ := builder
  cases openParts with
  | nil => rfl
  | cons part rest =>
    obtain ⟨opening, body, otherwise⟩ := part
    cases otherwise <;> rfl

theorem leave_under (builder : Builder) :
    (builder.under front).leave = builder.leave.map (under front) := by
  obtain ⟨root, openParts⟩ := builder
  cases openParts with
  | nil => rfl
  | cons part rest =>
    exact congrArg Except.ok (push_under front ⟨root, rest⟩ part.close)

theorem act_under (builder : Builder) (action : List Char) :
    (builder.under front).act action = (builder.act action).map (under front) := by
  unfold act
  cases Text.words action with
  | nil => rfl
  | cons word rest =>
    dsimp only
    split
    · cases readOperand action rest <;> rfl
    · split
      · cases readOperand action rest <;> rfl
      · split
        · exact turn_under front builder
        · split
          · exact leave_under front builder
          · split
            · cases readPath word with
              | error problem => rfl
              | ok path => exact congrArg Except.ok (push_under front builder _)
            · rfl

theorem take_under (builder : Builder) (piece : Piece) :
    (builder.under front).take piece = (builder.take piece).map (under front) := by
  cases piece with
  | text content => exact congrArg Except.ok (push_under front builder _)
  | action body => exact act_under front builder body
  | unclosed => rfl

/-- Pieces build what they build, whatever nodes are there before. -/
theorem foldlM_take_under (list : List Piece) (builder : Builder) :
    list.foldlM take (builder.under front) = (list.foldlM take builder).map (under front) := by
  induction list generalizing builder with
  | nil => rfl
  | cons piece rest inductionHypothesis =>
    rw [List.foldlM_cons, List.foldlM_cons, take_under]
    cases builder.take piece with
    | error problem => rfl
    | ok next => exact inductionHypothesis next

end Builder

/-- The node of a piece of plain text, unless it is empty. -/
def textNodes (content : List Char) : List Node :=
  if content.isEmpty then [] else [.text (String.ofList content)]

theorem foldlM_textPiece (content : List Char) (builder : Builder) :
    (textPiece content).foldlM Builder.take builder =
      .ok ((textNodes content).foldl Builder.push builder) := by
  unfold textPiece textNodes
  split <;> rfl

theorem Builder.of_push_eq {builder : Builder} {node : Node} {nodes : List Node}
    (pushed : builder.push node = ⟨nodes, []⟩) :
    ∃ front, builder = ⟨front, []⟩ ∧ nodes = front ++ [node] := by
  obtain ⟨root, openParts⟩ := builder
  cases openParts with
  | nil =>
    obtain ⟨rfl, -⟩ := Builder.mk.inj pushed
    exact ⟨root, rfl, rfl⟩
  | cons part rest => cases (Builder.mk.inj pushed).2

/-- The nodes of two texts side by side are those of both, joined at the seam. -/
theorem Joins.nodes {left right whole : List Piece} {leftNodes rightNodes : List Node}
    (joins : Joins left right whole)
    (buildsLeft : left.foldlM Builder.take ⟨[], []⟩ = .ok ⟨leftNodes, []⟩)
    (buildsRight : right.foldlM Builder.take ⟨[], []⟩ = .ok ⟨rightNodes, []⟩) :
    ∃ front last first behind, leftNodes = front ++ textNodes last ∧
      rightNodes = textNodes first ++ behind ∧
      whole.foldlM Builder.take ⟨[], []⟩ =
        .ok ⟨front ++ (textNodes (last ++ first) ++ behind), []⟩ := by
  obtain ⟨frontPieces, last, first, behindPieces, rfl, rfl, rfl⟩ := joins
  obtain ⟨middle, buildsFront, buildsLast⟩ : ∃ middle,
      frontPieces.foldlM Builder.take ⟨[], []⟩ = .ok middle ∧
        (textPiece last).foldlM Builder.take middle = .ok ⟨leftNodes, []⟩ := by
    rw [List.foldlM_append] at buildsLeft
    exact except_of_bind buildsLeft
  -- The seam is at the outermost level: a text opens no part, and none is open behind it.
  obtain ⟨front, rfl, rfl⟩ : ∃ front, middle = ⟨front, []⟩ ∧
      leftNodes = front ++ textNodes last := by
    rw [foldlM_textPiece] at buildsLast
    have pushed := Except.ok.inj buildsLast
    unfold textNodes at pushed ⊢
    split
    · next empty =>
      rw [if_pos empty] at pushed
      exact ⟨leftNodes, pushed, by simp⟩
    · next present =>
      rw [if_neg present] at pushed
      exact Builder.of_push_eq pushed
  obtain ⟨behind, buildsBehind, rfl⟩ : ∃ behind,
      behindPieces.foldlM Builder.take ⟨[], []⟩ = .ok ⟨behind, []⟩ ∧
        rightNodes = textNodes first ++ behind := by
    rw [List.foldlM_append, foldlM_textPiece, Builder.foldl_push_root] at buildsRight
    have under : behindPieces.foldlM Builder.take (Builder.under (textNodes first) ⟨[], []⟩) =
        .ok ⟨rightNodes, []⟩ := by
      rw [Builder.under, List.append_nil]
      exact buildsRight
    rw [Builder.foldlM_take_under] at under
    obtain ⟨⟨behind, openParts⟩, builds, same⟩ := map_eq_ok.mp under
    obtain ⟨rfl, rfl⟩ := Builder.mk.inj same
    exact ⟨behind, builds, rfl⟩
  refine ⟨front, last, first, behind, rfl, rfl, ?_⟩
  rw [List.foldlM_append, buildsFront]
  show List.foldlM Builder.take ⟨front, []⟩ _ = _
  rw [List.foldlM_append, foldlM_textPiece, Builder.foldl_push_root]
  show List.foldlM Builder.take ⟨front ++ textNodes (last ++ first), []⟩ _ = _
  have shift := Builder.foldlM_take_under (front ++ textNodes (last ++ first)) behindPieces ⟨[], []⟩
  rw [Builder.under, List.append_nil, buildsBehind] at shift
  rw [shift, ← List.append_assoc]
  rfl

/-! ### Reading two texts side by side -/

theorem readNodes_eq_ok {content : List Char} {nodes : List Node} :
    readNodes content = .ok nodes ↔
      (pieces false content).foldlM Builder.take ⟨[], []⟩ = .ok ⟨nodes, []⟩ := by
  constructor
  · intro success
    obtain ⟨⟨root, openParts⟩, builds, finished⟩ := except_of_bind success
    rw [builds]
    cases openParts with
    | nil =>
      obtain rfl : root = nodes := Except.ok.inj finished
      rfl
    | cons part rest => cases finished
  · intro builds
    rw [readNodes, builds]
    rfl

theorem unclosed_not_mem_of_builds {list : List Piece} {builder after : Builder}
    (builds : list.foldlM Builder.take builder = .ok after) : .unclosed ∉ list := by
  induction list generalizing builder with
  | nil => exact List.not_mem_nil
  | cons piece rest inductionHypothesis =>
    rw [List.foldlM_cons] at builds
    obtain ⟨next, here, behind⟩ := except_of_bind builds
    rw [List.mem_cons, not_or]
    refine ⟨?_, inductionHypothesis behind⟩
    rintro rfl
    cases here

/-- Two texts side by side are read to the nodes of both, joined at the seam. -/
theorem readNodes_append {left right : List Char} {leftNodes rightNodes : List Node}
    (readsLeft : readNodes left = .ok leftNodes) (readsRight : readNodes right = .ok rightNodes)
    (unmarkedLeft : Unmarked left) (unmarkedRight : Unmarked right)
    (plain : SeamIsPlain left right) :
    ∃ front last first behind, leftNodes = front ++ textNodes last ∧
      rightNodes = textNodes first ++ behind ∧
      readNodes (left ++ right) = .ok (front ++ (textNodes (last ++ first) ++ behind)) := by
  have buildsLeft := readNodes_eq_ok.mp readsLeft
  have buildsRight := readNodes_eq_ok.mp readsRight
  obtain ⟨whole, falls, joins⟩ :=
    (fallsInto_pieces unmarkedLeft (unclosed_not_mem_of_builds buildsLeft)).append
      (fallsInto_pieces unmarkedRight (unclosed_not_mem_of_builds buildsRight)) plain
  obtain ⟨front, last, first, behind, sameLeft, sameRight, builds⟩ :=
    joins.nodes buildsLeft buildsRight
  refine ⟨front, last, first, behind, sameLeft, sameRight, readNodes_eq_ok.mpr ?_⟩
  rw [pieces_of_fallsInto falls, builds]

/-! ### Writing out nodes in a row -/

theorem renderNodes_append (name : String) (current : Value) (left right : List Node) :
    renderNodes name current (left ++ right) = (do
      let before ← renderNodes name current left
      let behind ← renderNodes name current right
      return before ++ behind) := by
  induction left with
  | nil =>
    rw [List.nil_append, renderNodes]
    cases renderNodes name current right with
    | error error => rfl
    | ok behind => exact congrArg Except.ok String.empty_append.symm
  | cons node rest inductionHypothesis =>
    rw [List.cons_append, renderNodes, renderNodes, inductionHypothesis]
    cases renderNode name current node with
    | error error => rfl
    | ok here =>
      cases renderNodes name current rest with
      | error error => rfl
      | ok before =>
        cases renderNodes name current right with
        | error error => rfl
        | ok behind => exact congrArg Except.ok String.append_assoc.symm

theorem renderNodes_textNodes (name : String) (current : Value) (content : List Char) :
    renderNodes name current (textNodes content) = .ok (String.ofList content) := by
  cases content with
  | nil => rfl
  | cons c rest => exact congrArg Except.ok String.append_empty

theorem readNodes_of_reads {name text : String} {template : Metasearch.Template}
    (reads : read name text = .ok template) : readNodes text.toList = .ok template.nodes := by
  unfold read at reads
  split at reads
  · next nodes readsNodes =>
    obtain rfl := Except.ok.inj reads
    exact readsNodes
  · cases reads

theorem resolve_of_readNodes {name text : String} {nodes : List Node} (root : Value)
    (reads : readNodes text.toList = .ok nodes) :
    resolve name text root = renderNodes name root nodes := by
  rw [resolve, read, reads]
  rfl

/-- A field reference alone is written out as the value that it leads to. -/
theorem resolve_reference {name text : String} {path : Path}
    (reads : readNodes text.toList = .ok [.field path]) (root : Value) :
    resolve name text root = (lookup name path root).map Value.toText := by
  rw [resolve_of_readNodes root reads, renderNodes, renderNode, renderNodes]
  cases lookup name path root with
  | error error => rfl
  | ok value => exact congrArg Except.ok String.append_empty

/-- Two texts that can be read, without trim markers and without an action at their seam, can be
read side by side, and are written out side by side; what goes wrong in the first comes before
what goes wrong in the second. -/
theorem resolve_append (name : String) (root : Value) {left right : String}
    (readsLeft : ∃ template, read name left = .ok template)
    (readsRight : ∃ template, read name right = .ok template)
    (unmarkedLeft : Unmarked left.toList) (unmarkedRight : Unmarked right.toList)
    (plain : SeamIsPlain left.toList right.toList) :
    (∃ template, read name (left ++ right) = .ok template) ∧
      resolve name (left ++ right) root = (do
        let before ← resolve name left root
        let behind ← resolve name right root
        return before ++ behind) := by
  obtain ⟨leftTemplate, readsLeft⟩ := readsLeft
  obtain ⟨rightTemplate, readsRight⟩ := readsRight
  have nodesLeft := readNodes_of_reads readsLeft
  have nodesRight := readNodes_of_reads readsRight
  obtain ⟨front, last, first, behind, sameLeft, sameRight, reads⟩ :=
    readNodes_append nodesLeft nodesRight unmarkedLeft unmarkedRight plain
  rw [← String.toList_append] at reads
  refine ⟨⟨⟨name, _⟩, by rw [read, reads]⟩, ?_⟩
  rw [resolve_of_readNodes root reads, resolve_of_readNodes root nodesLeft,
    resolve_of_readNodes root nodesRight, sameLeft, sameRight]
  simp only [renderNodes_append, renderNodes_textNodes]
  cases renderNodes name root front with
  | error error => rfl
  | ok before =>
    cases renderNodes name root behind with
    | error error => rfl
    | ok after =>
      show Except.ok _ = Except.ok _
      rw [String.ofList_append]
      simp only [String.append_assoc]

/-- A text that ends in a brace. -/
def bracedLeft : String := "q=\x7b\x7b .q \x7d\x7d\x7b"

/-- A text that starts with a brace, and in which there is a condition. -/
def bracedRight : String :=
  "\x7d&\x7b\x7bif .page\x7d\x7dpage=\x7b\x7b.page\x7d\x7d\x7b\x7bend\x7d\x7d"

/-- The two texts side by side: written out with both values, and without one or any of them. -/
theorem resolve_append_braced :
    let full : Value := .map [("page", .text "2"), ("q", .text "a")]
    let unpaged : Value := .map [("q", .text "a")]
    let empty : Value := .map []
    ((∃ template, read "inputs" bracedLeft = .ok template) ∧
      (∃ template, read "inputs" bracedRight = .ok template) ∧
      Unmarked bracedLeft.toList ∧ Unmarked bracedRight.toList ∧
      SeamIsPlain bracedLeft.toList bracedRight.toList) ∧
    (∃ template, read "inputs" (bracedLeft ++ bracedRight) = .ok template) ∧
    (resolve "inputs" bracedLeft full = .ok "q=a\x7b" ∧
      resolve "inputs" bracedRight full = .ok "\x7d&page=2" ∧
      resolve "inputs" (bracedLeft ++ bracedRight) full = .ok "q=a\x7b\x7d&page=2") ∧
    (resolve "inputs" bracedLeft unpaged = .ok "q=a\x7b" ∧
      resolve "inputs" bracedRight unpaged = .error (.missingField "inputs" ["page"]) ∧
      resolve "inputs" (bracedLeft ++ bracedRight) unpaged =
        .error (.missingField "inputs" ["page"])) ∧
    resolve "inputs" bracedLeft empty = .error (.missingField "inputs" ["q"]) ∧
      resolve "inputs" bracedRight empty = .error (.missingField "inputs" ["page"]) ∧
      resolve "inputs" (bracedLeft ++ bracedRight) empty =
        .error (.missingField "inputs" ["q"]) := by
  intro full unpaged empty
  have readsLeft : ∃ template, read "inputs" bracedLeft = .ok template := ⟨_, by cbv⟩
  have readsRight : ∃ template, read "inputs" bracedRight = .ok template := ⟨_, by cbv⟩
  have unmarkedLeft : Unmarked bracedLeft.toList := by decide +kernel
  have unmarkedRight : Unmarked bracedRight.toList := by decide +kernel
  have plain : SeamIsPlain bracedLeft.toList bracedRight.toList := by
    rintro ⟨-, head⟩
    exact absurd head (by decide)
  have joined (root : Value) := resolve_append "inputs" root readsLeft readsRight unmarkedLeft
    unmarkedRight plain
  have leftFull : resolve "inputs" bracedLeft full = .ok "q=a\x7b" := by decide +kernel
  have rightFull : resolve "inputs" bracedRight full = .ok "\x7d&page=2" := by decide +kernel
  have leftUnpaged : resolve "inputs" bracedLeft unpaged = .ok "q=a\x7b" := by decide +kernel
  have rightUnpaged : resolve "inputs" bracedRight unpaged =
      .error (.missingField "inputs" ["page"]) := by decide +kernel
  have leftEmpty : resolve "inputs" bracedLeft empty =
      .error (.missingField "inputs" ["q"]) := by decide +kernel
  have rightEmpty : resolve "inputs" bracedRight empty =
      .error (.missingField "inputs" ["page"]) := by decide +kernel
  refine ⟨⟨readsLeft, readsRight, unmarkedLeft, unmarkedRight, plain⟩, (joined full).1,
    ⟨leftFull, rightFull, ?_⟩, ⟨leftUnpaged, rightUnpaged, ?_⟩, leftEmpty, rightEmpty, ?_⟩
  · rw [(joined full).2, leftFull, rightFull]
    rfl
  · rw [(joined unpaged).2, leftUnpaged, rightUnpaged]
    rfl
  · rw [(joined empty).2, leftEmpty]
    rfl

end Template

end Metasearch
