/-
This file proves that every page has an outermost element, whatever its text. The first token that
is more than a blank, a comment or a type opens one, and the end of the text does so at the latest.
From then on it is fixed: nothing is ever open around it, and it is not opened again as the head is.
-/
import Metasearch.Proofs.PageTrees
import Metasearch.Proofs.TokenLengths

namespace Metasearch.Markup

namespace Arena

variable {arena : Arena}

/-- A node that is put behind the children of a parent is one of them. -/
theorem IsForest.mem_childrenOf_append (forest : arena.IsForest) {parent : Nat}
    (within : parent < arena.cells.size) (node : Nat) :
    node ∈ (arena.append parent node).childrenOf parent := by
  have here : parent < (arena.detach node).cells.size :=
    lt_of_lt_of_eq within (forest.moved_detach node).size.symm
  have pushed : (arena.append parent node).childrenOf parent =
      (arena.detach node).childrenOf parent ++ [node] := by
    unfold Arena.append
    simp only [childrenOf, cell_update, size_update, here, and_self, and_true, if_true]
    split <;> exact Array.toList_push
  rw [pushed]
  exact List.mem_append_right _ List.mem_cons_self

end Arena

namespace Builder

variable {builder : Builder} {root : Nat}

/-! ### Opening the outermost element -/

/-- Nothing of the page has been read but what may stand in front of its outermost element. -/
structure IsUnread (builder : Builder) : Prop where
  forest : builder.arena.IsForest
  openNodes : builder.openNodes = []
  head : builder.head = none
  mode : builder.mode = .initial ∨ builder.mode = .beforeHtml

/-- An element stands at the outermost level, and nothing is open around it. -/
abbrev IsRooted (builder : Builder) (root : Nat) : Prop :=
  builder.IsSteady (· = root)

/-- The outermost element is there, or may still come. -/
def IsReading (builder : Builder) : Prop :=
  builder.IsUnread ∨ ∃ root, builder.IsRooted root

theorem content_create (forest : builder.arena.IsForest) (element : Element) :
    ((builder.create element).2.arena.cell (builder.create element).1).content =
      .element element := by
  have made := Arena.cell_create builder.arena (.element element) builder.arena.cells.size
  rw [if_pos rfl] at made
  unfold create
  simp only
  split
  case isTrue =>
    have old := (forest.isMovable_create (.element element)).within
    have content := (forest.create (.element element)).isMovable_create .fragment
    rw [(((forest.create (.element element)).create .fragment).moved_append _ content).contents,
      Arena.cell_create, if_neg (Nat.ne_of_lt old)]
    exact congrArg Cell.content made
  case isFalse => exact congrArg Cell.content made

theorem create_keeps (builder : Builder) (element : Element) :
    (builder.create element).2.openNodes = builder.openNodes ∧
      (builder.create element).2.head = builder.head := by
  unfold create
  simp only
  split <;> exact ⟨rfl, rfl⟩

theorem IsUnread.openRoot (unread : builder.IsUnread) (tag : Tag) :
    ∃ root, (builder.openRoot tag).IsRooted root := by
  obtain ⟨made, -, movable, -⟩ :=
    isSteady_create (isSteady_of_isForest unread.forest) (htmlElement tag)
  have forest := made.nodes.forest
  have content := content_create unread.forest (htmlElement tag)
  have moved := forest.moved_append 0 movable
  obtain ⟨openNodes, head⟩ := builder.create_keeps (htmlElement tag)
  refine ⟨(builder.create (htmlElement tag)).1, ⟨forest.append 0 movable, ?_, ?_⟩, ?_, ?_⟩
  · rintro root rfl
    exact forest.mem_childrenOf_append forest.nonempty _
  · rintro root rfl
    exact ⟨_, (moved.contents _).trans content⟩
  · rintro root rfl outer around
    have alone : [_, outer].Sublist (_ :: (builder.create (htmlElement tag)).2.openNodes) := around
    rw [openNodes, unread.openNodes] at alone
    exact absurd alone.length_le (by simp)
  · rintro root rfl same
    cases (head.trans unread.head).symm.trans same

theorem IsUnread.comment (unread : builder.IsUnread) (content : List Char) :
    (builder.commentIn 0 content).IsUnread :=
  ⟨(isSteady_commentIn (isSteady_of_isForest unread.forest) 0 content).nodes.forest,
    unread.openNodes, unread.head, unread.mode⟩

/-- A token in front of the outermost element opens it, or leaves it to come. -/
theorem IsUnread.rule (unread : builder.IsUnread) (token : Token) :
    (builder.rule token).1.IsReading := by
  have opened : ∀ tag mode, { builder.openRoot tag with mode := mode }.IsReading := by
    intro tag mode
    obtain ⟨root, rooted⟩ := unread.openRoot tag
    exact .inr ⟨root, rooted⟩
  have implied := opened ⟨"html", [], false⟩ .beforeHead
  unfold Builder.rule
  rcases unread.mode with mode | mode
  · simp only [mode]
    unfold ruleInitial
    split
    · exact .inl unread
    · exact .inl (unread.comment _)
    · exact .inl ⟨unread.forest, unread.openNodes, unread.head, .inr rfl⟩
  · simp only [mode]
    unfold ruleBeforeHtml
    simp only
    split
    · exact .inl unread
    · exact .inl (unread.comment _)
    · split
      · exact opened _ _
      · exact implied
    · split
      · exact implied
      · exact .inl unread
    · exact implied

/-- What is read before the outermost element stands in no other language. -/
theorem IsUnread.isForeign (unread : builder.IsUnread) (token : Token) :
    builder.isForeign token = false := by
  unfold Builder.isForeign
  simp [unread.openNodes]

theorem IsReading.settle (fuel : Nat) (reading : builder.IsReading) (token : Token) :
    (builder.settle fuel token).IsReading := by
  induction fuel generalizing builder token with
  | zero => exact reading
  | succ fuel inductionHypothesis =>
    rcases reading with unread | ⟨root, rooted⟩
    · have ruled := unread.rule token
      unfold Builder.settle
      simp only [unread.isForeign, Bool.false_eq_true, if_false]
      split
      case h_1 after outcome => rwa [outcome] at ruled
      case h_2 after next outcome =>
        rw [outcome] at ruled
        exact inductionHypothesis ruled next
    · exact .inr ⟨root, isSteady_settle _ rooted token⟩

/-- The end of the text opens the outermost element, if nothing else did. -/
theorem IsReading.settle_end (fuel : Nat) (reading : builder.IsReading) :
    ∃ root, (builder.settle (fuel + 2) .endOfText).IsRooted root := by
  have opens : ∀ {fuel} {builder : Builder}, builder.IsUnread → builder.mode = .beforeHtml →
      ∃ root, (builder.settle (fuel + 1) .endOfText).IsRooted root := by
    intro fuel builder unread mode
    obtain ⟨root, rooted⟩ := unread.openRoot ⟨"html", [], false⟩
    have next : { builder.openRoot ⟨"html", [], false⟩ with mode := .beforeHead }.IsRooted root :=
      rooted
    refine ⟨root, ?_⟩
    unfold Builder.settle
    simp only [unread.isForeign, Bool.false_eq_true, if_false, Builder.rule, mode, ruleBeforeHtml,
      again]
    exact isSteady_settle _ next _
  rcases reading with unread | ⟨root, rooted⟩
  · rcases unread.mode with mode | mode
    · rw [Builder.settle]
      simp only [unread.isForeign, Bool.false_eq_true, if_false, Builder.rule, mode, ruleInitial]
      exact opens ⟨unread.forest, unread.openNodes, unread.head, .inr rfl⟩ rfl
    · exact opens unread mode
  · exact ⟨root, isSteady_settle _ rooted _⟩

theorem IsReading.unskipped (reading : builder.IsReading) :
    { builder with skipsNewline := false }.IsReading :=
  reading.imp_left fun unread => ⟨unread.forest, unread.openNodes, unread.head, unread.mode⟩

theorem IsReading.take (reading : builder.IsReading) (token : Token) :
    (builder.take token).IsReading := by
  rcases reading with unread | ⟨root, rooted⟩
  · have unskipped : { builder with skipsNewline := false }.IsReading :=
      IsReading.unskipped (.inl unread)
    unfold Builder.take
    simp only
    split
    case h_1 =>
      split
      · exact .inl ⟨(unread.forest.create .doctype).append 0
          (unread.forest.isMovable_create .doctype), unread.openNodes, unread.head, .inr rfl⟩
      · exact unskipped
    case h_2 =>
      split
      · exact unskipped
      · exact unskipped.settle _ _
  · exact .inr ⟨root, isSteady_take rooted token⟩

/-- Whoever reads a text to its end has an outermost element. -/
theorem IsReading.run {fuel : Nat} {text : List Char} (enough : text.length < fuel)
    (reading : builder.IsReading) : ∃ root, (builder.run fuel text).IsRooted root := by
  induction fuel generalizing builder text with
  | zero => exact absurd enough (Nat.not_lt_zero _)
  | succ fuel inductionHypothesis =>
    have progress := nextToken_progress builder.region builder.inForeign text
    unfold Builder.run
    split
    case h_1 => exact reading.unskipped.settle_end _
    case h_2 token rest isMore next =>
      rw [next] at progress
      have shorter : rest.length < text.length := progress.resolve_left isMore
      exact inductionHypothesis (by omega) (reading.take token)

end Builder

/-! ### Pages -/

/-- An element among some nodes has a place. -/
theorem placesOfNodes_ne_nil {nodes : List Node} {serial : Nat} {element : Element}
    {children : List Node} (member : .element serial element children ∈ nodes)
    (above : List Level) (inPage : Bool) (before : List Node) :
    placesOfNodes above inPage before nodes ≠ [] := by
  induction nodes generalizing before with
  | nil => cases member
  | cons node rest inductionHypothesis =>
    rw [placesOfNodes]
    rcases List.mem_cons.mp member with rfl | later
    · rw [placesOfNode]
      exact List.cons_ne_nil _ _
    · exact fun none => inductionHypothesis later _ (List.append_eq_nil_iff.mp none).2

theorem Arena.Fixes.exists_finish {arena : Arena} {fixed : Nat → Prop} {root : Nat}
    (fixes : arena.Fixes fixed) (isFixed : fixed root) (fuel : Nat) : ∃ element children,
      .element root element children ∈ arena.finish (fuel + 1) (arena.childrenOf 0) := by
  obtain ⟨element, content⟩ := fixes.element root isFixed
  refine ⟨element, arena.finish fuel (arena.childrenOf root), List.mem_map.mpr
    ⟨root, fixes.child root isFixed, ?_⟩⟩
  simp only [content]
  rfl

/-- Every page has an element. -/
theorem Document.placesInPage_ne_nil (text : String) : (Document.read text).placesInPage ≠ [] := by
  have reading : Builder.start.IsReading := .inl ⟨Arena.isForest_start, rfl, rfl, .inl rfl⟩
  obtain ⟨root, rooted⟩ := reading.run (Nat.lt_add_of_pos_right Nat.two_pos)
  obtain ⟨element, children, member⟩ := rooted.nodes.exists_finish rfl _
  exact placesOfNodes_ne_nil member [] true []

end Metasearch.Markup
