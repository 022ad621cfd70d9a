/-
This file proves what reading a page keeps of its nodes, whatever the text: they are in one place
each, and elements that are fixed at the outermost level stay there. The moves of a builder come in
two kinds. Some only close elements or change what the rules remember. The others put in nodes that
they have made, or move nodes that are known to be there and not to be fixed, because another
element is open around them: the body that a frameset replaces, and the block around which a style
is split, with the copies of styles and the children of the block.

The rules are made of these moves alone, so each of them keeps the nodes in order, and with them a
whole text does, token by token.
-/
import Mathlib.Data.List.TakeWhile
import Metasearch.Markup.Document
import Metasearch.Proofs.FixedNodes

namespace Metasearch.Markup.Builder

variable {builder : Builder} {fixed : Nat → Prop}

/-! ### Builders with fixed nodes -/

/-- Every node stands in one place at the most, and those that are fixed are elements at the
outermost level: nothing is open around them, and none of them is the head. -/
structure Keeps (fixed : Nat → Prop) (arena : Arena) (openNodes : List Nat)
    (head : Option Nat) : Prop where
  nodes : arena.Fixes fixed
  outermost : ∀ root, fixed root → ∀ outer, ¬ [root, outer].Sublist openNodes
  notHead : ∀ root, fixed root → head ≠ some root

/-- The nodes of a builder are in order, and the fixed ones stay where they are. -/
abbrev IsSteady (builder : Builder) (fixed : Nat → Prop) : Prop :=
  Keeps fixed builder.arena builder.openNodes builder.head

/-- Without fixed nodes there is nothing to be kept but the order of the nodes. -/
theorem isSteady_of_isForest (forest : builder.arena.IsForest) :
    builder.IsSteady fun _ => False :=
  ⟨forest.fixes, fun _ => False.elim, fun _ => False.elim⟩

/-- The nodes in front of others are open inside these. -/
theorem sublist_of_append {root outer : Nat} (front : List Nat) {rest : List Nat}
    (other : root ∉ front) (around : [root, outer].Sublist (front ++ rest)) :
    [root, outer].Sublist rest := by
  obtain ⟨left, right, whole, inFront, inRest⟩ := List.sublist_append_iff.mp around
  cases left with
  | nil => exact whole ▸ inRest
  | cons head tail =>
    obtain ⟨rfl, -⟩ := List.cons.inj whole
    exact absurd (inFront.subset List.mem_cons_self) other

theorem Keeps.withArena {arena after : Arena} {openNodes : List Nat} {head : Option Nat}
    (keeps : Keeps fixed arena openNodes head) (nodes : after.Fixes fixed) :
    Keeps fixed after openNodes head :=
  ⟨nodes, keeps.outermost, keeps.notHead⟩

section

variable (steady : builder.IsSteady fixed)

include steady

/-- Elements may be closed. -/
theorem isSteady_sublist {openNodes : List Nat} (fewer : openNodes.Sublist builder.openNodes) :
    Keeps fixed builder.arena openNodes builder.head :=
  ⟨steady.nodes, fun root isFixed outer around =>
    steady.outermost root isFixed outer (around.trans fewer), steady.notHead⟩

/-- A node that is not fixed may be opened. -/
theorem isSteady_cons {node : Nat} (free : ¬ fixed node) :
    Keeps fixed builder.arena (node :: builder.openNodes) builder.head := by
  refine ⟨steady.nodes, fun root isFixed outer around => ?_, steady.notHead⟩
  have other : root ∉ [node] := fun member => free (List.mem_singleton.mp member ▸ isFixed)
  exact steady.outermost root isFixed outer (sublist_of_append [node] other around)

@[grind ←]
theorem isSteady_close : builder.close.IsSteady fixed :=
  isSteady_sublist steady (List.drop_sublist _ _)

@[grind ←]
theorem isSteady_closeThrough (wanted : Element → Bool) :
    (builder.closeThrough wanted).IsSteady fixed :=
  isSteady_sublist steady ((List.drop_sublist _ _).trans (List.dropWhile_sublist _))

@[grind ←]
theorem isSteady_closeThroughNamed (name : String) :
    (builder.closeThroughNamed name).IsSteady fixed :=
  isSteady_closeThrough steady _

@[grind ←]
theorem isSteady_closeUntil (names : List String) : (builder.closeUntil names).IsSteady fixed :=
  isSteady_sublist steady (List.dropWhile_sublist _)

@[grind ←]
theorem isSteady_closeImplied (implied : Element → Bool) :
    (builder.closeImplied implied).IsSteady fixed :=
  isSteady_sublist steady (List.dropWhile_sublist _)

@[grind ←]
theorem isSteady_closeImpliedExcept (name : String) :
    (builder.closeImpliedExcept name).IsSteady fixed :=
  isSteady_closeImplied steady _

@[grind ←]
theorem isSteady_closeParagraph : builder.closeParagraph.IsSteady fixed :=
  isSteady_closeThroughNamed (isSteady_closeImpliedExcept steady "p") "p"

@[grind ←]
theorem isSteady_endParagraph : builder.endParagraph.IsSteady fixed := by
  unfold endParagraph
  grind

@[grind ←]
theorem isSteady_removeOpen (node : Nat) : (builder.removeOpen node).IsSteady fixed :=
  isSteady_sublist steady List.filter_sublist

@[grind ←]
theorem isSteady_addBorder : builder.addBorder.IsSteady fixed := steady

@[grind ←]
theorem isSteady_clearStyles : builder.clearStyles.IsSteady fixed := steady

@[grind ←]
theorem isSteady_removeStyle (node : Nat) : (builder.removeStyle node).IsSteady fixed := steady

@[grind ←]
theorem isSteady_resetMode : builder.resetMode.IsSteady fixed := steady

@[grind ←]
theorem isSteady_withoutFrameset : builder.withoutFrameset.IsSteady fixed := steady

@[grind ←]
theorem isSteady_closeCell : builder.closeCell.IsSteady fixed :=
  isSteady_clearStyles (isSteady_closeThrough (isSteady_closeImplied steady _) _)

@[grind ←]
theorem isSteady_closeForeign : builder.closeForeign.IsSteady fixed :=
  isSteady_sublist steady (List.dropWhile_sublist _)

@[grind ←]
theorem isSteady_closeOrdinary (name : String) : (builder.closeOrdinary name).IsSteady fixed := by
  unfold closeOrdinary
  simp only
  split
  case h_1 => exact steady
  case h_2 node _ =>
    split
    · exact isSteady_sublist (isSteady_closeImpliedExcept steady name)
        ((List.drop_sublist _ _).trans (List.dropWhile_sublist _))
    · exact steady

@[grind ←]
theorem isSteady_closeItem (names : List String) : (builder.closeItem names).IsSteady fixed := by
  unfold closeItem
  grind

@[grind ←]
theorem isSteady_onTemplateEnd : builder.onTemplateEnd.IsSteady fixed := by
  unfold onTemplateEnd
  grind

@[grind ←]
theorem isSteady_onFormEnd : builder.onFormEnd.IsSteady fixed := by
  unfold onFormEnd
  grind

@[grind ←]
theorem isSteady_onEnd : builder.onEnd.1.IsSteady fixed := by
  unfold onEnd
  split
  · exact steady
  · exact isSteady_closeThroughNamed steady _

@[grind ←]
theorem isSteady_done : builder.done.1.IsSteady fixed := steady

@[grind ←]
theorem isSteady_again (mode : Mode) (token : Token) :
    (builder.again mode token).1.IsSteady fixed :=
  steady

/-! ### Putting nodes in -/

theorem isSteady_putNode (spot : Spot) {node : Nat} (movable : builder.arena.IsMovable node)
    (free : ¬ fixed node) : (builder.putNode spot node).IsSteady fixed := by
  unfold putNode
  simp only
  split
  case h_1 parent => exact steady.withArena (steady.nodes.append parent movable free)
  case h_2 table outer =>
    split
    · exact steady.withArena (steady.nodes.insertBefore table movable free)
    · exact steady.withArena (steady.nodes.append outer movable free)

@[grind ←]
theorem isSteady_appendText (text : List Char) : (builder.appendText text).IsSteady fixed := by
  unfold appendText
  simp only
  split
  case isTrue => exact steady
  case isFalse =>
    split
    case h_1 => exact steady.withArena (steady.nodes.appendText _ _)
    case h_2 =>
      split
      · exact steady.withArena (steady.nodes.insertTextBefore _ _)
      · exact steady.withArena (steady.nodes.appendText _ _)

@[grind ←]
theorem isSteady_commentIn (parent : Nat) (content : List Char) :
    (builder.commentIn parent content).IsSteady fixed := by
  let comment : Content := .comment (String.ofList content)
  exact steady.withArena ((steady.nodes.create comment).append parent
    (steady.nodes.forest.isMovable_create comment) (steady.nodes.not_new comment))

@[grind ←]
theorem isSteady_appendComment (content : List Char) :
    (builder.appendComment content).IsSteady fixed := by
  let comment : Content := .comment (String.ofList content)
  let next : Builder := { builder with arena := (builder.arena.create comment).2 }
  have made : next.IsSteady fixed := steady.withArena (steady.nodes.create comment)
  exact isSteady_putNode made _ (steady.nodes.forest.isMovable_create comment)
    (steady.nodes.not_new comment)

/-- A new element can be moved, and so can what could be moved before. -/
theorem isSteady_create (element : Element) :
    (builder.create element).2.IsSteady fixed ∧ ¬ fixed (builder.create element).1 ∧
      (builder.create element).2.arena.IsMovable (builder.create element).1 ∧
      ∀ node, builder.arena.IsMovable node → (builder.create element).2.arena.IsMovable node := by
  have made := steady.nodes.create (.element element)
  have free := steady.nodes.not_new (.element element)
  have movable := steady.nodes.forest.isMovable_create (.element element)
  unfold create
  simp only
  split
  case isTrue =>
    -- the content of a template is a node of its own
    have content := made.forest.isMovable_create .fragment
    have moved := (made.forest.create .fragment).moved_append
      (builder.arena.create (.element element)).1 content
    have filled := (made.create .fragment).append (builder.arena.create (.element element)).1
      content (made.not_new .fragment)
    exact ⟨steady.withArena filled, free, moved.isMovable (movable.create .fragment),
      fun node known => moved.isMovable ((known.create _).create _)⟩
  case isFalse => exact ⟨steady.withArena made, free, movable, fun node known => known.create _⟩

theorem isSteady_insert (element : Element) :
    (builder.insert element).2.IsSteady fixed ∧ ¬ fixed (builder.insert element).1 := by
  obtain ⟨made, free, movable, -⟩ := isSteady_create steady element
  exact ⟨isSteady_putNode made _ movable free, free⟩

theorem isSteady_openElement (element : Element) :
    (builder.openElement element).2.IsSteady fixed ∧ ¬ fixed (builder.openElement element).1 := by
  obtain ⟨made, free⟩ := isSteady_insert steady element
  exact ⟨isSteady_cons made free, free⟩

@[grind ←]
theorem isSteady_openElement_snd (element : Element) :
    (builder.openElement element).2.IsSteady fixed :=
  (isSteady_openElement steady element).1

@[grind ←]
theorem isSteady_insert_snd (element : Element) : (builder.insert element).2.IsSteady fixed :=
  (isSteady_insert steady element).1

@[grind ←]
theorem isSteady_openTag (tag : Tag) : (builder.openTag tag).IsSteady fixed :=
  isSteady_openElement_snd steady _

@[grind ←]
theorem isSteady_openImplied (name : String) : (builder.openImplied name).IsSteady fixed :=
  isSteady_openTag steady _

@[grind ←]
theorem isSteady_insertEmpty (tag : Tag) : (builder.insertEmpty tag).IsSteady fixed :=
  isSteady_insert_snd steady _

@[grind ←]
theorem isSteady_openText (tag : Tag) (region : Region) :
    (builder.openText tag region).IsSteady fixed :=
  isSteady_openTag steady tag

@[grind ←]
theorem isSteady_openHead (tag : Tag) : (builder.openHead tag).IsSteady fixed := by
  obtain ⟨made, free⟩ := isSteady_openElement steady (htmlElement tag)
  exact ⟨made.nodes, made.outermost, fun root isFixed same => free (Option.some.inj same ▸ isFixed)⟩

@[grind ←]
theorem isSteady_openForeign (space : Namespace) (name : String) (tag : Tag) :
    (builder.openForeign space name tag).IsSteady fixed := by
  unfold openForeign
  grind

end

/-! ### Running styles -/

/-- What each of several steps keeps, they keep together. -/
theorem isSteady_foldl {Item : Type} {step : Builder → Item → Builder}
    (keeps : ∀ builder : Builder, ∀ item, builder.IsSteady fixed →
      (step builder item).IsSteady fixed)
    (items : List Item) (steady : builder.IsSteady fixed) :
    (items.foldl step builder).IsSteady fixed := by
  induction items generalizing builder with
  | nil => exact steady
  | cons item rest inductionHypothesis => exact inductionHypothesis (keeps builder item steady)

@[grind ←]
theorem isSteady_resumeStyles (steady : builder.IsSteady fixed) :
    builder.resumeStyles.IsSteady fixed := by
  refine isSteady_foldl (fun builder entry steady => ?_) _ steady
  cases entry with
  | border => exact steady
  | style node tag => exact isSteady_openElement_snd steady _

@[grind ←]
theorem isSteady_openStyle (steady : builder.IsSteady fixed) (tag : Tag) :
    (builder.openStyle tag).IsSteady fixed := by
  unfold openStyle
  grind

/-- While the elements between are split, the node that goes on can be moved. It and the copies that
are to be opened are not fixed. -/
theorem isSteady_splitBetween (block : Nat) (nodes : List Nat) (count : Nat) {split : Split}
    (steady : split.builder.IsSteady fixed) (movable : split.builder.arena.IsMovable split.moved)
    (free : ∀ node ∈ split.moved :: split.kept, ¬ fixed node) :
    let result := splitBetween block count split nodes
    result.builder.IsSteady fixed ∧ result.builder.arena.IsMovable result.moved ∧
      ∀ node ∈ result.moved :: result.kept, ¬ fixed node := by
  induction nodes generalizing count split with
  | nil => exact ⟨steady, movable, free⟩
  | cons node rest inductionHypothesis =>
    unfold splitBetween
    simp only
    split
    case h_1 => exact inductionHypothesis _ steady movable free
    case h_2 tag _ =>
      split
      case isTrue => exact inductionHypothesis _ steady movable free
      case isFalse =>
        obtain ⟨made, new, copy, known⟩ := isSteady_create steady (htmlElement tag)
        obtain ⟨freeMoved, freeKept⟩ := List.forall_mem_cons.mp free
        have moved := made.nodes.forest.moved_append (split.builder.create (htmlElement tag)).1
          (known _ movable)
        refine inductionHypothesis _
          (made.withArena (made.nodes.append _ (known _ movable) freeMoved))
          (moved.isMovable copy) (List.forall_mem_cons.mpr ⟨new, fun other member => ?_⟩)
        rcases List.mem_append.mp member with known | isCopy
        · exact freeKept other known
        · exact List.mem_singleton.mp isCopy ▸ new

/-- What is opened inside an open node is not fixed. -/
theorem not_fixed_of_inside (steady : builder.IsSteady fixed) {node inner : Nat}
    (isOpen : node ∈ builder.openNodes)
    (inside : inner ∈ builder.openNodes.takeWhile (· != node)) : ¬ fixed inner := by
  intro isFixed
  have order := List.takeWhile_append_dropWhile (p := (· != node)) (l := builder.openNodes)
  have isBehind : node ∈ builder.openNodes.dropWhile (· != node) := by
    rw [← order] at isOpen
    refine (List.mem_append.mp isOpen).resolve_left fun before => ?_
    simpa using List.mem_takeWhile_imp before
  refine steady.outermost inner isFixed node (order ▸ ?_)
  exact (List.singleton_sublist.mpr inside).append (List.singleton_sublist.mpr isBehind)

theorem isSteady_splitStyle (steady : builder.IsSteady fixed) {style : Nat} (tag : Tag)
    {block : Nat} (movable : builder.arena.IsMovable block) (isOpen : style ∈ builder.openNodes)
    (isInside : block ∈ builder.openNodes.takeWhile (· != style)) :
    (builder.splitStyle style tag block).IsSteady fixed := by
  have freeBlock := not_fixed_of_inside steady isOpen isInside
  unfold splitStyle
  simp only
  generalize ((builder.openNodes.takeWhile (· != style)).dropWhile (· != block)).drop 1 = between
  have goes := isSteady_splitBetween block between 1 (show Builder.IsSteady
    (Split.builder ⟨builder, [], block, none⟩) fixed from steady) movable (by simpa using freeBlock)
  generalize splitBetween block 1 ⟨builder, [], block, none⟩ between = result at goes ⊢
  obtain ⟨split, moved, free⟩ := goes
  obtain ⟨freeMoved, freeKept⟩ := List.forall_mem_cons.mp free
  have detached := (split.nodes.forest.moved_detach result.moved).isMovable moved
  generalize isOut : { result.builder with arena := result.builder.arena.detach result.moved } = out
  have isSteady : out.IsSteady fixed := isOut ▸ split.withArena (split.nodes.detach freeMoved)
  have isMovable : out.arena.IsMovable result.moved := isOut ▸ detached
  have put := isSteady_putNode isSteady
    (spotIn out (((builder.openNodes.dropWhile (· != style)).drop 1).headD 0)) isMovable freeMoved
  generalize out.putNode _ result.moved = placed at put ⊢
  obtain ⟨made, new, copy, -⟩ := isSteady_create put (htmlElement tag)
  generalize placed.create (htmlElement tag) = created at made new copy ⊢
  obtain ⟨emptied, size⟩ := made.nodes.moveChildren movable.ne_document created.1
  refine ⟨emptied.append block ⟨copy.ne_document, size ▸ copy.within⟩ new,
    fun root isFixed outer around => ?_, made.notHead⟩
  -- nothing in front of the elements outside the style is fixed
  have outside :=
    sublist_of_append (_ ++ created.1 :: block :: result.kept) (fun member => ?_) around
  · exact steady.outermost root isFixed outer
      (outside.trans ((List.drop_sublist _ _).trans (List.dropWhile_sublist _)))
  · rcases List.mem_append.mp member with within | behind
    · exact not_fixed_of_inside steady isOpen ((List.takeWhile_sublist _).subset within) isFixed
    · rcases List.mem_cons.mp behind with rfl | behind
      · exact new isFixed
      · rcases List.mem_cons.mp behind with rfl | isKept
        · exact freeBlock isFixed
        · exact freeKept root isKept isFixed

theorem isSteady_closeStyleRounds (rounds : Nat) (steady : builder.IsSteady fixed)
    (name : String) : (closeStyleRounds rounds builder name).IsSteady fixed := by
  induction rounds generalizing builder with
  | zero => exact steady
  | succ rounds inductionHypothesis =>
    unfold closeStyleRounds
    simp only
    split
    case h_1 => exact isSteady_closeOrdinary steady name
    case h_2 style tag _ =>
      split
      case isTrue => exact steady
      case isFalse isOpen =>
        split
        case isTrue => exact steady
        case isFalse =>
          split
          case h_1 =>
            exact isSteady_sublist steady
              ((List.drop_sublist _ _).trans (List.dropWhile_sublist _))
          case h_2 block found =>
            have special := List.find?_some found
            have isInside := List.mem_reverse.mp (List.mem_of_find?_eq_some found)
            refine inductionHypothesis (isSteady_splitStyle steady tag
              (steady.nodes.forest.isMovable_of_element fun none => ?_) (by simpa using isOpen)
              isInside)
            rw [elementOf, none] at special
            exact absurd special (by decide)

@[grind ←]
theorem isSteady_closeStyle (steady : builder.IsSteady fixed) (name : String) :
    (builder.closeStyle name).IsSteady fixed := by
  unfold closeStyle
  split
  · exact isSteady_close steady
  · exact isSteady_closeStyleRounds 8 steady name

@[grind ←]
theorem isSteady_closeOuterLink (steady : builder.IsSteady fixed) :
    builder.closeOuterLink.IsSteady fixed := by
  unfold closeOuterLink
  grind

/-- The elements that an end tag in a drawing or formula leaves open are some of those that are. -/
theorem foreignEnd?_sublist {openNodes : List Nat} {name : String} {first : Bool}
    {nodes : List Nat} (among : nodes.Sublist builder.openNodes)
    (found : builder.foreignEnd? name first nodes = some openNodes) :
    openNodes.Sublist builder.openNodes := by
  fun_induction foreignEnd? with
  | case1 => exact Option.some.inj found ▸ List.Sublist.refl _
  | case2 => exact Option.some.inj found ▸ List.Sublist.refl _
  | case3 => cases found
  | case4 first node rest =>
    exact Option.some.inj found ▸ (List.sublist_cons_self node rest).trans among
  | case5 first node rest _ _ _ _ inductionHypothesis =>
    exact inductionHypothesis ((List.sublist_cons_self node rest).trans among) found

/-! ### Rules -/

section

variable (steady : builder.IsSteady fixed)

include steady

@[grind ←]
theorem isSteady_onHtmlTag (tag : Tag) : (builder.onHtmlTag tag).IsSteady fixed := by
  unfold onHtmlTag
  split
  · exact steady
  · exact steady.withArena (steady.nodes.addAttributes _ _)

@[grind ←]
theorem isSteady_onHeadTag (tag : Tag) : (builder.onHeadTag tag).IsSteady fixed := by
  unfold onHeadTag
  grind

theorem isSteady_ruleInHead (token : Token) : (builder.ruleInHead token).1.IsSteady fixed := by
  unfold ruleInHead
  grind

theorem isSteady_ruleInitial (token : Token) : (builder.ruleInitial token).1.IsSteady fixed := by
  unfold ruleInitial
  grind

@[grind ←]
theorem isSteady_openRoot (tag : Tag) : (builder.openRoot tag).IsSteady fixed := by
  obtain ⟨made, free, movable, -⟩ := isSteady_create steady (htmlElement tag)
  exact (isSteady_cons made free).withArena (made.nodes.append 0 movable free)

theorem isSteady_ruleBeforeHtml (token : Token) :
    (builder.ruleBeforeHtml token).1.IsSteady fixed := by
  unfold ruleBeforeHtml
  grind

theorem isSteady_ruleBeforeHead (token : Token) :
    (builder.ruleBeforeHead token).1.IsSteady fixed := by
  unfold ruleBeforeHead
  grind

/-- The head is opened again for what belongs there. -/
theorem isSteady_insideHead (tag : Tag) :
    let head := builder.head.getD 0
    ((({ builder with openNodes := head :: builder.openNodes }.onHeadTag tag)).removeOpen
      head).IsSteady fixed := by
  have free : ¬ fixed (builder.head.getD 0) := by
    intro isFixed
    cases isHead : builder.head with
    | none =>
      rw [isHead] at isFixed
      exact (steady.nodes.isMovable isFixed).ne_document rfl
    | some head =>
      rw [isHead] at isFixed
      exact steady.notHead head isFixed isHead
  exact isSteady_removeOpen (isSteady_onHeadTag (isSteady_cons steady free) tag) _

theorem isSteady_ruleAfterHead (token : Token) :
    (builder.ruleAfterHead token).1.IsSteady fixed := by
  unfold ruleAfterHead
  grind [isSteady_insideHead]

/-- The body is open inside another element. -/
theorem not_fixed_body {body : Nat} (isBody : builder.body? = some body) : ¬ fixed body := by
  intro isFixed
  unfold body? at isBody
  split at isBody
  case h_1 outer inner rest order =>
    split at isBody
    · obtain rfl := Option.some.inj isBody
      refine steady.outermost inner isFixed outer (List.reverse_sublist.mp ?_)
      rw [order]
      exact ((List.nil_sublist rest).cons_cons _).cons_cons _
    · cases isBody
  case h_2 => cases isBody

theorem isSteady_framesetInPlace {body : Nat} (isBody : builder.body? = some body) :
    Keeps fixed (builder.arena.detach body) [builder.rootNode] builder.head :=
  ⟨steady.nodes.detach (not_fixed_body steady isBody),
    fun _ _ outer around => absurd around.length_le (by simp), steady.notHead⟩

omit steady in
theorem isSteady_ite {condition : Prop} [Decidable condition] {left right : Builder}
    (first : left.IsSteady fixed) (second : right.IsSteady fixed) :
    (if condition then left else right).IsSteady fixed := by
  split
  · exact first
  · exact second

@[grind ←]
theorem isSteady_onBodyTag (tag : Tag) : (builder.onBodyTag tag).IsSteady fixed := by
  have hasMore : ∀ node attributes, Keeps fixed (builder.arena.addAttributes node attributes)
      builder.openNodes builder.head := fun node attributes =>
    steady.withArena (steady.nodes.addAttributes node attributes)
  unfold onBodyTag
  dsimp only
  -- one case for each kind of tag; what tells the kinds apart is of no use here
  repeat' with_reducible refine isSteady_ite ?_ ?_
  all_goals grind [isSteady_framesetInPlace]

@[grind ←]
theorem isSteady_onBodyEndTag (tag : Tag) : (builder.onBodyEndTag tag).IsSteady fixed := by
  unfold onBodyEndTag
  grind

@[grind ←]
theorem isSteady_ruleInBody (token : Token) : (builder.ruleInBody token).1.IsSteady fixed := by
  unfold ruleInBody
  grind

theorem isSteady_ruleInText (token : Token) : (builder.ruleInText token).1.IsSteady fixed := by
  unfold ruleInText
  grind

@[grind ←]
theorem isSteady_ruleOutsideTable (token : Token) :
    (builder.ruleOutsideTable token).1.IsSteady fixed := by
  have outside : { builder with movesOut := true }.IsSteady fixed := steady
  exact isSteady_ruleInBody outside token

@[grind ←]
theorem isSteady_ruleInTable (token : Token) : (builder.ruleInTable token).1.IsSteady fixed := by
  unfold ruleInTable onTableText
  repeat' split
  all_goals grind

theorem isSteady_ruleInTableText (token : Token) :
    (builder.ruleInTableText token).1.IsSteady fixed := by
  unfold ruleInTableText
  split
  case h_1 => exact steady
  case h_2 => exact steady
  case h_3 =>
    simp only
    split
    · exact isSteady_foldl (fun _ run steady => isSteady_appendText steady run.2) _ steady
    · exact isSteady_foldl (fun _ run steady => isSteady_ruleOutsideTable steady _) _ steady

theorem isSteady_ruleInCaption (token : Token) :
    (builder.ruleInCaption token).1.IsSteady fixed := by
  unfold ruleInCaption
  grind

theorem isSteady_ruleInColumnGroup (token : Token) :
    (builder.ruleInColumnGroup token).1.IsSteady fixed := by
  unfold ruleInColumnGroup
  grind

theorem isSteady_ruleInTableBody (token : Token) :
    (builder.ruleInTableBody token).1.IsSteady fixed := by
  unfold ruleInTableBody
  grind

theorem isSteady_ruleInRow (token : Token) : (builder.ruleInRow token).1.IsSteady fixed := by
  unfold ruleInRow
  grind

theorem isSteady_ruleInCell (token : Token) : (builder.ruleInCell token).1.IsSteady fixed := by
  unfold ruleInCell
  grind

@[grind ←]
theorem isSteady_ruleInSelect (token : Token) : (builder.ruleInSelect token).1.IsSteady fixed := by
  unfold ruleInSelect
  grind

theorem isSteady_ruleInSelectInTable (token : Token) :
    (builder.ruleInSelectInTable token).1.IsSteady fixed := by
  unfold ruleInSelectInTable
  grind

theorem isSteady_ruleInTemplate (token : Token) :
    (builder.ruleInTemplate token).1.IsSteady fixed := by
  unfold ruleInTemplate
  grind

theorem isSteady_ruleAfterBody (token : Token) :
    (builder.ruleAfterBody token).1.IsSteady fixed := by
  unfold ruleAfterBody
  grind

theorem isSteady_ruleAfterAfterBody (token : Token) :
    (builder.ruleAfterAfterBody token).1.IsSteady fixed := by
  unfold ruleAfterAfterBody
  grind

theorem isSteady_ruleInFrameset (token : Token) :
    (builder.ruleInFrameset token).1.IsSteady fixed := by
  unfold ruleInFrameset
  grind

theorem isSteady_ruleAfterFrameset (token : Token) :
    (builder.ruleAfterFrameset token).1.IsSteady fixed := by
  unfold ruleAfterFrameset
  grind

theorem isSteady_ruleAfterAfterFrameset (token : Token) :
    (builder.ruleAfterAfterFrameset token).1.IsSteady fixed := by
  unfold ruleAfterAfterFrameset
  grind

/-- No rule moves a fixed node. -/
@[grind ←]
theorem isSteady_rule (token : Token) : (builder.rule token).1.IsSteady fixed := by
  unfold rule
  split
  · exact isSteady_ruleInitial steady token
  · exact isSteady_ruleBeforeHtml steady token
  · exact isSteady_ruleBeforeHead steady token
  · exact isSteady_ruleInHead steady token
  · exact isSteady_ruleAfterHead steady token
  · exact isSteady_ruleInBody steady token
  · exact isSteady_ruleInText steady token
  · exact isSteady_ruleInTable steady token
  · exact isSteady_ruleInTableText steady token
  · exact isSteady_ruleInCaption steady token
  · exact isSteady_ruleInColumnGroup steady token
  · exact isSteady_ruleInTableBody steady token
  · exact isSteady_ruleInRow steady token
  · exact isSteady_ruleInCell steady token
  · exact isSteady_ruleInSelect steady token
  · exact isSteady_ruleInSelectInTable steady token
  · exact isSteady_ruleInTemplate steady token
  · exact isSteady_ruleAfterBody steady token
  · exact isSteady_ruleInFrameset steady token
  · exact isSteady_ruleAfterFrameset steady token
  · exact isSteady_ruleAfterAfterBody steady token
  · exact isSteady_ruleAfterAfterFrameset steady token

theorem isSteady_ruleInForeign (token : Token) :
    (builder.ruleInForeign token).1.IsSteady fixed := by
  unfold ruleInForeign
  grind [isSteady_sublist, foreignEnd?_sublist]

end

/-! ### Whole texts -/

theorem isSteady_settle (fuel : Nat) (steady : builder.IsSteady fixed) (token : Token) :
    (builder.settle fuel token).IsSteady fixed := by
  induction fuel generalizing builder token with
  | zero => exact steady
  | succ fuel inductionHypothesis =>
    have ruled : (if builder.isForeign token then builder.ruleInForeign token
        else builder.rule token).1.IsSteady fixed := by
      split
      · exact isSteady_ruleInForeign steady token
      · exact isSteady_rule steady token
    unfold settle
    simp only
    split
    case h_1 after outcome => rwa [outcome] at ruled
    case h_2 after next outcome =>
      rw [outcome] at ruled
      exact inductionHypothesis ruled next

theorem isSteady_take (steady : builder.IsSteady fixed) (token : Token) :
    (builder.take token).IsSteady fixed := by
  unfold take
  simp only
  split
  case h_1 =>
    split
    · exact steady.withArena ((steady.nodes.create .doctype).append 0
        (steady.nodes.forest.isMovable_create .doctype) (steady.nodes.not_new .doctype))
    · exact steady
  case h_2 =>
    split
    · exact steady
    · have unskipped : { builder with skipsNewline := false }.IsSteady fixed := steady
      exact isSteady_settle _ unskipped _

theorem isSteady_run (fuel : Nat) (steady : builder.IsSteady fixed) (text : List Char) :
    (builder.run fuel text).IsSteady fixed := by
  induction fuel generalizing builder text with
  | zero => exact steady
  | succ fuel inductionHypothesis =>
    unfold run
    split
    · exact isSteady_take steady _
    · exact inductionHypothesis (isSteady_take steady _) _

end Metasearch.Markup.Builder
