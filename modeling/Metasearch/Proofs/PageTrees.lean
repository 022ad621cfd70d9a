/-
This file proves that a page that was read has every element once: no two places of it have the
same number, those in what was taken out of the page included. Each node is so many steps below one
that has no parent, the document or a node that was taken out, and the steps up from a node can be
made in one way only. A node that came up twice would be at the end of the same number of steps both
times, since they end where there is no parent, and so below the same nodes.
-/
import Metasearch.Markup.Place
import Metasearch.Proofs.PageBuilding

namespace Metasearch.Markup

/-! ### Numbers of elements -/

mutual

/-- The numbers of the elements of a node, in document order. -/
def Node.serials : Node → List Nat
  | .element serial _ children => serial :: serialsOf children
  | .fragment children => serialsOf children
  | _ => []

/-- The numbers of the elements of some nodes. -/
def serialsOf : List Node → List Nat
  | [] => []
  | node :: rest => node.serials ++ serialsOf rest

end

theorem serialsOf_eq_flatMap (nodes : List Node) :
    serialsOf nodes = nodes.flatMap Node.serials := by
  induction nodes with
  | nil => rfl
  | cons node rest inductionHypothesis =>
    rw [serialsOf, inductionHypothesis, List.flatMap_cons]

mutual

theorem map_serial_placesOfNode (above : List Level) (inPage : Bool) (before after : List Node) :
    ∀ node, (placesOfNode above inPage before after node).map Place.serial = node.serials
  | .element serial element children => by
    rw [placesOfNode, List.map_cons, map_serial_placesOfNodes, Node.serials]
    rfl
  | .fragment children => by
    rw [placesOfNode, map_serial_placesOfNodes, Node.serials]
  | .text _ | .comment _ | .doctype => rfl

theorem map_serial_placesOfNodes (above : List Level) (inPage : Bool) (before : List Node) :
    ∀ nodes, (placesOfNodes above inPage before nodes).map Place.serial = serialsOf nodes
  | [] => rfl
  | node :: rest => by
    rw [placesOfNodes, List.map_append, map_serial_placesOfNode, map_serial_placesOfNodes,
      serialsOf]

end

/-! ### Steps up -/

namespace Arena

/-- The node so many steps up. -/
def ancestor (arena : Arena) : Nat → Nat → Option Nat
  | 0, node => some node
  | steps + 1, node => (arena.cell node).parent.bind (arena.ancestor steps)

variable {arena : Arena}

theorem ancestor_add (first second node : Nat) :
    arena.ancestor (first + second) node =
      (arena.ancestor first node).bind (arena.ancestor second) := by
  induction first generalizing node with
  | zero => rw [Nat.zero_add, ancestor, Option.bind_some]
  | succ first inductionHypothesis =>
    rw [Nat.add_right_comm, ancestor, ancestor, Option.bind_assoc]
    exact Option.bind_congr fun parent _ => inductionHypothesis parent

theorem ancestor_of_mem {child parent : Nat} (next : (arena.cell child).parent = some parent) :
    arena.ancestor 1 child = some parent := by
  rw [ancestor, next]
  rfl

theorem ancestor_succ {steps node child parent : Nat}
    (above : arena.ancestor steps node = some child)
    (next : (arena.cell child).parent = some parent) :
    arena.ancestor (steps + 1) node = some parent := by
  rw [ancestor_add, above, Option.bind_some, ancestor_of_mem next]

/-- A node is so many steps below one that has no parent. -/
def IsDeep (arena : Arena) (depth node : Nat) : Prop :=
  ∃ top, arena.ancestor depth node = some top ∧ (arena.cell top).parent = none

theorem IsDeep.below {steps depth node above : Nat} (deep : arena.IsDeep depth above)
    (under : arena.ancestor steps node = some above) : arena.IsDeep (steps + depth) node := by
  obtain ⟨top, isTop, orphan⟩ := deep
  exact ⟨top, by rw [ancestor_add, under, Option.bind_some, isTop], orphan⟩

/-- The steps end where there is no parent, so there is a certain number of them. -/
theorem IsDeep.unique {first second node : Nat} (here : arena.IsDeep first node)
    (there : arena.IsDeep second node) : first = second := by
  have notBeyond : ∀ {near far : Nat}, arena.IsDeep near node → arena.IsDeep far node →
      far ≤ near := by
    rintro near far ⟨top, isTop, orphan⟩ ⟨other, isOther, -⟩
    by_contra beyond
    obtain ⟨rest, rfl⟩ := Nat.exists_eq_add_of_lt (Nat.lt_of_not_le beyond)
    rw [Nat.add_assoc, ancestor_add, isTop, Option.bind_some, ancestor, orphan] at isOther
    cases isOther
  exact Nat.le_antisymm (notBeyond there here) (notBeyond here there)

/-- No node stands below two of them. -/
theorem IsDeep.eq_of_below {depth left right first second node : Nat}
    (isLeft : arena.IsDeep depth left) (isRight : arena.IsDeep depth right)
    (underLeft : arena.ancestor first node = some left)
    (underRight : arena.ancestor second node = some right) : left = right := by
  obtain rfl : first = second := by
    have same := (isLeft.below underLeft).unique (isRight.below underRight)
    omega
  exact Option.some.inj (underLeft.symm.trans underRight)

/-! ### The finished tree -/

/-- The finished tree of one node. -/
def finishNode (arena : Arena) (fuel node : Nat) : Node :=
  let children := arena.finish fuel (arena.childrenOf node)
  match (arena.cell node).content with
  | .element element => .element node element children
  | .fragment | .document => .fragment children
  | .text content => .text content
  | .comment content => .comment content
  | .doctype => .doctype

theorem finish_succ (fuel : Nat) (nodes : List Nat) :
    arena.finish (fuel + 1) nodes = nodes.map (arena.finishNode fuel) :=
  rfl

theorem serials_finishNode (fuel node : Nat) :
    (arena.finishNode fuel node).serials =
        node :: serialsOf (arena.finish fuel (arena.childrenOf node)) ∨
      (arena.finishNode fuel node).serials =
        serialsOf (arena.finish fuel (arena.childrenOf node)) ∨
      (arena.finishNode fuel node).serials = [] := by
  unfold finishNode
  simp only
  split
  · exact .inl (by rw [Node.serials])
  · exact .inr (.inl (by rw [Node.serials]))
  · exact .inr (.inl (by rw [Node.serials]))
  · exact .inr (.inr rfl)
  · exact .inr (.inr rfl)
  · exact .inr (.inr rfl)

/-- Below different nodes of one depth there are different elements, and each is below one node. -/
theorem IsForest.serialsOf_finish (forest : arena.IsForest) (fuel depth : Nat) {nodes : List Nat}
    (distinct : nodes.Nodup) (deep : ∀ node ∈ nodes, arena.IsDeep depth node) :
    (serialsOf (arena.finish fuel nodes)).Nodup ∧
      ∀ serial ∈ serialsOf (arena.finish fuel nodes),
        ∃ steps, ∃ node ∈ nodes, arena.ancestor steps serial = some node := by
  induction fuel generalizing depth nodes with
  | zero => exact ⟨List.nodup_nil, fun _ member => absurd member List.not_mem_nil⟩
  | succ fuel inductionHypothesis =>
    have single : ∀ node ∈ nodes, (arena.finishNode fuel node).serials.Nodup ∧
        ∀ serial ∈ (arena.finishNode fuel node).serials,
          ∃ steps, arena.ancestor steps serial = some node := by
      intro node member
      obtain ⟨once, below⟩ := inductionHypothesis (1 + depth) (forest.nodup node)
        fun child isChild =>
          (deep node member).below (ancestor_of_mem (forest.parent_of_mem node child isChild))
      have under : ∀ serial ∈ serialsOf (arena.finish fuel (arena.childrenOf node)),
          ∃ steps, arena.ancestor (steps + 1) serial = some node := by
        intro serial isBelow
        obtain ⟨steps, child, isChild, above⟩ := below serial isBelow
        exact ⟨steps, ancestor_succ above (forest.parent_of_mem node child isChild)⟩
      rcases arena.serials_finishNode fuel node with whole | whole | whole
      · rw [whole]
        refine ⟨List.nodup_cons.mpr ⟨fun isBelow => ?_, once⟩, fun serial isBelow => ?_⟩
        · -- a node below itself would be at two depths
          obtain ⟨steps, above⟩ := under node isBelow
          have same := ((deep node member).below above).unique (deep node member)
          omega
        · rcases List.mem_cons.mp isBelow with rfl | isBelow
          · exact ⟨0, rfl⟩
          · obtain ⟨steps, above⟩ := under serial isBelow
            exact ⟨steps + 1, above⟩
      · rw [whole]
        refine ⟨once, fun serial isBelow => ?_⟩
        obtain ⟨steps, above⟩ := under serial isBelow
        exact ⟨steps + 1, above⟩
      · rw [whole]
        exact ⟨List.nodup_nil, fun _ isBelow => absurd isBelow List.not_mem_nil⟩
    rw [finish_succ, serialsOf_eq_flatMap, List.flatMap_map]
    refine ⟨List.nodup_flatMap.mpr ⟨fun node member => (single node member).1, ?apart⟩, ?below⟩
    case apart =>
      refine distinct.imp_of_mem fun {left right} isLeft isRight differ => ?_
      intro serial inLeft inRight
      obtain ⟨first, firstAbove⟩ := (single left isLeft).2 serial inLeft
      obtain ⟨second, secondAbove⟩ := (single right isRight).2 serial inRight
      exact differ ((deep left isLeft).eq_of_below (deep right isRight) firstAbove secondAbove)
    case below =>
      intro serial isBelow
      obtain ⟨node, member, inNode⟩ := List.mem_flatMap.mp isBelow
      obtain ⟨steps, above⟩ := (single node member).2 serial inNode
      exact ⟨steps, node, member, above⟩

end Arena

/-! ### Pages -/

/-- The elements in a node that was taken out are among its elements. -/
theorem map_serial_placesInside (node : Node) :
    ((placesInside node).map Place.serial).Sublist node.serials := by
  cases node with
  | element serial element children =>
    rw [placesInside, map_serial_placesOfNodes, Node.serials]
    exact List.sublist_cons_self _ _
  | fragment children => rw [placesInside, map_serial_placesOfNodes, Node.serials]
  | text | comment | doctype => exact List.nil_sublist _

theorem map_serial_flatMap_placesInside (nodes : List Node) :
    ((nodes.flatMap placesInside).map Place.serial).Sublist (serialsOf nodes) := by
  rw [List.map_flatMap, serialsOf_eq_flatMap]
  induction nodes with
  | nil => exact List.Sublist.refl _
  | cons node rest inductionHypothesis =>
    rw [List.flatMap_cons, List.flatMap_cons]
    exact (map_serial_placesInside node).append inductionHypothesis

/-- The nodes without a parent are below nothing, and none of them is the document. -/
theorem Arena.mem_detachedNodes {arena : Arena} {node : Nat}
    (detached : node ∈ arena.detachedNodes) : node ≠ 0 ∧ arena.IsDeep 0 node := by
  obtain ⟨-, kept⟩ := List.mem_filter.mp detached
  simp only [Bool.and_eq_true, bne_iff_ne, Option.isNone_iff_eq_none] at kept
  exact ⟨kept.1, node, rfl, kept.2⟩

/-- No two elements of a tree under construction have the same number once it is finished. -/
theorem Arena.IsForest.nodup_serials {arena : Arena} (forest : arena.IsForest) (fuel : Nat) :
    let document : Document :=
      ⟨arena.finish fuel (arena.childrenOf 0), arena.finish fuel arena.detachedNodes⟩
    (document.places.map Place.serial).Nodup := by
  intro document
  have top : arena.IsDeep 0 0 := ⟨0, rfl, forest.root⟩
  obtain ⟨onceInPage, inPage⟩ := forest.serialsOf_finish fuel 1 (forest.nodup 0)
    fun child isChild => top.below (ancestor_of_mem (forest.parent_of_mem 0 child isChild))
  obtain ⟨onceInside, inside⟩ := forest.serialsOf_finish fuel 0 (List.nodup_range.filter _)
    fun node detached => (mem_detachedNodes detached).2
  have among := map_serial_flatMap_placesInside (arena.finish fuel arena.detachedNodes)
  rw [Document.places, List.map_append, Document.placesInPage, map_serial_placesOfNodes]
  refine List.nodup_append'.mpr ⟨onceInPage, onceInside.sublist among, fun serial here there => ?_⟩
  -- it would be below the document and below another node without a parent
  obtain ⟨steps, child, isChild, above⟩ := inPage serial here
  obtain ⟨others, node, detached, aboveOther⟩ := inside serial (among.subset there)
  obtain ⟨noDocument, alone⟩ := mem_detachedNodes detached
  have underDocument := ancestor_succ above (forest.parent_of_mem 0 child isChild)
  exact noDocument (top.eq_of_below alone underDocument aboveOther).symm

/-- No two elements of a page have the same number. -/
theorem Document.nodup_serials (text : String) :
    ((Document.read text).places.map Place.serial).Nodup := by
  have isStart : Builder.start.arena.IsForest := Arena.isForest_start
  have forest := (Builder.isSteady_run ((normalize text.toList).length + 2)
    (Builder.isSteady_of_isForest isStart) (normalize text.toList)).nodes.forest
  exact forest.nodup_serials _

end Metasearch.Markup
