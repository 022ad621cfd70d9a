/-
This file proves that the nodes of a tree under construction stand in one place each. A node that is
among the children of another has that one as its parent, no node is twice among the children of
one, and the document itself is nobody's child. So the way from a node up to the document is the
only one, and the tree that is taken out in the end has each node at most once.

Every change is one of three: a new node is made, which stands nowhere; what a node holds is
changed; or a node is moved, that is, taken out of its place and perhaps put into another. A node
that is moved must be there and must not be the document.
-/
import Mathlib.Data.List.Infix
import Mathlib.Data.List.Nodup
import Metasearch.Markup.Arena

namespace Metasearch.Markup.Arena

/-! ### Cells -/

theorem cell_eq (arena : Arena) (node : Nat) :
    arena.cell node = arena.cells[node]?.getD default :=
  Array.getD_eq_getD_getElem?

theorem cell_of_outside {arena : Arena} {node : Nat} (outside : arena.cells.size ≤ node) :
    arena.cell node = default := by
  rw [cell_eq, Array.getElem?_eq_none outside]
  rfl

theorem cell_update (arena : Arena) (node : Nat) (change : Cell → Cell) (other : Nat) :
    (arena.update node change).cell other =
      if node = other ∧ other < arena.cells.size then change (arena.cell other)
      else arena.cell other := by
  rw [cell_eq, cell_eq]
  show ((arena.cells.modify node change)[other]?).getD default = _
  rw [Array.getElem?_modify]
  by_cases within : other < arena.cells.size
  · rw [Array.getElem?_eq_getElem within]
    split <;> simp_all
  · rw [Array.getElem?_eq_none (Nat.le_of_not_lt within)]
    simp [within]

theorem size_update (arena : Arena) (node : Nat) (change : Cell → Cell) :
    (arena.update node change).cells.size = arena.cells.size :=
  Array.size_modify

theorem cell_create (arena : Arena) (content : Content) (other : Nat) :
    (arena.create content).2.cell other =
      if other = arena.cells.size then ⟨none, #[], content⟩ else arena.cell other := by
  rw [cell_eq, cell_eq]
  show ((arena.cells.push ⟨none, #[], content⟩)[other]?).getD default = _
  rw [Array.getElem?_push]
  split <;> rfl

theorem size_create (arena : Arena) (content : Content) :
    (arena.create content).2.cells.size = arena.cells.size + 1 :=
  Array.size_push _

/-! ### Forests -/

/-- The children of a node, the first one first. -/
def childrenOf (arena : Arena) (node : Nat) : List Nat :=
  (arena.cell node).children.toList

/-- Every node stands in one place at the most, and the document in none. -/
structure IsForest (arena : Arena) : Prop where
  parent_of_mem : ∀ parent child, child ∈ arena.childrenOf parent →
    (arena.cell child).parent = some parent
  nodup : ∀ node, (arena.childrenOf node).Nodup
  root : (arena.cell 0).parent = none
  document : (arena.cell 0).content = .document
  nonempty : 0 < arena.cells.size

/-- A node that is there and is not the document. -/
structure IsMovable (arena : Arena) (node : Nat) : Prop where
  ne_document : node ≠ 0
  within : node < arena.cells.size

theorem isForest_start : start.IsForest := by
  have cell : ∀ node, start.childrenOf node = [] ∧ (start.cell node).parent = none := by
    intro node
    cases node <;> exact ⟨rfl, rfl⟩
  exact ⟨fun parent child member => by simp [(cell parent).1] at member,
    fun node => (cell node).1 ▸ List.nodup_nil, rfl, rfl, by decide⟩

/-- What has a parent can be moved. -/
theorem IsForest.isMovable_of_parent {arena : Arena} (forest : arena.IsForest) {node parent : Nat}
    (child : (arena.cell node).parent = some parent) : arena.IsMovable node := by
  constructor
  · rintro rfl
    cases forest.root.symm.trans child
  · by_contra outside
    rw [cell_of_outside (Nat.le_of_not_lt outside)] at child
    cases child

theorem IsForest.isMovable_of_mem {arena : Arena} (forest : arena.IsForest) {node parent : Nat}
    (member : node ∈ arena.childrenOf parent) : arena.IsMovable node :=
  forest.isMovable_of_parent (forest.parent_of_mem parent node member)

/-- What is an element can be moved. -/
theorem IsForest.isMovable_of_element {arena : Arena} (forest : arena.IsForest) {node : Nat}
    (element : arena.element node ≠ default) : arena.IsMovable node := by
  constructor
  · rintro rfl
    exact element (by rw [Arena.element, forest.document])
  · by_contra outside
    exact element (by rw [Arena.element, cell_of_outside (Nat.le_of_not_lt outside)]; rfl)

/-! ### New nodes and new contents -/

theorem IsForest.create {arena : Arena} (forest : arena.IsForest) (content : Content) :
    (arena.create content).2.IsForest := by
  have children : ∀ node, (arena.create content).2.childrenOf node =
      if node = arena.cells.size then [] else arena.childrenOf node := by
    intro node
    rw [childrenOf, cell_create]
    split <;> rfl
  have notNew : 0 ≠ arena.cells.size := Nat.ne_of_lt forest.nonempty
  refine ⟨fun parent child member => ?_, fun node => ?_, ?_, ?_, ?_⟩
  · rw [children] at member
    split at member
    case isTrue => cases member
    case isFalse =>
      have known := forest.parent_of_mem parent child member
      rw [cell_create, if_neg (Nat.ne_of_lt (forest.isMovable_of_parent known).within), known]
  · rw [children]
    split
    · exact List.nodup_nil
    · exact forest.nodup node
  · rw [cell_create, if_neg notNew, forest.root]
  · rw [cell_create, if_neg notNew, forest.document]
  · rw [size_create]
    exact Nat.succ_pos _

theorem IsForest.isMovable_create {arena : Arena} (forest : arena.IsForest) (content : Content) :
    (arena.create content).2.IsMovable (arena.create content).1 :=
  ⟨Nat.ne_of_gt forest.nonempty, by rw [size_create]; exact Nat.lt_succ_self _⟩

theorem IsMovable.create {arena : Arena} {node : Nat} (movable : arena.IsMovable node)
    (content : Content) : (arena.create content).2.IsMovable node :=
  ⟨movable.ne_document, by rw [size_create]; exact Nat.lt_succ_of_lt movable.within⟩

/-- What a node holds may change, but it has to stay what it is if it is the document. -/
theorem IsForest.update {arena : Arena} (forest : arena.IsForest) (node : Nat)
    {change : Cell → Cell}
    (keeps : ∀ cell, (change cell).parent = cell.parent ∧ (change cell).children = cell.children ∧
      (cell.content = .document → (change cell).content = .document)) :
    (arena.update node change).IsForest := by
  have same : ∀ other, ((arena.update node change).cell other).parent = (arena.cell other).parent ∧
      (arena.update node change).childrenOf other = arena.childrenOf other := by
    intro other
    rw [childrenOf, childrenOf, cell_update]
    split
    · exact ⟨(keeps _).1, congrArg Array.toList (keeps _).2.1⟩
    · exact ⟨rfl, rfl⟩
  refine ⟨fun parent child member => ?_, fun other => ?_, ?_, ?_, ?_⟩
  · rw [(same parent).2] at member
    rw [(same child).1, forest.parent_of_mem parent child member]
  · rw [(same other).2]
    exact forest.nodup other
  · rw [(same 0).1, forest.root]
  · rw [cell_update]
    split
    · exact (keeps _).2.2 forest.document
    · exact forest.document
  · rw [size_update]
    exact forest.nonempty

theorem IsForest.extend {arena : Arena} (forest : arena.IsForest) (node : Nat) (text : String) :
    (arena.extend node text).IsForest :=
  forest.update node fun cell => by split <;> simp_all

theorem IsForest.addAttributes {arena : Arena} (forest : arena.IsForest) (node : Nat)
    (attributes : List Attribute) : (arena.addAttributes node attributes).IsForest :=
  forest.update node fun cell => by split <;> simp_all

/-! ### Moving nodes -/

/-- A node was taken out of its place and has a new one, or none; all else stands as before. -/
structure Moved (before after : Arena) (node : Nat) (parent? : Option Nat) : Prop where
  size : after.cells.size = before.cells.size
  contents : ∀ other, (after.cell other).content = (before.cell other).content
  parents : ∀ other, (after.cell other).parent =
    if other = node then parent? else (before.cell other).parent
  others : ∀ other, (after.childrenOf other).filter (· != node) =
    (before.childrenOf other).filter (· != node)
  once : ∀ other, (after.childrenOf other).count node ≤ 1
  inside : ∀ other, node ∈ after.childrenOf other → parent? = some other

variable {before between after arena : Arena} {node : Nat} {parent? : Option Nat}

theorem Moved.trans {first? : Option Nat} (first : Moved before between node first?)
    (second : Moved between after node parent?) : Moved before after node parent? where
  size := second.size.trans first.size
  contents other := (second.contents other).trans (first.contents other)
  parents other := by
    rw [second.parents, first.parents]
    split <;> rfl
  others other := (second.others other).trans (first.others other)
  once := second.once
  inside := second.inside

theorem Moved.isMovable {other : Nat} (moved : Moved before after node parent?)
    (movable : before.IsMovable other) : after.IsMovable other :=
  ⟨movable.ne_document, moved.size ▸ movable.within⟩

/-- The children that stay are those that were there. -/
theorem Moved.mem_iff {other child : Nat} (moved : Moved before after node parent?)
    (stays : child ≠ node) : child ∈ after.childrenOf other ↔ child ∈ before.childrenOf other := by
  have same := congrArg (child ∈ ·) (moved.others other)
  simpa [stays] using same

/-- Moving a node leaves every node in one place at the most. -/
theorem Moved.isForest (moved : Moved before after node parent?) (forest : before.IsForest)
    (settled : node = 0 → parent? = none) : after.IsForest := by
  refine ⟨fun parent child member => ?_, fun other => ?_, ?_, ?_, ?_⟩
  · rw [moved.parents]
    split
    case isTrue same => exact moved.inside parent (same ▸ member)
    case isFalse stays =>
      exact forest.parent_of_mem parent child ((moved.mem_iff stays).mp member)
  · rw [List.nodup_iff_count_le_one]
    intro child
    by_cases same : child = node
    · exact same ▸ moved.once other
    · have kept : ∀ children : List Nat,
          (children.filter (· != node)).count child = children.count child := fun children =>
        List.count_filter (bne_iff_ne.mpr same : (child != node) = true)
      rw [← kept, moved.others, kept]
      exact List.nodup_iff_count_le_one.mp (forest.nodup other) child
  · rw [moved.parents]
    split
    case isTrue same => exact settled same.symm
    case isFalse => exact forest.root
  · rw [moved.contents, forest.document]
  · rw [moved.size]
    exact forest.nonempty

/-- A node that is taken out is nowhere among the children. -/
theorem IsForest.childrenOf_detach (forest : arena.IsForest) (node other : Nat) :
    (arena.detach node).childrenOf other = (arena.childrenOf other).filter (· != node) := by
  have elsewhere : (arena.cell node).parent ≠ some other →
      (arena.childrenOf other).filter (· != node) = arena.childrenOf other := fun differs =>
    List.filter_eq_self.mpr fun child member => bne_iff_ne.mpr fun same =>
      differs (forest.parent_of_mem other node (same ▸ member))
  unfold detach
  split
  case h_1 nowhere => exact (elsewhere (by rw [nowhere]; simp)).symm
  case h_2 parent here =>
    rw [childrenOf, cell_update, cell_update, size_update]
    by_cases same : parent = other ∧ other < arena.cells.size
    · rw [if_pos same]
      have filtered : ((arena.cell other).children.filter (· != node)).toList =
          (arena.childrenOf other).filter (· != node) := Array.toList_filter
      split <;> exact filtered
    · rw [if_neg same]
      have stays : (arena.childrenOf other).filter (· != node) = arena.childrenOf other := by
        by_cases there : parent = other
        · rw [childrenOf, cell_of_outside (Nat.le_of_not_lt fun within => same ⟨there, within⟩)]
          rfl
        · exact elsewhere (by rw [here]; simpa using there)
      rw [stays]
      split <;> rfl

theorem IsForest.moved_detach (forest : arena.IsForest) (node : Nat) :
    Moved arena (arena.detach node) node none where
  size := by
    unfold detach
    split <;> simp only [size_update]
  contents other := by
    unfold detach
    split
    · rfl
    · rw [cell_update, cell_update]
      split <;> split <;> rfl
  parents other := by
    unfold detach
    split
    case h_1 nowhere =>
      split
      case isTrue same => rw [same, nowhere]
      case isFalse => rfl
    case h_2 parent here =>
      have within : node < arena.cells.size := (forest.isMovable_of_parent here).within
      rw [cell_update, cell_update, size_update]
      by_cases same : other = node
      · subst same
        rw [if_pos ⟨rfl, within⟩, if_pos rfl]
      · rw [if_neg fun both => same both.1.symm, if_neg same]
        split <;> rfl
  others other := by
    rw [forest.childrenOf_detach, List.filter_filter]
    simp only [Bool.and_self]
  once other := by
    rw [forest.childrenOf_detach, List.count_eq_zero_of_not_mem (by simp)]
    exact Nat.zero_le 1
  inside other member := by
    rw [forest.childrenOf_detach] at member
    simp at member

theorem IsForest.detach (forest : arena.IsForest) (node : Nat) : (arena.detach node).IsForest :=
  (forest.moved_detach node).isForest forest fun _ => rfl

/-- A node that stood nowhere is put among the children of a parent. -/
theorem moved_of_placed {parent node : Nat}
    (nowhere : ∀ other, node ∉ arena.childrenOf other) (movable : arena.IsMovable node)
    (place : List Nat → List Nat) {change : Cell → Cell}
    (placed : ∀ children, ∃ left right, children = left ++ right ∧
      place children = left ++ node :: right)
    (changes : ∀ cell, (change cell).children.toList = place cell.children.toList ∧
      (change cell).parent = cell.parent ∧ (change cell).content = cell.content) :
    Moved arena ((arena.update parent change).update node fun cell =>
      { cell with parent := some parent }) node (some parent) := by
  have children : ∀ other, ((arena.update parent change).update node fun cell =>
      { cell with parent := some parent }).childrenOf other =
        if parent = other ∧ other < arena.cells.size then place (arena.childrenOf other)
        else arena.childrenOf other := by
    intro other
    rw [childrenOf, cell_update, cell_update]
    split <;> split <;> first | exact (changes _).1 | rfl
  refine ⟨by rw [size_update, size_update], fun other => ?_, fun other => ?_, fun other => ?_,
    fun other => ?_, fun other member => ?_⟩
  · rw [cell_update, cell_update]
    split <;> split <;> first | exact (changes _).2.2 | rfl
  · rw [cell_update, cell_update, size_update]
    by_cases same : other = node
    · subst same
      rw [if_pos ⟨rfl, movable.within⟩, if_pos rfl]
    · rw [if_neg fun both => same both.1.symm, if_neg same]
      split
      · exact (changes _).2.1
      · rfl
  · rw [children]
    split
    · obtain ⟨left, right, whole, put⟩ := placed (arena.childrenOf other)
      rw [put, whole, List.filter_append, List.filter_append, List.filter_cons_of_neg (by simp)]
    · rfl
  · rw [children]
    have absent := List.count_eq_zero_of_not_mem (nowhere other)
    split
    · obtain ⟨left, right, whole, put⟩ := placed (arena.childrenOf other)
      rw [whole, List.count_append] at absent
      rw [put, List.count_append, List.count_cons_self]
      omega
    · omega
  · rw [children] at member
    split at member
    case isTrue here => rw [here.1]
    case isFalse => exact absurd member (nowhere other)

theorem IsForest.notMem_detach (forest : arena.IsForest) (node other : Nat) :
    node ∉ (arena.detach node).childrenOf other := by
  rw [forest.childrenOf_detach]
  simp

theorem IsForest.moved_append (forest : arena.IsForest) (parent : Nat) {node : Nat}
    (movable : arena.IsMovable node) : Moved arena (arena.append parent node) node (some parent) :=
  (forest.moved_detach node).trans <|
    moved_of_placed (forest.notMem_detach node)
      ((forest.moved_detach node).isMovable movable) (· ++ [node])
      (fun children => ⟨children, [], (List.append_nil _).symm, rfl⟩)
      fun _ => ⟨Array.toList_push, rfl, rfl⟩

theorem IsForest.append (forest : arena.IsForest) (parent : Nat) {node : Nat}
    (movable : arena.IsMovable node) : (arena.append parent node).IsForest :=
  (forest.moved_append parent movable).isForest forest fun same => absurd same movable.ne_document

theorem IsForest.moved_insertBefore (forest : arena.IsForest) (sibling : Nat) {node : Nat}
    (movable : arena.IsMovable node) :
    ∃ parent?, Moved arena (arena.insertBefore sibling node) node parent? := by
  have detached := forest.moved_detach node
  unfold Arena.insertBefore
  simp only
  split
  case h_1 => exact ⟨none, detached⟩
  case h_2 parent _ =>
    refine ⟨some parent, detached.trans (moved_of_placed (forest.notMem_detach node)
      (detached.isMovable movable) (fun children =>
        children.takeWhile (· != sibling) ++
          node :: children.drop (children.takeWhile (· != sibling)).length) ?splits ?puts)⟩
    case splits =>
      exact fun children =>
        ⟨_, _, List.prefix_append_drop (List.takeWhile_prefix _), rfl⟩
    case puts => exact fun cell => ⟨rfl, rfl, rfl⟩

theorem IsForest.insertBefore (forest : arena.IsForest) (sibling : Nat) {node : Nat}
    (movable : arena.IsMovable node) : (arena.insertBefore sibling node).IsForest := by
  obtain ⟨parent?, moved⟩ := forest.moved_insertBefore sibling movable
  exact moved.isForest forest fun same => absurd same movable.ne_document

end Metasearch.Markup.Arena
