/-
This file proves that some elements at the outermost level of a document can be relied on to stay
there: what a change makes is new, and what it moves is another node. All that is asked of a move is
that it does not move one of them.
-/
import Metasearch.Proofs.NodeForests

namespace Metasearch.Markup.Arena

variable {arena after : Arena} {fixed : Nat → Prop} {node : Nat}

/-- Every node stands in one place at the most, and those that are fixed are elements at the
outermost level. -/
structure Fixes (arena : Arena) (fixed : Nat → Prop) : Prop where
  forest : arena.IsForest
  child : ∀ root, fixed root → root ∈ arena.childrenOf 0
  element : ∀ root, fixed root → ∃ element, (arena.cell root).content = .element element

theorem IsForest.fixes (forest : arena.IsForest) : arena.Fixes fun _ => False :=
  ⟨forest, fun _ => False.elim, fun _ => False.elim⟩

namespace Fixes

theorem isMovable (fixes : arena.Fixes fixed) (isFixed : fixed node) : arena.IsMovable node :=
  fixes.forest.isMovable_of_mem (fixes.child node isFixed)

/-! ### New nodes and new contents -/

/-- A new node is not fixed. -/
theorem not_new (fixes : arena.Fixes fixed) (content : Content) :
    ¬ fixed (arena.create content).1 := fun isFixed =>
  absurd (fixes.isMovable isFixed).within (Nat.lt_irrefl arena.cells.size)

theorem create (fixes : arena.Fixes fixed) (content : Content) :
    (arena.create content).2.Fixes fixed := by
  have document : 0 ≠ arena.cells.size := Nat.ne_of_lt fixes.forest.nonempty
  refine ⟨fixes.forest.create content, fun root isFixed => ?_, fun root isFixed => ?_⟩
  · rw [childrenOf, cell_create, if_neg document]
    exact fixes.child root isFixed
  · rw [cell_create, if_neg (Nat.ne_of_lt (fixes.isMovable isFixed).within)]
    exact fixes.element root isFixed

/-- What a node holds may change, but an element has to stay one. -/
theorem update (fixes : arena.Fixes fixed) (node : Nat) {change : Cell → Cell}
    (forest : (arena.update node change).IsForest)
    (keeps : ∀ cell, (change cell).children = cell.children ∧ ((∃ element,
      cell.content = .element element) → ∃ element, (change cell).content = .element element)) :
    (arena.update node change).Fixes fixed := by
  refine ⟨forest, fun root isFixed => ?_, fun root isFixed => ?_⟩
  · rw [childrenOf, cell_update]
    split
    · rw [(keeps _).1]
      exact fixes.child root isFixed
    · exact fixes.child root isFixed
  · rw [cell_update]
    split
    · exact (keeps _).2 (fixes.element root isFixed)
    · exact fixes.element root isFixed

theorem extend (fixes : arena.Fixes fixed) (node : Nat) (text : String) :
    (arena.extend node text).Fixes fixed :=
  fixes.update node (fixes.forest.extend node text) fun cell => by split <;> simp_all

theorem addAttributes (fixes : arena.Fixes fixed) (node : Nat) (attributes : List Attribute) :
    (arena.addAttributes node attributes).Fixes fixed :=
  fixes.update node (fixes.forest.addAttributes node attributes) fun cell => by
    split <;> simp_all

/-! ### Moving nodes -/

/-- A node that is not fixed may be moved. -/
theorem moved (fixes : arena.Fixes fixed) {parent? : Option Nat}
    (moved : Moved arena after node parent?) (forest : after.IsForest) (free : ¬ fixed node) :
    after.Fixes fixed := by
  refine ⟨forest, fun root isFixed => ?_, fun root isFixed => ?_⟩
  · have stays : root ≠ node := fun same => free (same ▸ isFixed)
    exact (moved.mem_iff stays).mpr (fixes.child root isFixed)
  · rw [moved.contents]
    exact fixes.element root isFixed

theorem detach (fixes : arena.Fixes fixed) (free : ¬ fixed node) :
    (arena.detach node).Fixes fixed :=
  fixes.moved (fixes.forest.moved_detach node) (fixes.forest.detach node) free

theorem append (fixes : arena.Fixes fixed) (parent : Nat) (movable : arena.IsMovable node)
    (free : ¬ fixed node) : (arena.append parent node).Fixes fixed :=
  fixes.moved (fixes.forest.moved_append parent movable) (fixes.forest.append parent movable) free

theorem insertBefore (fixes : arena.Fixes fixed) (sibling : Nat) (movable : arena.IsMovable node)
    (free : ¬ fixed node) : (arena.insertBefore sibling node).Fixes fixed := by
  obtain ⟨parent?, moved⟩ := fixes.forest.moved_insertBefore sibling movable
  exact fixes.moved moved (fixes.forest.insertBefore sibling movable) free

/-! ### Texts and whole families -/

theorem appendText (fixes : arena.Fixes fixed) (parent : Nat) (text : String) :
    (arena.appendText parent text).Fixes fixed := by
  have new := (fixes.create (.text text)).append parent
    (fixes.forest.isMovable_create (.text text)) (fixes.not_new (.text text))
  unfold Arena.appendText
  split
  case h_1 =>
    split
    · exact fixes.extend _ text
    · exact new
  case h_2 => exact new

theorem insertTextBefore (fixes : arena.Fixes fixed) (sibling : Nat) (text : String) :
    (arena.insertTextBefore sibling text).Fixes fixed := by
  have new := (fixes.create (.text text)).insertBefore sibling
    (fixes.forest.isMovable_create (.text text)) (fixes.not_new (.text text))
  unfold Arena.insertTextBefore
  split
  case h_1 => exact fixes
  case h_2 =>
    split
    case h_1 =>
      split
      · exact fixes.extend _ text
      · exact new
    case h_2 => exact new

theorem foldl_append (fixes : arena.Fixes fixed) (target : Nat) {nodes : List Nat}
    (movable : ∀ node ∈ nodes, arena.IsMovable node) (free : ∀ node ∈ nodes, ¬ fixed node) :
    let after := nodes.foldl (fun arena node => arena.append target node) arena
    after.Fixes fixed ∧ after.cells.size = arena.cells.size := by
  induction nodes generalizing arena with
  | nil => exact ⟨fixes, rfl⟩
  | cons node rest inductionHypothesis =>
    obtain ⟨here, later⟩ := List.forall_mem_cons.mp movable
    obtain ⟨freeHere, freeLater⟩ := List.forall_mem_cons.mp free
    have moved := fixes.forest.moved_append target here
    obtain ⟨whole, size⟩ := inductionHypothesis (fixes.append target here freeHere)
      (fun other member => moved.isMovable (later other member)) freeLater
    exact ⟨whole, size.trans moved.size⟩

/-- The children of any node but the document are not fixed. -/
theorem moveChildren (fixes : arena.Fixes fixed) {source : Nat} (inside : source ≠ 0)
    (target : Nat) : (arena.moveChildren source target).Fixes fixed ∧
      (arena.moveChildren source target).cells.size = arena.cells.size := by
  rw [Arena.moveChildren, ← Array.foldl_toList]
  refine fixes.foldl_append target (fun node member => fixes.forest.isMovable_of_mem member)
    fun root member isFixed => ?_
  have parent := fixes.forest.parent_of_mem source root member
  rw [fixes.forest.parent_of_mem 0 root (fixes.child root isFixed)] at parent
  exact inside (Option.some.inj parent).symm

end Fixes

end Metasearch.Markup.Arena
