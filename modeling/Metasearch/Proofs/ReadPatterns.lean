/-
What every pattern that was read is like: the bounds of its repetitions are in order, and its groups
are numbered from one on. So a pattern has the number of a group that can be entered only if it has
such a group.
-/
import Metasearch.Pattern.Match

namespace Metasearch.Pattern

/-! ### Trees -/

/-- The bounds of repetitions are in order, and groups are numbered from one on. -/
def Node.WellFormed : Node → Prop
  | .nothing | .one _ | .look _ => True
  | .both first second | .either first second => first.WellFormed ∧ second.WellFormed
  | .group number inner => 0 < number ∧ inner.WellFormed
  | .repeated least most _ inner =>
    (∀ limit, most = some limit → least ≤ limit) ∧ inner.WellFormed

/-- There is a group in the tree. -/
def Node.mentionsGroup : Node → Bool
  | .nothing | .one _ | .look _ => false
  | .both first second | .either first second => first.mentionsGroup || second.mentionsGroup
  | .group _ _ => true
  | .repeated _ _ _ inner => inner.mentionsGroup

/-- There is a group in the tree that can be entered: it is in nothing that is repeated no times. -/
def Node.hasGroup : Node → Bool
  | .nothing | .one _ | .look _ => false
  | .both first second | .either first second => first.hasGroup || second.hasGroup
  | .group _ _ => true
  | .repeated _ most _ inner => most != some 0 && inner.hasGroup

theorem Node.mentionsGroup_of_hasGroup :
    ∀ {node : Node}, node.hasGroup = true → node.mentionsGroup = true
  | .both _ _, isGroup | .either _ _, isGroup =>
    Bool.or_eq_true_iff.mpr ((Bool.or_eq_true_iff.mp isGroup).imp
      mentionsGroup_of_hasGroup mentionsGroup_of_hasGroup)
  | .group _ _, _ => rfl
  | .repeated _ _ _ inner, isGroup =>
    inner.mentionsGroup_of_hasGroup (Bool.and_eq_true_iff.mp isGroup).2

/-- A group that can be entered is one that has a number. -/
theorem Node.lastGroup_eq_zero_iff :
    ∀ {node : Node}, node.WellFormed → (node.lastGroup = 0 ↔ node.hasGroup = false)
  | .nothing, _ | .one _, _ | .look _, _ => by simp [lastGroup, hasGroup]
  | .both first second, wellFormed => by
    rw [lastGroup, hasGroup, Nat.max_eq_zero_iff, Bool.or_eq_false_iff,
      lastGroup_eq_zero_iff wellFormed.1, lastGroup_eq_zero_iff wellFormed.2]
  | .either first second, wellFormed => by
    rw [lastGroup, hasGroup, Nat.max_eq_zero_iff, Bool.or_eq_false_iff,
      lastGroup_eq_zero_iff wellFormed.1, lastGroup_eq_zero_iff wellFormed.2]
  | .group number inner, wellFormed => by
    have positive : 0 < number := wellFormed.1
    rw [lastGroup, hasGroup]
    exact iff_of_false (by omega) Bool.noConfusion
  | .repeated _ most _ inner, wellFormed => by
    rw [lastGroup, hasGroup]
    by_cases never : most = some 0
    · simp [never]
    · rw [if_neg (by simpa using never), lastGroup_eq_zero_iff wellFormed.2]
      simp [never]

/-! ### Reading -/

/-- Trees put together, one after the other, are as each of them and each of the steps is. -/
theorem wellFormed_foldl {join : Node → Tall → Node}
    (joins : ∀ node item, node.WellFormed → item.node.WellFormed → (join node item).WellFormed)
    {items : List Tall} (isItems : ∀ item ∈ items, item.node.WellFormed) {node : Node}
    (isNode : node.WellFormed) : (items.foldl join node).WellFormed := by
  induction items generalizing node with
  | nil => exact isNode
  | cons item rest inductionHypothesis =>
    obtain ⟨here, later⟩ := List.forall_mem_cons.mp isItems
    exact inductionHypothesis later (joins node item isNode here)

theorem wellFormed_sequence {items : List Tall} (isItems : ∀ item ∈ items, item.node.WellFormed) :
    (sequence items).node.WellFormed := by
  match items with
  | [] => trivial
  | [item] => exact isItems item List.mem_cons_self
  | last :: other :: others =>
    obtain ⟨here, later⟩ := List.forall_mem_cons.mp isItems
    refine wellFormed_foldl ?_ later here
    exact fun _ _ isNode isItem => ⟨isItem, isNode⟩

theorem wellFormed_choice {branches : List Tall}
    (isBranches : ∀ branch ∈ branches, branch.node.WellFormed) :
    (choice branches).node.WellFormed := by
  match branches with
  | [] => trivial
  | [branch] => exact isBranches branch List.mem_cons_self
  | last :: other :: others =>
    obtain ⟨here, later⟩ := List.forall_mem_cons.mp isBranches
    refine wellFormed_foldl ?_ later here
    exact fun _ _ isNode isBranch => ⟨isBranch, isNode⟩

theorem wellFormed_leaf (flags : Flags) (escaped : Escaped) :
    (leaf flags escaped).node.WellFormed := by
  cases escaped <;> trivial

theorem wellFormed_repeat {flags : Flags} {least : Nat} {most : Option Nat} {inner : Tall}
    {text : List Char} (ordered : ∀ limit, most = some limit → least ≤ limit)
    (isInner : inner.node.WellFormed) :
    (repeat_ flags least most inner text).1.node.WellFormed :=
  ⟨ordered, isInner⟩

/-- However the upper bound was read, in the end it is compared with the lower one. -/
theorem ordered_of_compared {first least : Nat} {second most : Option Nat} {after rest : List Char}
    (success : (if second.any (· < first) then none else some (first, second, after)) =
      some (least, most, rest)) :
    ∀ limit, most = some limit → least ≤ limit := by
  split at success
  case isTrue => exact absurd success (Option.some_ne_none _).symm
  case isFalse ordered =>
    simp only [Option.some.injEq, Prod.mk.injEq] at success
    obtain ⟨rfl, rfl, -⟩ := success
    rintro limit rfl
    simpa using ordered

theorem readBounds_ordered {flags : Flags} {text rest : List Char} {least : Nat}
    {most : Option Nat} (success : readBounds? flags text = some (least, most, rest)) :
    ∀ limit, most = some limit → least ≤ limit := by
  unfold readBounds? at success
  obtain ⟨⟨first, after⟩, -, success⟩ := Option.bind_eq_some_iff.mp success
  simp only [Option.pure_def, Option.bind_eq_bind, Option.bind_some] at success
  split at success
  case h_1 =>
    split at success
    case h_1 => exact ordered_of_compared success
    case h_2 =>
      obtain ⟨⟨second, behind⟩, -, success⟩ := Option.bind_eq_some_iff.mp success
      split at success
      case h_1 => exact ordered_of_compared success
      case h_2 => exact absurd success (Option.some_ne_none _).symm
  case h_2 =>
    split at success
    case h_1 => exact ordered_of_compared success
    case h_2 => exact absurd success (Option.some_ne_none _).symm

/-- A group with a name is opened like one without. -/
theorem opened_of_named {reading inner : Reading} {behind rest : List Char}
    (success : ((readGroupName? behind).bind fun found =>
      if reading.names.contains found.1 then none
      else some (Opening.numbered,
        { reading with groups := reading.groups + 1, names := found.1 :: reading.names },
        found.2)) = some (.numbered, inner, rest)) :
    0 < inner.groups := by
  obtain ⟨found, -, success⟩ := Option.bind_eq_some_iff.mp success
  split at success
  case isTrue => exact absurd success (Option.some_ne_none _).symm
  case isFalse =>
    simp only [Option.some.injEq, Prod.mk.injEq, true_and] at success
    rw [← success.1]
    exact Nat.succ_pos _

theorem readOpening_numbered {reading inner : Reading} {text rest : List Char}
    (success : readOpening? reading text = some (.numbered, inner, rest)) :
    0 < inner.groups := by
  unfold readOpening? at success
  dsimp only at success
  split at success
  case h_5 | h_6 => exact opened_of_named success
  case h_8 =>
    obtain ⟨⟨flags, after⟩, -, success⟩ := Option.bind_eq_some_iff.mp success
    split at success <;> simp at success
  case h_9 =>
    simp only [Option.some.injEq, Prod.mk.injEq, true_and] at success
    rw [← success.1]
    exact Nat.succ_pos _
  all_goals exact absurd success (Option.some_ne_none _).symm

theorem wellFormed_readBranches {fuel depth : Nat} {reading after : Reading}
    {text rest : List Char} {branches items : List Tall} {tall : Tall}
    (success : readBranches? fuel depth reading text branches items = some (tall, after, rest))
    (isBranches : ∀ branch ∈ branches, branch.node.WellFormed)
    (isItems : ∀ item ∈ items, item.node.WellFormed) : tall.node.WellFormed := by
  induction fuel generalizing depth reading after text rest branches items tall with
  | zero => exact absurd success (Option.some_ne_none _).symm
  | succ fuel inductionHypothesis =>
    have allBranches : ∀ branch ∈ sequence items :: branches, branch.node.WellFormed :=
      List.forall_mem_cons.mpr ⟨wellFormed_sequence isItems, isBranches⟩
    -- One more thing, or another one in place of the last.
    have put : ∀ {item : Tall} {others : List Tall}, item.node.WellFormed →
        (∀ item ∈ others, item.node.WellFormed) →
        ∀ {reading : Reading} {text : List Char},
        readBranches? fuel depth reading text branches (item :: others) =
          some (tall, after, rest) → tall.node.WellFormed :=
      fun isItem isOther _ _ success =>
        inductionHypothesis success isBranches (List.forall_mem_cons.mpr ⟨isItem, isOther⟩)
    rw [readBranches?] at success
    dsimp only at success
    split at success
    case h_1 =>
      rw [← (Prod.mk.inj (Option.some.inj success)).1]
      exact wellFormed_choice allBranches
    case h_2 =>
      split at success
      case h_1 =>
        split at success
        case isTrue => exact absurd success (Option.some_ne_none _).symm
        case isFalse =>
          rw [← (Prod.mk.inj (Option.some.inj success)).1]
          exact wellFormed_choice allBranches
      case h_2 =>
        exact inductionHypothesis success allBranches fun _ isItem =>
          absurd isItem List.not_mem_nil
      case h_3 =>
        obtain ⟨opened, opens, success⟩ := Option.bind_eq_some_iff.mp success
        split at success
        case h_1 => exact inductionHypothesis success isBranches isItems
        case h_2 => exact absurd success (Option.some_ne_none _).symm
        case h_3 opening inner behind _ _ =>
          split at success
          case isTrue => exact absurd success (Option.some_ne_none _).symm
          case isFalse =>
            obtain ⟨⟨sub, _, _⟩, reads, success⟩ := Option.bind_eq_some_iff.mp success
            have isSub := inductionHypothesis reads (List.forall_mem_nil _) (List.forall_mem_nil _)
            dsimp only at success
            split at success
            case h_1 =>
              refine put ?_ isItems success
              split
              case h_1 => exact ⟨readOpening_numbered opens, isSub⟩
              case h_2 => exact isSub
            case h_2 => exact absurd success (Option.some_ne_none _).symm
      case h_4 =>
        obtain ⟨⟨set, behind⟩, -, success⟩ := Option.bind_eq_some_iff.mp success
        exact put (by trivial) isItems success
      case h_5 | h_6 | h_7 =>
        split at success
        case h_1 => exact absurd success (Option.some_ne_none _).symm
        case h_2 =>
          obtain ⟨isLast, isOther⟩ := List.forall_mem_cons.mp isItems
          exact put (wellFormed_repeat (by simp) isLast) isOther success
      case h_8 =>
        split at success
        case h_1 => exact absurd success (Option.some_ne_none _).symm
        case h_2 =>
          obtain ⟨isLast, isOther⟩ := List.forall_mem_cons.mp isItems
          obtain ⟨⟨least, most, behind⟩, bounds, success⟩ := Option.bind_eq_some_iff.mp success
          exact put (wellFormed_repeat (readBounds_ordered bounds) isLast) isOther success
      case h_9 =>
        obtain ⟨⟨escaped, behind⟩, -, success⟩ := Option.bind_eq_some_iff.mp success
        exact put (wellFormed_leaf _ _) isItems success
      case h_10 | h_11 | h_12 => exact put (by trivial) isItems success
      case h_13 => exact put (wellFormed_leaf _ _) isItems success

theorem wellFormed_read {source : String} {pattern : Pattern}
    (success : read? source = some pattern) : pattern.text = source ∧ pattern.node.WellFormed := by
  obtain ⟨node, reads, rfl⟩ := Option.map_eq_some_iff.mp success
  refine ⟨rfl, ?_⟩
  unfold readNode? at reads
  obtain ⟨⟨tall, after, rest⟩, reads, success⟩ := Option.bind_eq_some_iff.mp reads
  dsimp only at success
  split at success
  case isTrue => exact absurd success (Option.some_ne_none _).symm
  case isFalse =>
    rw [← Option.some.inj success]
    exact wellFormed_readBranches reads (List.forall_mem_nil _) (List.forall_mem_nil _)

end Metasearch.Pattern
