/-
This file settles what a pattern picks out of a text. What a pattern matches is said by its tree
alone: from which index to which other one, and what the groups passed in between enclose. A value
that is matched nowhere is an error. Else the match is one that starts at the first index at which
any match starts, and of the ways in which the pattern matches there it is the preferred one. If
the pattern has a group, what it picks is what the first group encloses, within the match, or
nothing if the match did not pass it; else it is all of the match.

A group counts only if it can be entered. A pattern whose groups are all in things repeated no times
picks what it matches, as if it had no group.
-/
import Mathlib
import Metasearch.Filter
import Metasearch.Proofs.PatternWays
import Metasearch.Proofs.ReadPatterns

namespace Metasearch.Pattern

/-! ### Matches -/

/-- So many parts, one behind the other. -/
def Repeats (part : Nat → Nat → List (Nat × Nat × Nat) → Prop) :
    Nat → Nat → Nat → List (Nat × Nat × Nat) → Prop
  | 0, start, finish, groups => finish = start ∧ groups = []
  | count + 1, start, finish, groups => ∃ middle inner outer,
    part start middle inner ∧ Repeats part count middle finish outer ∧ groups = outer ++ inner

/-- A tree matches a text from one index to another, and the groups passed in between enclose the
given parts, last first. -/
def Node.Matches (text : List Char) : Node → Nat → Nat → List (Nat × Nat × Nat) → Prop
  | .nothing, start, finish, groups => finish = start ∧ groups = []
  | .one set, start, finish, groups =>
    (∃ c, text[start]? = some c ∧ set.contains c = true) ∧ finish = start + 1 ∧ groups = []
  | .look check, start, finish, groups =>
    check.holds (charBefore? text start) text[start]? = true ∧ finish = start ∧ groups = []
  | .both first second, start, finish, groups => ∃ middle inner outer,
    first.Matches text start middle inner ∧ second.Matches text middle finish outer ∧
      groups = outer ++ inner
  | .either first second, start, finish, groups =>
    first.Matches text start finish groups ∨ second.Matches text start finish groups
  | .group number inner, start, finish, groups => ∃ passed,
    inner.Matches text start finish passed ∧ groups = (number, start, finish) :: passed
  | .repeated least most _ inner, start, finish, groups => ∃ count,
    least ≤ count ∧ (∀ limit, most = some limit → count ≤ limit) ∧
      Repeats (inner.Matches text) count start finish groups

section

variable {part : Nat → Nat → List (Nat × Nat × Nat) → Prop} {count start middle finish : Nat}
  {inner outer groups : List (Nat × Nat × Nat)}

theorem repeats_one (isPart : part start finish groups) : Repeats part 1 start finish groups :=
  ⟨finish, groups, [], isPart, ⟨rfl, rfl⟩, rfl⟩

theorem Repeats.append {further : Nat} (repeats : Repeats part count start middle inner)
    (repeatsFurther : Repeats part further middle finish outer) :
    Repeats part (count + further) start finish (outer ++ inner) := by
  induction count generalizing start inner with
  | zero =>
    obtain ⟨rfl, rfl⟩ := repeats
    rwa [Nat.zero_add, List.append_nil]
  | succ count inductionHypothesis =>
    obtain ⟨next, first, rest, isPart, repeats, rfl⟩ := repeats
    rw [Nat.add_right_comm, ← List.append_assoc]
    exact ⟨next, first, outer ++ rest, isPart, inductionHypothesis repeats, rfl⟩

theorem Repeats.split {further : Nat}
    (repeats : Repeats part (count + further) start finish groups) :
    ∃ middle inner outer, Repeats part count start middle inner ∧
      Repeats part further middle finish outer ∧ groups = outer ++ inner := by
  induction count generalizing start groups with
  | zero =>
    rw [Nat.zero_add] at repeats
    exact ⟨start, [], groups, ⟨rfl, rfl⟩, repeats, (List.append_nil _).symm⟩
  | succ count inductionHypothesis =>
    rw [Nat.add_right_comm] at repeats
    obtain ⟨next, first, rest, isPart, repeats, rfl⟩ := repeats
    obtain ⟨middle, inner, outer, here, there, rfl⟩ := inductionHypothesis repeats
    exact ⟨middle, inner ++ first, outer, ⟨next, first, inner, isPart, here, rfl⟩, there,
      List.append_assoc _ _ _⟩

end

/-! ### Ways are matches -/

variable {text : List Char}

theorem mem_chain {first second : Nat → List Way} {index : Nat} {way : Way} :
    way ∈ chain first second index ↔
      ∃ before ∈ first index, ∃ behind ∈ second before.finish, before.behind behind = way := by
  simp only [chain, List.mem_flatMap, List.mem_map]

theorem mem_orStay {further : Nat → List Way} {greedy : Bool} {index : Nat} {way : Way} :
    way ∈ orStay greedy further index ↔ way ∈ further index ∨ way = .stay index := by
  cases greedy <;> simp [orStay, or_comm]

theorem mem_goOn {further : Nat → List Way} {greedy isFirst : Bool} {index : Nat}
    {before way : Way} (isWay : way ∈ goOn further greedy isFirst index before) :
    way = before ∨ ∃ behind ∈ further before.finish, before.behind behind = way := by
  unfold goOn at isWay
  split at isWay
  · cases isFirst <;> simp_all
  · cases greedy <;> simp_all [or_comm]

section

variable {ways : Nat → List Way} {part : Nat → Nat → List (Nat × Nat × Nat) → Prop}
  (sound : ∀ index, ∀ way ∈ ways index, part index way.finish way.groups)

include sound

theorem repeats_of_mem_times {count index : Nat} {way : Way}
    (isWay : way ∈ times ways count index) :
    Repeats part count index way.finish way.groups := by
  induction count generalizing index way with
  | zero =>
    obtain rfl := List.mem_singleton.mp isWay
    exact ⟨rfl, rfl⟩
  | succ count inductionHypothesis =>
    obtain ⟨before, isBefore, behind, isBehind, rfl⟩ := mem_chain.mp isWay
    have repeats := inductionHypothesis isBehind
    exact ⟨_, _, _, sound index before isBefore, repeats, rfl⟩

theorem repeats_of_mem_upTo {greedy : Bool} {count index : Nat} {way : Way}
    (isWay : way ∈ upTo ways greedy count index) :
    ∃ times ≤ count, Repeats part times index way.finish way.groups := by
  induction count generalizing index way with
  | zero =>
    obtain rfl := List.mem_singleton.mp isWay
    exact ⟨0, Nat.le_refl _, rfl, rfl⟩
  | succ count inductionHypothesis =>
    rcases mem_orStay.mp isWay with isFurther | rfl
    · obtain ⟨before, isBefore, behind, isBehind, rfl⟩ := mem_chain.mp isFurther
      obtain ⟨times, atMost, repeats⟩ := inductionHypothesis isBehind
      exact ⟨times + 1, Nat.succ_le_succ atMost, _, _, _, sound index before isBefore, repeats, rfl⟩
    · exact ⟨0, Nat.zero_le _, rfl, rfl⟩

theorem repeats_of_mem_onwards {greedy isFirst : Bool} {fuel index : Nat} {way : Way}
    (isWay : way ∈ onwards ways greedy fuel isFirst index) :
    ∃ further, Repeats part (further + 1) index way.finish way.groups := by
  induction fuel generalizing isFirst index way with
  | zero => exact absurd isWay List.not_mem_nil
  | succ fuel inductionHypothesis =>
    obtain ⟨before, isBefore, isWay⟩ := List.mem_flatMap.mp isWay
    have isPart := sound index before isBefore
    rcases mem_goOn isWay with rfl | ⟨behind, isBehind, rfl⟩
    · exact ⟨0, repeats_one isPart⟩
    · obtain ⟨further, repeats⟩ := inductionHypothesis isBehind
      exact ⟨further + 1, _, _, _, isPart, repeats, rfl⟩

end

/-- Each way through a tree matches. -/
theorem Node.matches_of_mem_ways :
    ∀ {node : Node}, node.WellFormed → ∀ index, ∀ way ∈ node.ways text index,
      node.Matches text index way.finish way.groups
  | .nothing, _, index, way, isWay => by
    obtain rfl := List.mem_singleton.mp isWay
    exact ⟨rfl, rfl⟩
  | .one set, _, index, way, isWay => by
    obtain ⟨isNext, rfl⟩ := mem_overChar.mp isWay
    exact ⟨isNext, rfl, rfl⟩
  | .look check, _, index, way, isWay => by
    obtain ⟨holds, rfl⟩ := mem_pastCheck.mp isWay
    exact ⟨holds, rfl, rfl⟩
  | .both first second, wellFormed, index, way, isWay => by
    obtain ⟨before, isBefore, behind, isBehind, rfl⟩ := mem_chain.mp isWay
    exact ⟨_, _, _, matches_of_mem_ways wellFormed.1 index before isBefore,
      matches_of_mem_ways wellFormed.2 _ behind isBehind, rfl⟩
  | .either first second, wellFormed, index, way, isWay =>
    (List.mem_append.mp isWay).imp (matches_of_mem_ways wellFormed.1 index way)
      (matches_of_mem_ways wellFormed.2 index way)
  | .group number inner, wellFormed, index, way, isWay => by
    obtain ⟨passed, isPassed, rfl⟩ := List.mem_map.mp isWay
    exact ⟨_, matches_of_mem_ways wellFormed.2 index passed isPassed, rfl⟩
  | .repeated 0 none greedy inner, wellFormed, index, way, isWay => by
    have sound := fun index way => matches_of_mem_ways wellFormed.2 index way
    rcases mem_orStay.mp isWay with isFurther | rfl
    · obtain ⟨further, repeats⟩ := repeats_of_mem_onwards sound isFurther
      exact ⟨further + 1, Nat.zero_le _, by simp, repeats⟩
    · exact ⟨0, Nat.le_refl _, by simp, rfl, rfl⟩
  | .repeated (least + 1) none greedy inner, wellFormed, index, way, isWay => by
    have sound := fun index way => matches_of_mem_ways wellFormed.2 index way
    obtain ⟨before, isBefore, behind, isBehind, rfl⟩ := mem_chain.mp isWay
    have repeats := repeats_of_mem_times sound isBefore
    obtain ⟨further, repeatsFurther⟩ := repeats_of_mem_onwards sound isBehind
    exact ⟨least + (further + 1), by omega, by simp, repeats.append repeatsFurther⟩
  | .repeated least (some most) greedy inner, wellFormed, index, way, isWay => by
    have sound := fun index way => matches_of_mem_ways wellFormed.2 index way
    have ordered := wellFormed.1 most rfl
    have isChain : way ∈ chain (times (inner.ways text) least)
        (upTo (inner.ways text) greedy (most - least)) index := by
      cases least <;> exact isWay
    obtain ⟨before, isBefore, behind, isBehind, rfl⟩ := mem_chain.mp isChain
    have repeats := repeats_of_mem_times sound isBefore
    obtain ⟨further, atMost, repeatsFurther⟩ := repeats_of_mem_upTo sound isBehind
    refine ⟨least + further, Nat.le_add_right _ _, ?_, repeats.append repeatsFurther⟩
    rintro limit ⟨⟩
    omega

/-! ### Matches are ways -/

theorem mem_indices_stay (index : Nat) : index ∈ indices [.stay index] :=
  mem_indices.mpr ⟨_, List.mem_singleton_self _, rfl⟩

theorem mem_indices_chain {first second : Nat → List Way} {index finish : Nat} :
    finish ∈ indices (chain first second index) ↔
      ∃ middle ∈ indices (first index), finish ∈ indices (second middle) := by
  simp only [chain, mem_indices_flatMap, indices_map_behind]
  constructor
  · rintro ⟨way, isWay, leads⟩
    exact ⟨way.finish, mem_indices.mpr ⟨way, isWay, rfl⟩, leads⟩
  · rintro ⟨middle, isMiddle, leads⟩
    obtain ⟨way, isWay, rfl⟩ := mem_indices.mp isMiddle
    exact ⟨way, isWay, leads⟩

theorem mem_indices_orStay {further : Nat → List Way} {greedy : Bool} {index finish : Nat} :
    finish ∈ indices (orStay greedy further index) ↔
      finish ∈ indices (further index) ∨ finish = index := by
  cases greedy <;> simp [orStay, Way.stay, or_comm]

section

variable {ways : Nat → List Way} {part : Nat → Nat → List (Nat × Nat × Nat) → Prop}
  {index finish : Nat} {groups : List (Nat × Nat × Nat)}
  (leadOn : LeadOn text ways)
  (complete : ∀ index ≤ text.length, ∀ finish groups, part index finish groups →
    finish ∈ indices (ways index))

include leadOn complete

theorem mem_indices_times {count : Nat} (isIndex : index ≤ text.length)
    (repeats : Repeats part count index finish groups) :
    finish ∈ indices (times ways count index) := by
  induction count generalizing index groups with
  | zero =>
    obtain ⟨rfl, -⟩ := repeats
    exact mem_indices_stay _
  | succ count inductionHypothesis =>
    obtain ⟨middle, inner, outer, isPart, repeats, -⟩ := repeats
    have isMiddle := complete index isIndex middle inner isPart
    exact mem_indices_chain.mpr
      ⟨middle, isMiddle, inductionHypothesis (leadOn.le isIndex isMiddle) repeats⟩

theorem mem_indices_upTo {greedy : Bool} {count further : Nat} (atMost : further ≤ count)
    (isIndex : index ≤ text.length) (repeats : Repeats part further index finish groups) :
    finish ∈ indices (upTo ways greedy count index) := by
  induction count generalizing further index groups with
  | zero =>
    obtain rfl := Nat.le_zero.mp atMost
    obtain ⟨rfl, -⟩ := repeats
    exact mem_indices_stay _
  | succ count inductionHypothesis =>
    rw [upTo, mem_indices_orStay, mem_indices_chain]
    cases further with
    | zero => exact .inr repeats.1
    | succ further =>
      obtain ⟨middle, inner, outer, isPart, repeats, -⟩ := repeats
      have isMiddle := complete index isIndex middle inner isPart
      exact .inl ⟨middle, isMiddle, inductionHypothesis (Nat.le_of_succ_le_succ atMost)
        (leadOn.le isIndex isMiddle) repeats⟩

/-- Parts that stay where they are can be left out. -/
theorem reaches_of_repeats {count : Nat} (isIndex : index ≤ text.length)
    (repeats : Repeats part count index finish groups) :
    finish = index ∨ Reaches ways index finish := by
  induction count generalizing index groups with
  | zero => exact .inl repeats.1
  | succ count inductionHypothesis =>
    obtain ⟨middle, inner, outer, isPart, repeats, -⟩ := repeats
    have isMiddle := complete index isIndex middle inner isPart
    have rest := inductionHypothesis (leadOn.le isIndex isMiddle) repeats
    obtain ⟨way, isWay, rfl⟩ := mem_indices.mp isMiddle
    rcases (leadOn index isIndex way isWay).1.eq_or_lt with stays | moves
    · rwa [← stays] at rest
    · exact .inr (Relation.TransGen.head' ⟨moves, isMiddle⟩
        (Relation.reflTransGen_iff_eq_or_transGen.mpr rest))

theorem mem_indices_onceOrMore {greedy : Bool} {further : Nat} (isIndex : index ≤ text.length)
    (repeats : Repeats part (further + 1) index finish groups) :
    finish ∈ indices (onceOrMore text.length ways greedy index) := by
  rw [onceOrMore, mem_indices_onwards leadOn isIndex (Nat.lt_succ_self _)]
  obtain ⟨middle, inner, outer, isPart, repeats, -⟩ := repeats
  have isMiddle := complete index isIndex middle inner isPart
  have rest := reaches_of_repeats leadOn complete (leadOn.le isIndex isMiddle) repeats
  obtain ⟨way, isWay, rfl⟩ := mem_indices.mp isMiddle
  rcases (leadOn index isIndex way isWay).1.eq_or_lt with stays | moves
  · rw [← stays] at rest isMiddle
    exact rest.imp (fun same => ⟨rfl, same, isMiddle⟩) id
  · exact .inr (Relation.TransGen.head' ⟨moves, isMiddle⟩
      (Relation.reflTransGen_iff_eq_or_transGen.mpr rest))

end

/-- Wherever a tree matches to, some way leads. -/
theorem Node.mem_indices_ways :
    ∀ {node : Node}, ∀ index ≤ text.length, ∀ finish groups,
      node.Matches text index finish groups → finish ∈ indices (node.ways text index)
  | .nothing, index, _, finish, groups, isMatch => by
    obtain ⟨rfl, -⟩ := isMatch
    exact mem_indices_stay _
  | .one set, index, _, finish, groups, isMatch => by
    obtain ⟨isNext, rfl, -⟩ := isMatch
    exact mem_indices.mpr ⟨_, mem_overChar.mpr ⟨isNext, rfl⟩, rfl⟩
  | .look check, index, _, finish, groups, isMatch => by
    obtain ⟨holds, rfl, -⟩ := isMatch
    exact mem_indices.mpr ⟨_, mem_pastCheck.mpr ⟨holds, rfl⟩, rfl⟩
  | .both first second, index, isIndex, finish, groups, isMatch => by
    obtain ⟨middle, inner, outer, isFirst, isSecond, -⟩ := isMatch
    have isMiddle := mem_indices_ways index isIndex middle inner isFirst
    have inText := (first.leads text).leadOn.le isIndex isMiddle
    exact mem_indices_chain.mpr
      ⟨middle, isMiddle, mem_indices_ways middle inText finish outer isSecond⟩
  | .either first second, index, isIndex, finish, groups, isMatch => by
    rw [ways, indices_append, Finset.mem_union]
    exact isMatch.imp (mem_indices_ways index isIndex finish groups)
      (mem_indices_ways index isIndex finish groups)
  | .group number inner, index, isIndex, finish, groups, isMatch => by
    obtain ⟨passed, isMatch, -⟩ := isMatch
    have leads := mem_indices_ways index isIndex finish passed isMatch
    obtain ⟨way, isWay, rfl⟩ := mem_indices.mp leads
    exact mem_indices.mpr ⟨_, List.mem_map.mpr ⟨way, isWay, rfl⟩, rfl⟩
  | .repeated 0 none greedy inner, index, isIndex, finish, groups, isMatch => by
    have leadOn := (inner.leads text).leadOn
    have complete := fun index isIndex => inner.mem_indices_ways index isIndex
    obtain ⟨count, -, -, repeats⟩ := isMatch
    rw [ways, mem_indices_orStay]
    cases count with
    | zero => exact .inr repeats.1
    | succ further => exact .inl (mem_indices_onceOrMore leadOn complete isIndex repeats)
  | .repeated (least + 1) none greedy inner, index, isIndex, finish, groups, isMatch => by
    have leadOn := (inner.leads text).leadOn
    have complete := fun index isIndex => inner.mem_indices_ways index isIndex
    obtain ⟨count, atLeast, -, repeats⟩ := isMatch
    obtain ⟨further, rfl⟩ := Nat.exists_eq_add_of_le atLeast
    rw [Nat.add_assoc, Nat.add_comm 1] at repeats
    obtain ⟨middle, first, rest, here, there, -⟩ := repeats.split
    have isMiddle := mem_indices_times leadOn complete isIndex here
    have inText := ((inner.leads text).times least).leadOn.le isIndex isMiddle
    exact mem_indices_chain.mpr
      ⟨middle, isMiddle, mem_indices_onceOrMore leadOn complete inText there⟩
  | .repeated least (some most) greedy inner, index, isIndex, finish, groups, isMatch => by
    have leadOn := (inner.leads text).leadOn
    have complete := fun index isIndex => inner.mem_indices_ways index isIndex
    obtain ⟨count, atLeast, atMost, repeats⟩ := isMatch
    have atMost := atMost most rfl
    obtain ⟨further, rfl⟩ := Nat.exists_eq_add_of_le atLeast
    obtain ⟨middle, first, rest, here, there, -⟩ := repeats.split
    have isMiddle := mem_indices_times leadOn complete isIndex here
    have inText := ((inner.leads text).times least).leadOn.le isIndex isMiddle
    have isChain : finish ∈ indices (chain (times (inner.ways text) least)
        (upTo (inner.ways text) greedy (most - least)) index) :=
      mem_indices_chain.mpr
        ⟨middle, isMiddle, mem_indices_upTo leadOn complete (by omega) inText there⟩
    cases least <;> exact isChain

/-! ### What lies within a match -/

/-- The parts are in order, and between two indices that are in order, too. -/
def Within (start finish : Nat) (groups : List (Nat × Nat × Nat)) : Prop :=
  start ≤ finish ∧ ∀ group ∈ groups,
    start ≤ group.2.1 ∧ group.2.1 ≤ group.2.2 ∧ group.2.2 ≤ finish

theorem within_nil (index : Nat) : Within index index [] :=
  ⟨Nat.le_refl _, List.forall_mem_nil _⟩

theorem Within.append {start middle finish : Nat} {inner outer : List (Nat × Nat × Nat)}
    (within : Within start middle inner) (withinNext : Within middle finish outer) :
    Within start finish (outer ++ inner) := by
  refine ⟨within.1.trans withinNext.1, List.forall_mem_append.mpr ⟨?_, ?_⟩⟩
  · intro group isGroup
    obtain ⟨low, ordered, high⟩ := withinNext.2 group isGroup
    exact ⟨within.1.trans low, ordered, high⟩
  · intro group isGroup
    obtain ⟨low, ordered, high⟩ := within.2 group isGroup
    exact ⟨low, ordered, high.trans withinNext.1⟩

theorem Repeats.within {part : Nat → Nat → List (Nat × Nat × Nat) → Prop}
    (partWithin : ∀ start finish groups, part start finish groups → Within start finish groups)
    {count start finish : Nat} {groups : List (Nat × Nat × Nat)}
    (repeats : Repeats part count start finish groups) : Within start finish groups := by
  induction count generalizing start groups with
  | zero =>
    obtain ⟨rfl, rfl⟩ := repeats
    exact within_nil _
  | succ count inductionHypothesis =>
    obtain ⟨middle, inner, outer, isPart, repeats, rfl⟩ := repeats
    exact (partWithin _ _ _ isPart).append (inductionHypothesis repeats)

/-- What the groups enclose lies within the match. -/
theorem Node.matches_within :
    ∀ {node : Node}, ∀ start finish groups, node.Matches text start finish groups →
      Within start finish groups
  | .nothing, start, finish, groups, isMatch => by
    obtain ⟨rfl, rfl⟩ := isMatch
    exact within_nil _
  | .one set, start, finish, groups, isMatch => by
    obtain ⟨-, rfl, rfl⟩ := isMatch
    exact ⟨Nat.le_succ _, List.forall_mem_nil _⟩
  | .look check, start, finish, groups, isMatch => by
    obtain ⟨-, rfl, rfl⟩ := isMatch
    exact within_nil _
  | .both first second, start, finish, groups, isMatch => by
    obtain ⟨middle, inner, outer, isFirst, isSecond, rfl⟩ := isMatch
    exact (matches_within _ _ _ isFirst).append (matches_within _ _ _ isSecond)
  | .either first second, start, finish, groups, isMatch =>
    isMatch.elim (matches_within start finish groups) (matches_within start finish groups)
  | .group number inner, start, finish, groups, isMatch => by
    obtain ⟨passed, isMatch, rfl⟩ := isMatch
    have within := matches_within _ _ _ isMatch
    exact ⟨within.1, List.forall_mem_cons.mpr
      ⟨⟨Nat.le_refl _, within.1, Nat.le_refl _⟩, within.2⟩⟩
  | .repeated least most greedy inner, start, finish, groups, isMatch => by
    obtain ⟨count, -, -, repeats⟩ := isMatch
    exact repeats.within fun start finish groups => inner.matches_within start finish groups

/-! ### The first match -/

/-- A match of a tree in a text: it starts at the first index at which any match starts, and it is
the preferred one of those that start there. -/
structure IsFirst (text : List Char) (node : Node) (start : Nat) (way : Way) : Prop where
  inText : start ≤ text.length
  leftmost : ∀ index < start, ∀ finish groups, ¬ node.Matches text index finish groups
  preferred : (node.ways text start).head? = some way

theorem Node.ways_eq_nil_iff {node : Node} (wellFormed : node.WellFormed) {index : Nat}
    (isIndex : index ≤ text.length) :
    node.ways text index = [] ↔ ∀ finish groups, ¬ node.Matches text index finish groups := by
  constructor
  · intro noWay finish groups isMatch
    have leads := mem_indices_ways index isIndex finish groups isMatch
    rw [noWay] at leads
    exact Finset.notMem_empty _ leads
  · intro noMatch
    refine List.eq_nil_iff_forall_not_mem.mpr fun way isWay => ?_
    exact noMatch _ _ (matches_of_mem_ways wellFormed index way isWay)

/-- The match that is found from an index on. -/
theorem matchFrom_placeAt {node : Node} {fuel index : Nat} (isIndex : index ≤ text.length)
    (enough : text.length - index < fuel) :
    (∃ start way, start ≤ text.length ∧
        (∀ before, index ≤ before → before < start → node.ways text before = []) ∧
        (node.ways text start).head? = some way ∧
        matchFrom node fuel (placeAt text index []) = some ⟨start, way.place text []⟩) ∨
      (∀ start, index ≤ start → start ≤ text.length → node.ways text start = []) ∧
        matchFrom node fuel (placeAt text index []) = none := by
  induction fuel generalizing index with
  | zero => exact absurd enough (Nat.not_lt_zero _)
  | succ fuel inductionHypothesis =>
    rw [matchFrom, (node.leads text).places index isIndex]
    cases isWays : node.ways text index with
    | cons way rest =>
      refine .inl ⟨index, way, isIndex, fun before low high => ?_, by rw [isWays]; rfl, rfl⟩
      exact absurd high low.not_gt
    | nil =>
      rw [fresh, List.map_nil, next?_placeAt]
      dsimp only
      rcases isIndex.lt_or_eq with inText | rfl
      · rw [List.getElem?_eq_getElem inText, Option.map_some, Option.bind_some]
        rcases inductionHypothesis inText (by omega) with
          ⟨start, way, isStart, noWay, preferred, found⟩ | ⟨noWay, found⟩
        · refine .inl ⟨start, way, isStart, fun before low high => ?_, preferred, found⟩
          rcases low.eq_or_lt with rfl | further
          · exact isWays
          · exact noWay before further high
        · refine .inr ⟨fun start low high => ?_, found⟩
          rcases low.eq_or_lt with rfl | further
          · exact isWays
          · exact noWay start further high
      · rw [List.getElem?_eq_none (Nat.le_refl _)]
        refine .inr ⟨fun start low high => ?_, rfl⟩
        rwa [Nat.le_antisymm high low]

/-- What the first group encloses the last time that it is passed, or nothing if it is not. -/
def firstGroup (text : List Char) (groups : List (Nat × Nat × Nat)) : String :=
  match groups.find? (·.1 == 1) with
  | some (_, start, finish) => slice text start finish
  | none => ""

theorem slice_infix (start finish : Nat) : (slice text start finish).toList <:+: text := by
  rw [slice, String.toList_ofList]
  exact (List.take_prefix _ _).isInfix.trans (List.drop_suffix _ _).isInfix

theorem firstGroup_infix (groups : List (Nat × Nat × Nat)) :
    (firstGroup text groups).toList <:+: text := by
  unfold firstGroup
  split
  · exact slice_infix _ _
  · exact List.nil_infix

/-- What a pattern picks of a match. -/
def Node.picked (node : Node) (text : List Char) (start : Nat) (way : Way) : String :=
  if node.hasGroup then firstGroup text way.groups else slice text start way.finish

theorem picked_infix (node : Node) (start : Nat) (way : Way) :
    (node.picked text start way).toList <:+: text := by
  unfold Node.picked
  split
  · exact firstGroup_infix _
  · exact slice_infix _ _

theorem pick?_of_found {pattern : Pattern} (wellFormed : pattern.node.WellFormed)
    {value : String} {start : Nat} {way : Way}
    (found : matchFrom pattern.node (value.toList.length + 1) (placeAt value.toList 0 []) =
      some ⟨start, way.place value.toList []⟩) :
    pattern.pick? value = some (pattern.node.picked value.toList start way) := by
  have groups : (way.place value.toList []).groups = way.groups := List.append_nil _
  have numbered := Node.lastGroup_eq_zero_iff wellFormed
  unfold pick? Node.picked
  change (matchFrom pattern.node _ (placeAt value.toList 0 [])).bind _ = _
  rw [found, Option.bind_some]
  cases isGroup : pattern.node.hasGroup
  case false =>
    rw [if_pos (beq_iff_eq.mpr (numbered.mpr isGroup)), if_neg Bool.false_ne_true]
    rfl
  case true =>
    have notZero : ¬ (pattern.node.lastGroup == 0) = true := by
      rw [beq_iff_eq, numbered, isGroup]
      exact Bool.noConfusion
    rw [if_neg notZero, if_pos rfl, firstGroup]
    dsimp only
    rw [groups]
    cases way.groups.find? (·.1 == 1) <;> rfl

/-- A pattern picks a part of the first match, if there is a match at all. -/
theorem pick?_eq {pattern : Pattern} (wellFormed : pattern.node.WellFormed) (value : String) :
    (∃ start way, IsFirst value.toList pattern.node start way ∧
        pattern.pick? value = some (pattern.node.picked value.toList start way)) ∨
      (∀ start ≤ value.toList.length, ∀ finish groups,
          ¬ pattern.node.Matches value.toList start finish groups) ∧
        pattern.pick? value = none := by
  have enough : value.toList.length - 0 < value.toList.length + 1 := Nat.lt_succ_self _
  rcases matchFrom_placeAt (Nat.zero_le value.toList.length) enough with
    ⟨start, way, inText, noWay, preferred, found⟩ | ⟨noWay, found⟩
  · refine .inl ⟨start, way, ⟨inText, fun index before => ?_, preferred⟩,
      pick?_of_found wellFormed found⟩
    have isIndex : index ≤ value.toList.length := (before.trans_le inText).le
    exact (Node.ways_eq_nil_iff wellFormed isIndex).mp (noWay index (Nat.zero_le _) before)
  · refine .inr ⟨fun start inText => ?_, ?_⟩
    · exact (Node.ways_eq_nil_iff wellFormed inText).mp (noWay start (Nat.zero_le _) inText)
    · change (matchFrom pattern.node _ (placeAt value.toList 0 [])).bind _ = _
      rw [found]
      rfl

end Metasearch.Pattern

namespace Metasearch.Filter

open Pattern

theorem read?_of_accepted {source : String} {pattern : Pattern}
    (accepted : ofName "regexp" (.text source) = .ok (.regexp pattern)) :
    Pattern.read? source = some pattern := by
  cases reads : Pattern.read? source with
  | none => simp [ofName, reads] at accepted
  | some found =>
    simp only [ofName, reads, Except.ok.injEq, Filter.regexp.injEq] at accepted
    rw [accepted]

theorem apply_regexp (context : Context) (pattern : Pattern) (value : String) :
    apply context (.regexp pattern) value =
      match pattern.pick? value with
      | some part => .ok part
      | none => .error (.noMatch pattern.text) :=
  rfl

/-- What a pattern picks out of a text is decided by the first match. -/
theorem apply_regexp_decided {source : String} {pattern : Pattern}
    (accepted : ofName "regexp" (.text source) = .ok (.regexp pattern)) (context : Context)
    (value : String) :
    ((∀ start ≤ value.toList.length, ∀ finish groups,
        ¬ pattern.node.Matches value.toList start finish groups) →
      apply context (.regexp pattern) value = .error (.noMatch source)) ∧
    ∀ start ≤ value.toList.length, ∀ finish groups,
      pattern.node.Matches value.toList start finish groups →
      ∃ result first way, apply context (.regexp pattern) value = .ok result ∧
        result.toList <:+: value.toList ∧
        IsFirst value.toList pattern.node first way ∧ first ≤ start ∧
        pattern.node.Matches value.toList first way.finish way.groups ∧
        Within first way.finish way.groups ∧ way.finish ≤ value.toList.length ∧
        (pattern.node.mentionsGroup = false → result = slice value.toList first way.finish) ∧
        (pattern.node.hasGroup = true → result = firstGroup value.toList way.groups) ∧
        (pattern.node.mentionsGroup = true → pattern.node.hasGroup = false →
          result = slice value.toList first way.finish) := by
  obtain ⟨rfl, wellFormed⟩ := wellFormed_read (read?_of_accepted accepted)
  rw [apply_regexp]
  rcases pick?_eq wellFormed value with ⟨first, way, isFirst, picks⟩ | ⟨noMatch, picks⟩
  · have isWhole (noGroup : pattern.node.hasGroup = false) :
        pattern.node.picked value.toList first way = slice value.toList first way.finish := by
      rw [Node.picked, noGroup, if_neg Bool.false_ne_true]
    have isWay := List.mem_of_head? isFirst.preferred
    have isMatch := Node.matches_of_mem_ways wellFormed first way isWay
    rw [picks]
    refine ⟨fun noMatch => absurd isMatch (noMatch first isFirst.inText _ _), ?_⟩
    intro start _ finish groups other
    refine ⟨_, first, way, rfl, picked_infix _ _ _, isFirst, ?_, isMatch,
      Node.matches_within _ _ _ isMatch, ?_, ?_, ?_, fun _ => isWhole⟩
    · exact not_lt.mp fun before => isFirst.leftmost start before finish groups other
    · exact ((pattern.node.leads value.toList).leadOn first isFirst.inText way isWay).2
    · intro noGroup
      exact isWhole (Bool.eq_false_iff.mpr fun isGroup =>
        Bool.false_ne_true (noGroup.symm.trans (Node.mentionsGroup_of_hasGroup isGroup)))
    · intro isGroup
      rw [Node.picked, if_pos isGroup]
  · rw [picks]
    exact ⟨fun _ => rfl, fun start inText finish groups isMatch =>
      absurd isMatch (noMatch start inText finish groups)⟩

/-- What `([0-9]+)b` reads as. -/
def digitsPattern : Pattern :=
  let digit : CharSet := ⟨[⟨[(48, 57)], false⟩], false, false⟩
  ⟨"([0-9]+)b", .both (.group 1 (.repeated 1 none true (.one digit)))
    (.one (CharSet.single false 'b'))⟩

theorem apply_regexp_decided_digitsPattern :
    ofName "regexp" (.text "([0-9]+)b") = .ok (.regexp digitsPattern) ∧
      digitsPattern.node.Matches "a12b".toList 2 4 [(1, 2, 3)] ∧
      ∃ first way, IsFirst "a12b".toList digitsPattern.node first way ∧ first ≤ 2 ∧
        "12" = firstGroup "a12b".toList way.groups := by
  have accepted : ofName "regexp" (.text "([0-9]+)b") = .ok (.regexp digitsPattern) := by cbv
  have wellFormed := (wellFormed_read (read?_of_accepted accepted)).2
  have isMatch : digitsPattern.node.Matches "a12b".toList 2 4 [(1, 2, 3)] :=
    Node.matches_of_mem_ways wellFormed 2 ⟨4, [(1, 2, 3)]⟩ (by decide)
  have picks : apply ⟨.empty, ⟨0, 0⟩⟩ (.regexp digitsPattern) "a12b" = .ok "12" := by cbv
  obtain ⟨result, first, way, picked, -, isFirst, before, -, -, -, -, group, -⟩ :=
    (apply_regexp_decided accepted ⟨.empty, ⟨0, 0⟩⟩ "a12b").2 2 (by decide) 4 _ isMatch
  obtain rfl := Except.ok.inj (picks.symm.trans picked)
  exact ⟨accepted, isMatch, first, way, isFirst, before, group rfl⟩

/-- What `(a){0}b` reads as. -/
def unenteredPattern : Pattern :=
  ⟨"(a)\x7b0\x7db", .both (.repeated 0 (some 0) true (.group 1 (.one (CharSet.single false 'a'))))
    (.one (CharSet.single false 'b'))⟩

/-- A pattern with a group may pick all that it matches, although the match did not pass the group:
the group is in a thing repeated no times. -/
theorem apply_regexp_unenteredPattern :
    ofName "regexp" (.text "(a)\x7b0\x7db") = .ok (.regexp unenteredPattern) ∧
      unenteredPattern.node.mentionsGroup = true ∧
      IsFirst "b".toList unenteredPattern.node 0 ⟨1, []⟩ ∧ firstGroup "b".toList [] = "" ∧
      apply ⟨.empty, ⟨0, 0⟩⟩ (.regexp unenteredPattern) "b" = .ok "b" :=
  ⟨rfl, rfl, ⟨by decide, fun _ before => absurd before (Nat.not_lt_zero _), by decide⟩, rfl,
    by cbv⟩

end Metasearch.Filter
