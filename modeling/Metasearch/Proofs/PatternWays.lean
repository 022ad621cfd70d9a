/-
The ways in which a pattern matches from an index of a text on, in order of preference and with
none left out: a thing is gone through in its first branch before its second, and once more before
not at all (or the other way round if it is lazy). Of a repetition that has no end, only the first
step may lead nowhere, since another one would lead to nothing new.

A pattern is matched differently. Places are reached once, and a repetition does not follow a step
to a place where it was before, even if it came there in quite another way. This file shows that
only such ways are lost as lead to an index to which a preferred one leads as well.
-/
import Mathlib.Data.Finset.Lattice.Lemmas
import Mathlib.Logic.Relation
import Metasearch.Pattern.Match

namespace Metasearch.Pattern

/-! ### Ways -/

/-- A way through a pattern: the index it leads to, and what the groups passed on it enclose, as
their numbers, starts and ends, last first. -/
structure Way where
  finish : Nat
  groups : List (Nat × Nat × Nat)
  deriving DecidableEq, Repr

/-- The way that stays where it is. -/
def Way.stay (index : Nat) : Way :=
  ⟨index, []⟩

/-- A way, with another one in front of it. -/
def Way.behind (first second : Way) : Way :=
  ⟨second.finish, second.groups ++ first.groups⟩

/-- A way through what is inside a group that starts at an index. -/
def Way.inGroup (number start : Nat) (way : Way) : Way :=
  ⟨way.finish, (number, start, way.finish) :: way.groups⟩

/-- The ways through one thing and then another. -/
def chain (first second : Nat → List Way) (index : Nat) : List Way :=
  (first index).flatMap fun way => (second way.finish).map way.behind

/-- The ways through exactly so many steps. -/
def times (ways : Nat → List Way) : Nat → Nat → List Way
  | 0 => fun index => [.stay index]
  | count + 1 => chain ways (times ways count)

/-- The ways on, and the one that stays: behind them for greedy repetitions, else before them. -/
def orStay (greedy : Bool) (further : Nat → List Way) (index : Nat) : List Way :=
  if greedy then further index ++ [.stay index] else .stay index :: further index

/-- The ways through up to so many steps. -/
def upTo (ways : Nat → List Way) (greedy : Bool) : Nat → Nat → List Way
  | 0 => fun index => [.stay index]
  | count + 1 => orStay greedy (chain ways (upTo ways greedy count))

/-- A step, and what may follow it. A step that stays where it is can only be the first, and
nothing follows it. -/
def goOn (further : Nat → List Way) (greedy isFirst : Bool) (index : Nat) (way : Way) :
    List Way :=
  if way.finish = index then if isFirst then [way] else []
  else
    let more := (further way.finish).map way.behind
    if greedy then more ++ [way] else way :: more

/-- The ways through one step or more, of which only the first may stay where it is. -/
def onwards (ways : Nat → List Way) (greedy : Bool) : Nat → Bool → Nat → List Way
  | 0, _, _ => []
  | fuel + 1, isFirst, index =>
    (ways index).flatMap (goOn (onwards ways greedy fuel false) greedy isFirst index)

/-- The ways through one step or more in a text of some length: no more steps than the text has
characters left lead anywhere new. -/
def onceOrMore (length : Nat) (ways : Nat → List Way) (greedy : Bool) (index : Nat) : List Way :=
  onwards ways greedy (length - index + 1) true index

/-- The character before an index. -/
def charBefore? (text : List Char) : Nat → Option Char
  | 0 => none
  | index + 1 => text[index]?

/-- The way over one character of a set, if such a character is next. -/
def overChar (text : List Char) (set : CharSet) (index : Nat) : List Way :=
  if text[index]?.any set.contains then [.stay (index + 1)] else []

/-- The way past a check, if it holds. -/
def pastCheck (text : List Char) (check : Check) (index : Nat) : List Way :=
  if check.holds (charBefore? text index) text[index]? then [.stay index] else []

/-- The ways in which a tree matches from an index of a text on, the preferred first. -/
def Node.ways (text : List Char) : Node → Nat → List Way
  | .nothing => fun index => [.stay index]
  | .one set => overChar text set
  | .look check => pastCheck text check
  | .both first second => chain (first.ways text) (second.ways text)
  | .either first second => fun index => first.ways text index ++ second.ways text index
  | .group number inner => fun index =>
    (inner.ways text index).map (Way.inGroup number index)
  | .repeated 0 none greedy inner =>
    orStay greedy (onceOrMore text.length (inner.ways text) greedy)
  | .repeated (least + 1) none greedy inner =>
    chain (times (inner.ways text) least) (onceOrMore text.length (inner.ways text) greedy)
  | .repeated least (some most) greedy inner =>
    chain (times (inner.ways text) least) (upTo (inner.ways text) greedy (most - least))

/-! ### The first way to each index -/

/-- The indices that ways lead to. -/
def indices (ways : List Way) : Finset Nat :=
  (ways.map Way.finish).toFinset

/-- The ways without those that lead to an index to which one before led. -/
def fresh : Finset Nat → List Way → List Way
  | _, [] => []
  | seen, way :: rest =>
    if way.finish ∈ seen then fresh seen rest
    else way :: fresh (insert way.finish seen) rest

variable {ways others : List Way} {seen : Finset Nat}

@[simp] theorem indices_nil : indices [] = ∅ := rfl

@[simp] theorem indices_cons (way : Way) (rest : List Way) :
    indices (way :: rest) = insert way.finish (indices rest) :=
  List.toFinset_cons

@[simp] theorem indices_append (first second : List Way) :
    indices (first ++ second) = indices first ∪ indices second := by
  rw [indices, List.map_append, List.toFinset_append]
  rfl

@[simp] theorem indices_map_behind (way : Way) : indices (ways.map way.behind) = indices ways := by
  rw [indices, List.map_map]
  rfl

theorem mem_indices {index : Nat} : index ∈ indices ways ↔ ∃ way ∈ ways, way.finish = index := by
  rw [indices, List.mem_toFinset, List.mem_map]

theorem mem_indices_flatMap {further : Way → List Way} {index : Nat} :
    index ∈ indices (ways.flatMap further) ↔ ∃ way ∈ ways, index ∈ indices (further way) := by
  simp only [mem_indices, List.mem_flatMap]
  constructor
  · rintro ⟨next, ⟨way, isWay, isNext⟩, leads⟩
    exact ⟨way, isWay, next, isNext, leads⟩
  · rintro ⟨way, isWay, next, isNext, leads⟩
    exact ⟨next, ⟨way, isWay, isNext⟩, leads⟩

theorem fresh_append (first second : List Way) :
    fresh seen (first ++ second) = fresh seen first ++ fresh (seen ∪ indices first) second := by
  induction first generalizing seen with
  | nil => rw [List.nil_append, indices_nil, Finset.union_empty, fresh, List.nil_append]
  | cons way rest inductionHypothesis =>
    rw [List.cons_append, fresh, fresh, indices_cons, Finset.union_insert]
    split
    case isTrue known =>
      rw [inductionHypothesis, Finset.insert_eq_of_mem (Finset.mem_union_left _ known)]
    case isFalse new =>
      rw [inductionHypothesis, List.cons_append, Finset.insert_union]

theorem fresh_eq_nil (known : indices ways ⊆ seen) : fresh seen ways = [] := by
  induction ways with
  | nil => rfl
  | cons way rest inductionHypothesis =>
    obtain ⟨here, later⟩ := Finset.insert_subset_iff.mp (indices_cons way rest ▸ known)
    rw [fresh, if_pos here, inductionHypothesis later]

theorem union_indices_fresh : seen ∪ indices (fresh seen ways) = seen ∪ indices ways := by
  induction ways generalizing seen with
  | nil => rfl
  | cons way rest inductionHypothesis =>
    rw [fresh, indices_cons, Finset.union_insert]
    split
    case isTrue known =>
      rw [inductionHypothesis, Finset.insert_eq_of_mem (Finset.mem_union_left _ known)]
    case isFalse new =>
      rw [indices_cons, Finset.union_insert, ← Finset.insert_union, inductionHypothesis,
        Finset.insert_union]

theorem fresh_fresh {fewer : Finset Nat} (isSubset : fewer ⊆ seen) :
    fresh seen (fresh fewer ways) = fresh seen ways := by
  induction ways generalizing seen fewer with
  | nil => rfl
  | cons way rest inductionHypothesis =>
    by_cases known : way.finish ∈ fewer
    · rw [fresh, if_pos known, inductionHypothesis isSubset, fresh, if_pos (isSubset known)]
    · rw [fresh, if_neg known, fresh, fresh]
      split
      case isTrue old => exact inductionHypothesis (Finset.insert_subset old isSubset)
      case isFalse new => rw [inductionHypothesis (Finset.insert_subset_insert _ isSubset)]

theorem fresh_insert {index : Nat} (isElsewhere : index ∉ indices ways) :
    fresh (insert index seen) ways = fresh seen ways := by
  induction ways generalizing seen with
  | nil => rfl
  | cons way rest inductionHypothesis =>
    rw [indices_cons, Finset.mem_insert, not_or] at isElsewhere
    obtain ⟨notHere, notLater⟩ := isElsewhere
    have same : way.finish ∈ insert index seen ↔ way.finish ∈ seen := by
      rw [Finset.mem_insert, or_iff_right (Ne.symm notHere)]
    rw [fresh, fresh, inductionHypothesis notLater, Finset.insert_comm,
      inductionHypothesis notLater]
    by_cases old : way.finish ∈ seen
    · rw [if_pos old, if_pos (same.mpr old)]
    · rw [if_neg old, if_neg (mt same.mp old)]

theorem fresh_subset : fresh seen ways ⊆ ways := by
  induction ways generalizing seen with
  | nil => exact List.Subset.refl _
  | cons way rest inductionHypothesis =>
    rw [fresh]
    split
    · exact List.subset_cons_of_subset _ inductionHypothesis
    · exact List.cons_subset_cons _ inductionHypothesis

theorem fresh_map {change : Way → Way} (keeps : ∀ way, (change way).finish = way.finish) :
    fresh seen (ways.map change) = (fresh seen ways).map change := by
  induction ways generalizing seen with
  | nil => rfl
  | cons way rest inductionHypothesis =>
    rw [List.map_cons, fresh, fresh, keeps, inductionHypothesis, inductionHypothesis]
    split <;> rfl

/-! ### Ways that agree in what is preferred -/

/-- Whatever was seen before, the first ways to what was not seen are the same. -/
def Agree (ways others : List Way) : Prop :=
  ∀ seen, fresh seen ways = fresh seen others

theorem Agree.refl (ways : List Way) : Agree ways ways :=
  fun _ => rfl

theorem agree_fresh (ways : List Way) : Agree (fresh ∅ ways) ways :=
  fun _ => fresh_fresh (Finset.empty_subset _)

theorem Agree.indices_eq (agree : Agree ways others) : indices ways = indices others := by
  have both : ∅ ∪ indices ways = ∅ ∪ indices others := by
    rw [← union_indices_fresh, agree, union_indices_fresh]
  rwa [Finset.empty_union, Finset.empty_union] at both

theorem Agree.append {first second : List Way} (agree : Agree ways others)
    (agreeNext : Agree first second) : Agree (ways ++ first) (others ++ second) := by
  intro seen
  rw [fresh_append, fresh_append, agree, agree.indices_eq, agreeNext]

theorem Agree.cons (way : Way) (agree : Agree ways others) :
    Agree (way :: ways) (way :: others) :=
  (Agree.refl [way]).append agree

theorem Agree.map {change : Way → Way} (keeps : ∀ way, (change way).finish = way.finish)
    (agree : Agree ways others) : Agree (ways.map change) (others.map change) := by
  intro seen
  rw [fresh_map keeps, fresh_map keeps, agree]

theorem Agree.flatMap {further next : Way → List Way}
    (agree : ∀ way ∈ ways, Agree (further way) (next way)) :
    Agree (ways.flatMap further) (ways.flatMap next) := by
  induction ways with
  | nil => exact .refl _
  | cons way rest inductionHypothesis =>
    obtain ⟨here, later⟩ := List.forall_mem_cons.mp agree
    rw [List.flatMap_cons, List.flatMap_cons]
    exact here.append (inductionHypothesis later)

/-- If what follows a way leads to indices that depend on where it leads only, the first way to each
index is enough to go on with. -/
theorem agree_flatMap_fresh {further : Way → List Way}
    (same : ∀ way other, way.finish = other.finish →
      indices (further way) = indices (further other)) :
    Agree ((fresh ∅ ways).flatMap further) (ways.flatMap further) := by
  suffices general : ∀ known seen, (∀ way, way.finish ∈ known → indices (further way) ⊆ seen) →
      fresh seen ((fresh known ways).flatMap further) = fresh seen (ways.flatMap further) from
    fun seen => general ∅ seen fun _ isMember => absurd isMember (Finset.notMem_empty _)
  induction ways with
  | nil => exact fun _ _ _ => rfl
  | cons way rest inductionHypothesis =>
    intro known seen followed
    rw [List.flatMap_cons, fresh_append]
    by_cases old : way.finish ∈ known
    · rw [fresh, if_pos old, inductionHypothesis known seen followed,
        fresh_eq_nil (followed way old), List.nil_append,
        Finset.union_eq_left.mpr (followed way old)]
    · rw [fresh, if_neg old, List.flatMap_cons, fresh_append]
      congr 1
      refine inductionHypothesis _ _ fun other isMember => ?_
      rcases Finset.mem_insert.mp isMember with isSame | before
      · exact same other way isSame ▸ Finset.subset_union_right
      · exact (followed other before).trans Finset.subset_union_left

/-- Of two things one behind the other, the first way to each index is enough to go on with, and
then again. -/
theorem agree_chain (first second : Nat → List Way) (index : Nat) :
    Agree (chain (fun index => fresh ∅ (first index)) (fun index => fresh ∅ (second index)) index)
      (chain first second index) := by
  intro seen
  have once : Agree _ (chain first second index) := agree_flatMap_fresh fun way other same => by
    rw [indices_map_behind, indices_map_behind, same]
  rw [← once]
  refine Agree.flatMap (fun way _ => ?_) seen
  exact Agree.map (fun _ => rfl) (agree_fresh _)

/-! ### Places -/

/-- The place at an index of a text. -/
def placeAt (text : List Char) (index : Nat) (groups : List (Nat × Nat × Nat)) : Place :=
  ⟨index, (text.take index).reverse, text.drop index, groups⟩

/-- The place that a way leads to, if some groups were passed before it. -/
def Way.place (text : List Char) (groups : List (Nat × Nat × Nat)) (way : Way) : Place :=
  placeAt text way.finish (way.groups ++ groups)

/-- The bits of a number are the members of a set. -/
def HasBits (bits : Nat) (set : Finset Nat) : Prop :=
  ∀ index, bits.testBit index = decide (index ∈ set)

theorem hasBits_zero : HasBits 0 ∅ :=
  fun index => by rw [Nat.zero_testBit, decide_eq_false (Finset.notMem_empty index)]

theorem HasBits.insert {bits : Nat} {set : Finset Nat} (same : HasBits bits set) (index : Nat) :
    HasBits (bits ||| Number.twoTo index) (insert index set) := by
  intro other
  rw [Nat.testBit_or, same, Number.twoTo, Nat.pow_eq, Nat.testBit_two_pow]
  by_cases equal : index = other <;> simp [equal, eq_comm]

variable {text : List Char}

theorem withoutSeen_map {bits : Nat} (same : HasBits bits seen)
    (groups : List (Nat × Nat × Nat)) :
    withoutSeen bits (ways.map (Way.place text groups)) =
      (fresh seen ways).map (Way.place text groups) := by
  induction ways generalizing bits seen with
  | nil => rfl
  | cons way rest inductionHypothesis =>
    have known : bits.testBit (way.place text groups).index = decide (way.finish ∈ seen) :=
      same way.finish
    have later := inductionHypothesis (same.insert way.finish)
    rw [List.map_cons, withoutSeen, fresh, known, inductionHypothesis same]
    by_cases old : way.finish ∈ seen
    · rw [if_pos old, decide_eq_true old, if_pos rfl]
    · rw [if_neg old, decide_eq_false old, if_neg Bool.false_ne_true, List.map_cons, ← later]
      rfl

theorem distinct_eq (places : List Place) : distinct places = withoutSeen 0 places := by
  unfold distinct
  split
  · rfl
  · rw [withoutSeen, Nat.zero_testBit]
    rfl
  · rfl

theorem distinct_map (groups : List (Nat × Nat × Nat)) :
    distinct (ways.map (Way.place text groups)) =
      (fresh ∅ ways).map (Way.place text groups) := by
  rw [distinct_eq, withoutSeen_map hasBits_zero]

/-- Ways lead on in a text. -/
def LeadOn (text : List Char) (ways : Nat → List Way) : Prop :=
  ∀ index ≤ text.length, ∀ way ∈ ways index, index ≤ way.finish ∧ way.finish ≤ text.length

theorem LeadOn.le {ways : Nat → List Way} (leadOn : LeadOn text ways) {index finish : Nat}
    (isIndex : index ≤ text.length) (leads : finish ∈ indices (ways index)) :
    finish ≤ text.length := by
  obtain ⟨way, isWay, rfl⟩ := mem_indices.mp leads
  exact (leadOn index isIndex way isWay).2

theorem leadOn_stay : LeadOn text fun index => [.stay index] := by
  intro index isIndex way isWay
  obtain rfl := List.mem_singleton.mp isWay
  exact ⟨Nat.le_refl _, isIndex⟩

theorem LeadOn.chain {first second : Nat → List Way} (leadOn : LeadOn text first)
    (leadOnNext : LeadOn text second) : LeadOn text (chain first second) := by
  intro index isIndex way isWay
  obtain ⟨before, isBefore, isBehind⟩ := List.mem_flatMap.mp isWay
  obtain ⟨behind, isNext, rfl⟩ := List.mem_map.mp isBehind
  have here := leadOn index isIndex before isBefore
  have next := leadOnNext before.finish here.2 behind isNext
  exact ⟨here.1.trans next.1, next.2⟩

theorem LeadOn.append {first second : Nat → List Way} (leadOn : LeadOn text first)
    (leadOnNext : LeadOn text second) : LeadOn text fun index => first index ++ second index :=
  fun index isIndex => List.forall_mem_append.mpr
    ⟨leadOn index isIndex, leadOnNext index isIndex⟩

/-- A step from place to place takes the first of some ways to each index, and these ways lead on
in the text. -/
structure Leads (text : List Char) (step : Place → List Place) (ways : Nat → List Way) :
    Prop where
  places : ∀ index ≤ text.length, ∀ groups,
    step (placeAt text index groups) = (fresh ∅ (ways index)).map (Way.place text groups)
  leadOn : LeadOn text ways

section

variable {first second : Place → List Place} {firstWays secondWays : Nat → List Way}

theorem leads_stay : Leads text (fun place => [place]) fun index => [.stay index] where
  places _ _ _ := rfl
  leadOn := leadOn_stay

/-- Two steps one behind the other, before each place is kept once only. -/
theorem Leads.flatMap (leads : Leads text first firstWays)
    (leadsNext : Leads text second secondWays) {index : Nat} (isIndex : index ≤ text.length)
    (groups : List (Nat × Nat × Nat)) :
    (first (placeAt text index groups)).flatMap second =
      (chain (fun index => fresh ∅ (firstWays index)) (fun index => fresh ∅ (secondWays index))
        index).map (Way.place text groups) := by
  rw [leads.places index isIndex, chain, List.map_flatMap, List.flatMap_map]
  refine List.flatMap_congr fun way isWay => ?_
  have inText := (leads.leadOn index isIndex way (fresh_subset isWay)).2
  rw [Way.place, leadsNext.places way.finish inText, List.map_map]
  refine List.map_congr_left fun next _ => ?_
  rw [Function.comp_apply, Way.place, Way.place, Way.behind, List.append_assoc]

theorem Leads.chain (leads : Leads text first firstWays)
    (leadsNext : Leads text second secondWays) :
    Leads text (fun place => distinct ((first place).flatMap second))
      (chain firstWays secondWays) where
  places index isIndex groups := by
    rw [leads.flatMap leadsNext isIndex, distinct_map, agree_chain]
  leadOn := leads.leadOn.chain leadsNext.leadOn

theorem Leads.append (leads : Leads text first firstWays)
    (leadsNext : Leads text second secondWays) :
    Leads text (fun place => distinct (first place ++ second place))
      fun index => firstWays index ++ secondWays index where
  places index isIndex groups := by
    rw [leads.places index isIndex, leadsNext.places index isIndex, ← List.map_append,
      distinct_map, (agree_fresh _).append (agree_fresh _)]
  leadOn := leads.leadOn.append leadsNext.leadOn

theorem Leads.group (leads : Leads text first firstWays) (number : Nat) :
    Leads text
      (fun place => (first place).map fun next =>
        { next with groups := (number, place.index, next.index) :: next.groups })
      fun index => (firstWays index).map (Way.inGroup number index) where
  places index isIndex groups := by
    have keeps : ∀ way : Way, (way.inGroup number index).finish = way.finish := fun _ => rfl
    rw [leads.places index isIndex, fresh_map keeps, List.map_map, List.map_map]
    rfl
  leadOn index isIndex := List.forall_mem_map.mpr (leads.leadOn index isIndex)

end

/-! ### Repetition -/

section

variable {step : Place → List Place} {stepWays : Nat → List Way}

theorem Leads.times (leads : Leads text step stepWays) (count : Nat) :
    Leads text (exactly step count) (times stepWays count) := by
  induction count with
  | zero => exact leads_stay
  | succ count inductionHypothesis => exact leads.chain inductionHypothesis

theorem LeadOn.orStay {further : Nat → List Way} (leadOn : LeadOn text further) (greedy : Bool) :
    LeadOn text (orStay greedy further) := by
  cases greedy
  case false => exact leadOn_stay.append leadOn
  case true => exact leadOn.append leadOn_stay

/-- Going on or stopping, whichever is preferred; where it goes on, some places may still come more
than once. -/
theorem leads_orStay {further : Place → List Place} {rawWays furtherWays : Nat → List Way}
    (places : ∀ index ≤ text.length, ∀ groups,
      further (placeAt text index groups) = (rawWays index).map (Way.place text groups))
    (agree : ∀ index, Agree (rawWays index) (furtherWays index))
    (leadOn : LeadOn text furtherWays) (greedy : Bool) :
    Leads text
      (fun place => distinct (if greedy then further place ++ [place] else place :: further place))
      (orStay greedy furtherWays) where
  places index isIndex groups := by
    have stay : placeAt text index groups = (Way.stay index).place text groups := rfl
    rw [places index isIndex, orStay]
    cases greedy
    case false =>
      rw [if_neg Bool.false_ne_true, if_neg Bool.false_ne_true, stay, ← List.map_cons,
        distinct_map, (agree index).cons]
    case true =>
      rw [if_pos rfl, if_pos rfl, stay, ← List.map_singleton, ← List.map_append, distinct_map,
        (agree index).append (.refl _)]
  leadOn := leadOn.orStay greedy

theorem Leads.upTo (leads : Leads text step stepWays) (greedy : Bool) (count : Nat) :
    Leads text (atMost step greedy count) (upTo stepWays greedy count) := by
  induction count with
  | zero => exact leads_stay
  | succ count inductionHypothesis =>
    exact leads_orStay (fun index isIndex => leads.flatMap inductionHypothesis isIndex)
      (agree_chain _ _) (leads.leadOn.chain inductionHypothesis.leadOn) greedy

/-- Some steps lead from one index to another, each of them further on. -/
def Reaches (ways : Nat → List Way) : Nat → Nat → Prop :=
  Relation.TransGen fun start finish => start < finish ∧ finish ∈ indices (ways start)

theorem mem_indices_goOn {further : Nat → List Way} {greedy isFirst : Bool} {index : Nat}
    {way : Way} {finish : Nat} :
    finish ∈ indices (goOn further greedy isFirst index way) ↔
      if way.finish = index then isFirst = true ∧ finish = index
      else finish = way.finish ∨ finish ∈ indices (further way.finish) := by
  unfold goOn
  split
  case isTrue stays => cases isFirst <;> simp [stays]
  case isFalse => cases greedy <;> simp

theorem Reaches.lt {start finish : Nat} (reaches : Reaches stepWays start finish) :
    start < finish := by
  induction reaches with
  | single step => exact step.1
  | tail _ step inductionHypothesis => exact inductionHypothesis.trans step.1

theorem Reaches.le {start finish : Nat} (reaches : Reaches stepWays start finish)
    (leadOn : LeadOn text stepWays) (isIndex : start ≤ text.length) : finish ≤ text.length := by
  induction reaches with
  | single step => exact leadOn.le isIndex step.2
  | tail _ step inductionHypothesis => exact leadOn.le inductionHypothesis step.2

/-- Where one step or more lead, if there are as many as may be needed. -/
theorem mem_indices_onwards (leadOn : LeadOn text stepWays) {greedy : Bool} {fuel : Nat}
    {isFirst : Bool} {index : Nat} (isIndex : index ≤ text.length)
    (enough : text.length - index < fuel) {finish : Nat} :
    finish ∈ indices (onwards stepWays greedy fuel isFirst index) ↔
      (isFirst = true ∧ finish = index ∧ index ∈ indices (stepWays index)) ∨
        Reaches stepWays index finish := by
  induction fuel generalizing isFirst index with
  | zero => exact absurd enough (Nat.not_lt_zero _)
  | succ fuel inductionHypothesis =>
    rw [onwards, mem_indices_flatMap, Reaches, Relation.TransGen.head'_iff]
    constructor
    · rintro ⟨way, isWay, leads⟩
      obtain ⟨onward, inText⟩ := leadOn index isIndex way isWay
      have isNext : way.finish ∈ indices (stepWays index) := mem_indices.mpr ⟨way, isWay, rfl⟩
      rw [mem_indices_goOn] at leads
      split at leads
      case isTrue stays => exact .inl ⟨leads.1, leads.2, stays ▸ isNext⟩
      case isFalse moves =>
        have further : index < way.finish := lt_of_le_of_ne onward (Ne.symm moves)
        rw [inductionHypothesis inText (by omega)] at leads
        simp only [Bool.false_eq_true, false_and, false_or] at leads
        exact .inr ⟨way.finish, ⟨further, isNext⟩,
          Relation.reflTransGen_iff_eq_or_transGen.mpr leads⟩
    · rintro (⟨first, rfl, isNext⟩ | ⟨next, ⟨further, isNext⟩, leads⟩)
      · obtain ⟨way, isWay, stays⟩ := mem_indices.mp isNext
        exact ⟨way, isWay, by rw [mem_indices_goOn, if_pos stays]; exact ⟨first, rfl⟩⟩
      · obtain ⟨way, isWay, rfl⟩ := mem_indices.mp isNext
        obtain ⟨-, inText⟩ := leadOn index isIndex way isWay
        refine ⟨way, isWay, ?_⟩
        rw [mem_indices_goOn, if_neg further.ne', inductionHypothesis inText (by omega)]
        simp only [Bool.false_eq_true, false_and, false_or]
        exact Relation.reflTransGen_iff_eq_or_transGen.mp leads

/-- Behind the first step, every one moves on. -/
theorem mem_indices_further (leadOn : LeadOn text stepWays) {greedy : Bool} {fuel index : Nat}
    (isIndex : index ≤ text.length) (enough : text.length - index < fuel) {finish : Nat} :
    finish ∈ indices (onwards stepWays greedy fuel false index) ↔
      Reaches stepWays index finish := by
  rw [mem_indices_onwards leadOn isIndex enough]
  exact or_iff_right fun first => Bool.false_ne_true first.1

/-- What is reached from the indices seen behind one index was seen, too. -/
def Closed (ways : Nat → List Way) (seen : Finset Nat) (index : Nat) : Prop :=
  ∀ start ∈ seen, index < start → ∀ finish, Reaches ways start finish → finish ∈ seen

/-- From places found and indices seen on, the first of some ways to each new index is found. -/
structure Finds (text : List Char) (groups : List (Nat × Nat × Nat)) (before : List Place × Nat)
    (seen : Finset Nat) (ways : List Way) (after : List Place × Nat) : Prop where
  found : after.1 = ((fresh seen ways).map (Way.place text groups)).reverse ++ before.1
  seen : HasBits after.2 (seen ∪ indices ways)

variable {groups : List (Nat × Nat × Nat)} {before middle after : List Place × Nat}

theorem Finds.refl (same : HasBits before.2 seen) (known : indices ways ⊆ seen) :
    Finds text groups before seen ways before where
  found := by rw [fresh_eq_nil known]; rfl
  seen := by rwa [Finset.union_eq_left.mpr known]

theorem Finds.trans (finds : Finds text groups before seen ways middle)
    (findsNext : Finds text groups middle (seen ∪ indices ways) others after) :
    Finds text groups before seen (ways ++ others) after where
  found := by
    rw [findsNext.found, finds.found, fresh_append, List.map_append, List.reverse_append,
      List.append_assoc]
  seen := by
    rw [indices_append, ← Finset.union_assoc]
    exact findsNext.seen

theorem Finds.congr (finds : Finds text groups before seen ways after)
    (agree : Agree ways others) : Finds text groups before seen others after where
  found := by
    rw [← agree]
    exact finds.found
  seen := by
    rw [← agree.indices_eq]
    exact finds.seen

/-- A way to a new index is found. -/
theorem Finds.single {way : Way} (same : HasBits before.2 seen) (new : way.finish ∉ seen) :
    Finds text groups before seen [way]
      (way.place text groups :: before.1, before.2 ||| Number.twoTo way.finish) where
  found := by
    rw [fresh, if_neg new]
    rfl
  seen := by
    rw [indices_cons, indices_nil, Finset.union_insert, Finset.union_empty]
    exact same.insert _

/-- A way to a new index is found, but after what follows it, none of which leads to the same
index. -/
theorem Finds.stepLast {way : Way} {bits : Nat}
    (finds : Finds text groups (before.1, bits) (insert way.finish seen) ways after)
    (new : way.finish ∉ seen) (isElsewhere : way.finish ∉ indices ways) :
    Finds text groups before seen (ways ++ [way]) (way.place text groups :: after.1, after.2) where
  found := by
    have isNew : way.finish ∉ seen ∪ indices ways := by
      rw [Finset.mem_union, not_or]
      exact ⟨new, isElsewhere⟩
    rw [fresh_append, fresh, if_neg isNew, List.map_append, List.reverse_append, finds.found,
      fresh_insert isElsewhere]
    rfl
  seen := by
    rw [indices_append, indices_cons, indices_nil, ← Finset.union_assoc, Finset.union_insert,
      Finset.union_empty, ← Finset.insert_union]
    exact finds.seen

/-- What is found behind a way. -/
theorem Finds.behind {way : Way}
    (finds : Finds text (way.groups ++ groups) before seen ways after) :
    Finds text groups before seen (ways.map way.behind) after where
  found := by
    have keeps : ∀ next : Way, (way.behind next).finish = next.finish := fun _ => rfl
    have same : Way.place text groups ∘ way.behind = Way.place text (way.groups ++ groups) := by
      funext next
      rw [Function.comp_apply, Way.place, Way.place, Way.behind, List.append_assoc]
    rw [fresh_map keeps, List.map_map, same, finds.found]
  seen := by
    rw [indices_map_behind]
    exact finds.seen

/-- One place in the fold that `follow` goes on with. -/
def visit (next : List Place × Nat → Place → List Place × Nat) (greedy : Bool) (index : Nat)
    (state : List Place × Nat) (place : Place) : List Place × Nat :=
  if state.2.testBit place.index then state
  else
    let seen := state.2 ||| Number.twoTo place.index
    if place.index == index then (place :: state.1, seen)
    else if greedy then
      let after := next (state.1, seen) place
      (place :: after.1, after.2)
    else next (place :: state.1, seen) place

theorem follow_succ (greedy : Bool) (fuel : Nat) (state : List Place × Nat) (place : Place) :
    follow step greedy (fuel + 1) state place =
      (step place).foldl (visit (follow step greedy fuel) greedy place.index) state :=
  rfl

/-- What is found from a place on are the first ways to each new index, where what is reached from
the indices further on that were seen was seen, too. If the place itself was seen, this is not the
first step from it. -/
def FollowFinds (text : List Char) (stepWays : Nat → List Way) (greedy : Bool) (fuel : Nat)
    (next : List Place × Nat → Place → List Place × Nat) : Prop :=
  ∀ index ≤ text.length, text.length - index < fuel → ∀ groups state seen,
    HasBits state.2 seen → Closed stepWays seen index →
      Finds text groups state seen
        (onwards stepWays greedy fuel (decide (index ∉ seen)) index)
        (next state (placeAt text index groups))

section

variable {next : List Place × Nat → Place → List Place × Nat} {greedy isFirst : Bool}
  {fuel index : Nat} {state : List Place × Nat} {way : Way}

/-- What is reached from a step and what may follow it is among the places that it leads to. -/
theorem Closed.goOn (leadOn : LeadOn text stepWays) (closed : Closed stepWays seen index)
    (onward : index ≤ way.finish) (inText : way.finish ≤ text.length)
    (enough : text.length - index < fuel + 1) :
    Closed stepWays
      (seen ∪ indices (goOn (onwards stepWays greedy fuel false) greedy isFirst index way))
      index := by
  intro start isSeen isBehind finish reaches
  rcases Finset.mem_union.mp isSeen with before | here
  · exact Finset.mem_union_left _ (closed start before isBehind finish reaches)
  · refine Finset.mem_union_right _ ?_
    rw [mem_indices_goOn] at here ⊢
    split at here
    case isTrue => exact absurd here.2 isBehind.ne'
    case isFalse moves =>
      rw [if_neg moves, mem_indices_further leadOn inText (by omega)]
      rw [mem_indices_further leadOn inText (by omega)] at here
      rcases here with rfl | reached
      · exact .inr reaches
      · exact .inr (reached.trans reaches)

/-- If a step leads to an index that was seen, so does all that may follow it. -/
theorem Closed.goOn_subset (leadOn : LeadOn text stepWays) (closed : Closed stepWays seen index)
    (known : way.finish ∈ seen) (onward : index ≤ way.finish) (inText : way.finish ≤ text.length)
    (enough : text.length - index < fuel + 1) :
    indices (Pattern.goOn (onwards stepWays greedy fuel false) greedy isFirst index way) ⊆
      seen := by
  intro other isNext
  rw [mem_indices_goOn] at isNext
  split at isNext
  case isTrue stays => exact isNext.2 ▸ stays ▸ known
  case isFalse moves =>
    have further : index < way.finish := lt_of_le_of_ne onward (Ne.symm moves)
    rw [mem_indices_further leadOn inText (by omega)] at isNext
    rcases isNext with rfl | reached
    · exact known
    · exact closed way.finish known further other reached

theorem Closed.insert (closed : Closed stepWays seen index) {next : Nat} (further : index < next) :
    Closed stepWays (insert next seen) next := by
  intro start isSeen isBehind finish reaches
  rcases Finset.mem_insert.mp isSeen with rfl | before
  · exact absurd isBehind (lt_irrefl _)
  · exact Finset.mem_insert_of_mem (closed start before (further.trans isBehind) finish reaches)

/-- Visiting the place of a step finds what is new of the step and of what may follow it. -/
theorem visit_finds (leadOn : LeadOn text stepWays)
    (finds : FollowFinds text stepWays greedy fuel next) (same : HasBits state.2 seen)
    (closed : Closed stepWays seen index) (first : isFirst = false → index ∈ seen)
    (onward : index ≤ way.finish) (inText : way.finish ≤ text.length)
    (enough : text.length - index < fuel + 1) :
    Finds text groups state seen
      (goOn (onwards stepWays greedy fuel false) greedy isFirst index way)
      (visit next greedy index state (way.place text groups)) := by
  have isPlace : (way.place text groups).index = way.finish := rfl
  rw [visit, isPlace, same]
  by_cases known : way.finish ∈ seen
  · rw [decide_eq_true known, if_pos rfl]
    exact .refl same (closed.goOn_subset leadOn known onward inText enough)
  rw [decide_eq_false known, if_neg Bool.false_ne_true]
  by_cases stays : way.finish = index
  · -- a step that stays at an index not seen before is the first one
    have isFirst : isFirst = true := by
      cases isFirst
      case false => exact absurd (stays ▸ first rfl) known
      case true => rfl
    rw [if_pos (beq_iff_eq.mpr stays), goOn, if_pos stays, if_pos isFirst]
    exact .single same known
  have further : index < way.finish := lt_of_le_of_ne onward (Ne.symm stays)
  have follows := fun found : List Place =>
    (finds way.finish inText (by omega) (way.groups ++ groups)
      (found, state.2 ||| Number.twoTo way.finish) _ (same.insert way.finish)
      (closed.insert further)).behind
  rw [decide_eq_false (not_not_intro (Finset.mem_insert_self _ _))] at follows
  rw [if_neg (by simpa using stays), goOn, if_neg stays]
  cases greedy
  case false =>
    refine (Finds.single same known).trans ?_
    rw [indices_cons, indices_nil, Finset.union_insert, Finset.union_empty]
    exact follows _
  case true =>
    -- the index counts as seen before what follows is found, none of which comes back to it
    refine (follows state.1).stepLast known fun returns => ?_
    rw [indices_map_behind, mem_indices_further leadOn inText (by omega)] at returns
    exact lt_irrefl _ returns.lt

end

theorem foldl_visit_finds {next : List Place × Nat → Place → List Place × Nat}
    {greedy isFirst : Bool} {fuel index : Nat} (leadOn : LeadOn text stepWays)
    (finds : FollowFinds text stepWays greedy fuel next)
    (enough : text.length - index < fuel + 1)
    (isOnward : ∀ way ∈ ways, index ≤ way.finish ∧ way.finish ≤ text.length)
    {state : List Place × Nat} (same : HasBits state.2 seen)
    (closed : Closed stepWays seen index) (first : isFirst = false → index ∈ seen) :
    Finds text groups state seen
      (ways.flatMap (goOn (onwards stepWays greedy fuel false) greedy isFirst index))
      ((ways.map (Way.place text groups)).foldl (visit next greedy index) state) := by
  induction ways generalizing state seen with
  | nil => exact .refl same (Finset.empty_subset _)
  | cons way rest inductionHypothesis =>
    obtain ⟨⟨onward, inText⟩, later⟩ := List.forall_mem_cons.mp isOnward
    have here : Finds text groups state seen _ _ :=
      visit_finds leadOn finds same closed first onward inText enough
    rw [List.flatMap_cons, List.map_cons, List.foldl_cons]
    exact here.trans (inductionHypothesis later here.seen
      (closed.goOn leadOn onward inText enough) fun notFirst =>
        Finset.mem_union_left _ (first notFirst))

theorem follow_finds (leads : Leads text step stepWays) (greedy : Bool) (fuel : Nat) :
    FollowFinds text stepWays greedy fuel (follow step greedy fuel) := by
  induction fuel with
  | zero => exact fun _ _ enough => absurd enough (Nat.not_lt_zero _)
  | succ fuel inductionHypothesis =>
    intro index isIndex enough groups state seen same closed
    have isOnward : ∀ way ∈ fresh ∅ (stepWays index),
        index ≤ way.finish ∧ way.finish ≤ text.length :=
      fun way isWay => leads.leadOn index isIndex way (fresh_subset isWay)
    have first : decide (index ∉ seen) = false → index ∈ seen := by simp
    rw [follow_succ, leads.places index isIndex, onwards]
    refine (foldl_visit_finds leads.leadOn inductionHypothesis enough isOnward same closed
      first).congr (agree_flatMap_fresh fun way other isSame => ?_)
    ext finish
    rw [mem_indices_goOn, mem_indices_goOn, isSame]

/-- One step or more. -/
theorem Leads.onceOrMore (leads : Leads text step stepWays) (greedy : Bool) :
    Leads text (oneOrMore step greedy) (onceOrMore text.length stepWays greedy) where
  places index isIndex groups := by
    have length : (placeAt text index groups).after.length = text.length - index :=
      List.length_drop
    have finds := follow_finds leads greedy (text.length - index + 1) index isIndex
      (Nat.lt_succ_self _) groups ([], 0) ∅ hasBits_zero
      fun start isSeen => absurd isSeen (Finset.notMem_empty start)
    rw [oneOrMore, length, finds.found, List.append_nil, List.reverse_reverse]
    rfl
  leadOn index isIndex way isWay := by
    have isMember : way.finish ∈ indices (Pattern.onceOrMore text.length stepWays greedy index) :=
      mem_indices.mpr ⟨way, isWay, rfl⟩
    rw [Pattern.onceOrMore, mem_indices_onwards leads.leadOn isIndex (Nat.lt_succ_self _)]
      at isMember
    rcases isMember with ⟨-, stays, -⟩ | reaches
    · exact ⟨stays.ge, stays.trans_le isIndex⟩
    · exact ⟨reaches.lt.le, reaches.le leads.leadOn isIndex⟩

end

/-! ### Trees -/

theorem next?_placeAt (index : Nat) (groups : List (Nat × Nat × Nat)) :
    (placeAt text index groups).next? =
      text[index]?.map fun c => (c, placeAt text (index + 1) groups) := by
  rw [Place.next?, placeAt, placeAt, List.take_add_one]
  rcases lt_or_ge index text.length with inText | behind
  · rw [List.drop_eq_getElem_cons inText, List.getElem?_eq_getElem inText, Option.toList_some,
      List.reverse_append]
    rfl
  · rw [List.drop_eq_nil_of_le behind, List.getElem?_eq_none behind]
    rfl

theorem head?_before_placeAt {index : Nat} (isIndex : index ≤ text.length)
    (groups : List (Nat × Nat × Nat)) :
    (placeAt text index groups).before.head? = charBefore? text index := by
  rw [placeAt, List.head?_reverse]
  cases index with
  | zero => rfl
  | succ index =>
    rw [charBefore?, List.getLast?_take, if_neg (Nat.succ_ne_zero _), Nat.add_sub_cancel,
      List.getElem?_eq_getElem isIndex]
    rfl

theorem mem_overChar {set : CharSet} {index : Nat} {way : Way} :
    way ∈ overChar text set index ↔
      (∃ c, text[index]? = some c ∧ set.contains c = true) ∧ way = .stay (index + 1) := by
  rw [overChar, ← Option.any_eq_true]
  split
  case isTrue passes => rw [List.mem_singleton, and_iff_right passes]
  case isFalse fails => exact iff_of_false List.not_mem_nil fun member => fails member.1

theorem mem_pastCheck {check : Check} {index : Nat} {way : Way} :
    way ∈ pastCheck text check index ↔
      check.holds (charBefore? text index) text[index]? = true ∧ way = .stay index := by
  rw [pastCheck]
  split
  case isTrue passes => rw [List.mem_singleton, and_iff_right passes]
  case isFalse fails => exact iff_of_false List.not_mem_nil fun member => fails member.1

theorem leads_overChar (set : CharSet) : Leads text (Node.one set).ends (overChar text set) where
  places index isIndex groups := by
    rw [Node.ends, next?_placeAt, overChar]
    cases text[index]? with
    | none => rfl
    | some c =>
      rw [Option.map_some, Option.any_some]
      dsimp only
      split <;> rfl
  leadOn index isIndex way isWay := by
    obtain ⟨⟨c, isNext, -⟩, rfl⟩ := mem_overChar.mp isWay
    exact ⟨Nat.le_succ _, (List.getElem?_eq_some_iff.mp isNext).1⟩

theorem leads_pastCheck (check : Check) :
    Leads text (Node.look check).ends (pastCheck text check) where
  places index isIndex groups := by
    have after : (placeAt text index groups).after.head? = text[index]? := List.head?_drop
    rw [Node.ends, head?_before_placeAt isIndex, after, pastCheck]
    split <;> rfl
  leadOn index isIndex way isWay := by
    obtain ⟨-, rfl⟩ := mem_pastCheck.mp isWay
    exact ⟨Nat.le_refl _, isIndex⟩

/-- The places that a tree leads to are those of the first of its ways to each index. -/
theorem Node.leads (text : List Char) : ∀ node : Node, Leads text node.ends (node.ways text)
  | .nothing => leads_stay
  | .one set => leads_overChar set
  | .look check => leads_pastCheck check
  | .both first second => (first.leads text).chain (second.leads text)
  | .either first second => (first.leads text).append (second.leads text)
  | .group number inner => (inner.leads text).group number
  | .repeated 0 none greedy inner => by
    have further := (inner.leads text).onceOrMore greedy
    exact leads_orStay further.places (fun _ => agree_fresh _) further.leadOn greedy
  | .repeated (least + 1) none greedy inner =>
    ((inner.leads text).times least).chain ((inner.leads text).onceOrMore greedy)
  | .repeated least (some most) greedy inner => by
    have further := (inner.leads text).upTo greedy (most - least)
    cases least <;> exact ((inner.leads text).times _).chain further

end Metasearch.Pattern
