/-
This file settles what splitting a text gives. The text falls into fragments between the places
where the separator stands, found from the left and without overlaps: no fragment has the separator
in it, not even with the beginning of the separator that follows it, and put together with the
separator between them the fragments are the text again. With an empty separator each character is
a fragment.

An index names a fragment from either end: of so many fragments as there are, each has exactly two
indices, one counted from the first fragment and one, negative, counted back from behind the last.
-/
import Mathlib.Data.String.Basic
import Metasearch.Filter
import Metasearch.Proofs.ReplacedText

namespace Metasearch

/-! ### The search from the left -/

namespace Text

variable {needle : List Char}

/-- In front of an occurrence that was found there is none that begins earlier. -/
theorem not_infix_of_mem_dropLast (present : needle ≠ []) {text piece : List Char}
    (isPiece : piece ∈ (splitOn needle text).dropLast) :
    ¬ needle <:+: piece ++ needle.dropLast := by
  have shorter : needle.dropLast.length < needle.length := by
    have some := List.length_pos_iff.mpr present
    rw [List.length_dropLast]
    omega
  induction text using byOccurrences present generalizing piece with
  | nil => cases isPiece
  | occurs rest inductionHypothesis =>
    rw [splitOn_append present, List.dropLast_cons_of_ne_nil (splitOn_ne_nil needle rest)]
      at isPiece
    rcases List.mem_cons.mp isPiece with rfl | later
    · exact fun occurs => Nat.not_le.mpr shorter occurs.length_le
    · exact inductionHypothesis later
  | other c rest absent inductionHypothesis =>
    obtain ⟨head, tail, pieces, longer⟩ := splitOn_cons absent
    rw [longer] at isPiece
    rw [pieces] at inductionHypothesis
    cases tail with
    | nil => cases isPiece
    | cons next tail =>
      rw [List.dropLast_cons_of_ne_nil (List.cons_ne_nil _ _)] at isPiece inductionHypothesis
      rcases List.mem_cons.mp isPiece with rfl | later
      · rw [List.cons_append, List.infix_cons_iff, not_or]
        refine ⟨fun begins => absent (begins.trans ?_), inductionHypothesis List.mem_cons_self⟩
        -- what is behind this piece begins with the whole needle
        have whole := intercalate_splitOn present rest
        rw [pieces, List.intercalate_cons_cons] at whole
        rw [List.prefix_cons_inj, ← whole, List.append_assoc, List.prefix_append_right_inj]
        exact (List.dropLast_prefix needle).trans (List.prefix_append _ _)
      · exact inductionHypothesis (List.mem_cons_of_mem _ later)

end Text

namespace Filter

/-! ### Indices -/

/-- An index names a fragment, from the first one on or back from behind the last one. -/
def Picks (pieces : List String) (index : Int) (piece : String) : Prop :=
  ∃ position : Nat, pieces[position]? = some piece ∧
    (index = position ∨ index = position - (pieces.length : Int))

variable {pieces : List String} {index : Int} {piece : String}

theorem fragmentAt?_eq_some_iff : fragmentAt? pieces index = some piece ↔
    Picks pieces index piece := by
  by_cases negative : index < 0
  · simp only [fragmentAt?, if_pos negative]
    constructor
    · intro found
      split at found
      case isTrue beyond => cases found
      case isFalse within => exact ⟨_, found, .inr (by omega)⟩
    · rintro ⟨position, found, same⟩
      obtain ⟨within, -⟩ := List.getElem?_eq_some_iff.mp found
      have back : (pieces.length : Int) + index = position := by omega
      rwa [back, if_neg (by omega), Int.toNat_natCast]
  · simp only [fragmentAt?, if_neg negative]
    constructor
    · exact fun found => ⟨_, found, .inl (by omega)⟩
    · rintro ⟨position, found, same⟩
      obtain ⟨within, -⟩ := List.getElem?_eq_some_iff.mp found
      obtain rfl : index = position := by omega
      rwa [Int.toNat_natCast]

/-- The indices that name a fragment. -/
theorem exists_picks_iff : (∃ piece, Picks pieces index piece) ↔
    -(pieces.length : Int) ≤ index ∧ index < pieces.length := by
  constructor
  · rintro ⟨piece, position, found, same⟩
    obtain ⟨within, -⟩ := List.getElem?_eq_some_iff.mp found
    omega
  · rintro ⟨low, high⟩
    by_cases negative : index < 0
    · have within : (index + pieces.length).toNat < pieces.length := by omega
      exact ⟨_, _, List.getElem?_eq_getElem within, .inr (by omega)⟩
    · have within : index.toNat < pieces.length := by omega
      exact ⟨_, _, List.getElem?_eq_getElem within, .inl (by omega)⟩

/-- An index from the first fragment on and the same one counted back name one fragment. -/
theorem fragmentAt?_back (low : 0 ≤ index) (high : index < pieces.length) :
    fragmentAt? pieces (index - pieces.length) = fragmentAt? pieces index := by
  obtain ⟨piece, position, found, same⟩ := exists_picks_iff.mpr ⟨by omega, high⟩
  obtain ⟨within, -⟩ := List.getElem?_eq_some_iff.mp found
  obtain rfl : index = position := by omega
  rw [fragmentAt?_eq_some_iff.mpr ⟨position, found, .inl rfl⟩,
    fragmentAt?_eq_some_iff.mpr ⟨position, found, .inr rfl⟩]

theorem apply_split (context : Context) (separator value : String) (index : Int) :
    apply context (.split separator index) value =
      match fragmentAt? (fragments separator value) index with
      | some piece => .ok piece
      | none => .error (.splitOutOfRange index (fragments separator value).length) :=
  rfl

/-! ### Fragments -/

theorem toList_fragments_of_empty (value : String) :
    (fragments "" value).map String.toList = value.toList.map fun c => [c] := by
  rw [fragments, if_pos (by decide), List.map_map]
  exact List.map_congr_left fun c _ => String.toList_ofList

theorem toList_fragments {separator : String} (present : separator ≠ "") (value : String) :
    (fragments separator value).map String.toList =
      Text.splitOn separator.toList value.toList := by
  rw [fragments, if_neg (by simpa using present), List.map_map]
  exact (List.map_congr_left fun piece _ => String.toList_ofList).trans (List.map_id _)

/-- What splitting a text gives: which indices name a fragment and which are refused, and that the
fragments are the text, cut wherever the separator stands. -/
theorem apply_split_decided (context : Context) (separator value : String) :
    ∃ pieces : List String,
      (∀ index piece, apply context (.split separator index) value = .ok piece ↔
        Picks pieces index piece) ∧
      (∀ index : Int, (∃ piece, apply context (.split separator index) value = .ok piece) ↔
        -(pieces.length : Int) ≤ index ∧ index < pieces.length) ∧
      (∀ index error, apply context (.split separator index) value = .error error ↔
        ¬ (-(pieces.length : Int) ≤ index ∧ index < pieces.length) ∧
          error = .splitOutOfRange index pieces.length) ∧
      (∀ index : Int, 0 ≤ index ∧ index < pieces.length →
        apply context (.split separator (index - pieces.length)) value =
          apply context (.split separator index) value) ∧
      if separator = "" then
        pieces.map String.toList = (value.toList.map fun c => [c]) ∧ String.join pieces = value
      else
        separator.intercalate pieces = value ∧
          (∀ piece ∈ pieces, ¬ separator.toList <:+: piece.toList) ∧
          ∀ piece ∈ pieces.dropLast,
            ¬ separator.toList <:+: piece.toList ++ separator.toList.dropLast := by
  have picks : ∀ index piece, apply context (.split separator index) value = .ok piece ↔
      Picks (fragments separator value) index piece := by
    intro index piece
    rw [apply_split, ← fragmentAt?_eq_some_iff]
    cases fragmentAt? (fragments separator value) index <;> simp
  have inRange : ∀ index : Int,
      (∃ piece, apply context (.split separator index) value = .ok piece) ↔
        -((fragments separator value).length : Int) ≤ index ∧
          index < (fragments separator value).length := by
    intro index
    simp only [picks]
    exact exists_picks_iff
  refine ⟨fragments separator value, picks, inRange, ?refused, ?back, ?whole⟩
  case refused =>
    intro index error
    rw [← inRange, apply_split]
    cases fragmentAt? (fragments separator value) index <;> simp [eq_comm]
  case back =>
    rintro index ⟨low, high⟩
    rw [apply_split, apply_split, fragmentAt?_back low high]
    obtain ⟨piece, picked⟩ := exists_picks_iff.mpr ⟨by omega, high⟩
    rw [fragmentAt?_eq_some_iff.mpr picked]
  case whole =>
    split
    case isTrue empty =>
      subst empty
      refine ⟨toList_fragments_of_empty value, ?_⟩
      rw [← String.toList_inj, String.toList_join, List.flatMap_def, toList_fragments_of_empty]
      exact List.flatMap_singleton' _
    case isFalse present =>
      have some : separator.toList ≠ [] := fun empty => present (String.toList_eq_nil_iff.mp empty)
      have pieces := toList_fragments present value
      refine ⟨?_, fun piece member => ?_, fun piece member => ?_⟩
      · rw [← String.toList_inj, String.toList_intercalate, pieces,
          Text.intercalate_splitOn some]
      · exact Text.not_infix_of_mem_splitOn some (pieces ▸ List.mem_map_of_mem member)
      · have isPiece : piece.toList ∈ (Text.splitOn separator.toList value.toList).dropLast := by
          rw [← pieces, ← List.map_dropLast]
          exact List.mem_map_of_mem member
        exact Text.not_infix_of_mem_dropLast some isPiece

end Filter

end Metasearch
