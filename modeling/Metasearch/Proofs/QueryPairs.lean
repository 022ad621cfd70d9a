/-
This file settles that reading a query undoes writing it. A written part has no mark of a query in
it, so the pairs are found where they were put, and undoing the escapes of a part gives its bytes.
-/
import Metasearch.Url.Query
import Metasearch.Proofs.EscapedText

namespace Metasearch.Url

/-! ### One part and one pair -/

/-- The marks of a query do not occur in a written part. -/
theorem not_mem_escapePart {mark : Char} (isMark : mark ∈ ['&', '=', '+']) (text : String) :
    mark ∉ escapePart text := by
  intro member
  have every : ∀ mark ∈ ['&', '=', '+'], mark ∉ escapeChars ∧ escapedInPair mark = true :=
    Text.forall_of_all (by decide)
  obtain ⟨noEscape, escaped⟩ := every mark isMark
  rcases mem_escapeText member with written | ⟨stands, -⟩
  · exact noEscape written
  · rw [stands.1] at escaped
    exact absurd escaped (by decide)

theorem readPart_escapePart (text : String) : readPart (escapePart text) = text := by
  have noPlus : (escapePart text).map (fun c => if c == '+' then ' ' else c) = escapePart text := by
    refine (List.map_congr_left fun c member => ?_).trans (List.map_id _)
    refine if_neg fun isPlus => ?_
    rw [eq_of_beq isPlus] at member
    exact not_mem_escapePart (by decide) text member
  rw [readPart, noPlus, escapePart, unescape_escapeText (by decide), Text.decode_encode,
    String.ofList_toList]

theorem readPair_writePair (pair : String × String) : readPair (writePair pair) = pair := by
  rw [readPair, writePair, Text.cut_single (not_mem_escapePart (by decide) pair.1)]
  simp only [readPart_escapePart]

/-- A written pair is one piece of a query. -/
theorem writePair_whole (pair : String × String) : ∀ c ∈ writePair pair, (c == '&') = false := by
  intro c member
  rw [writePair, List.mem_append, List.mem_cons] at member
  refine beq_eq_false_iff_ne.mpr ?_
  rintro rfl
  rcases member with name | equals | value
  · exact not_mem_escapePart (by decide) pair.1 name
  · exact absurd equals (by decide)
  · exact not_mem_escapePart (by decide) pair.2 value

/-! ### A query -/

/-- Reading the pairs of a written query gives the pairs that were written, in their order. -/
theorem readPairs_writePairs (pairs : List (String × String)) :
    readPairs (writePairs pairs) = pairs := by
  rw [readPairs, writePairs, String.toList_ofList]
  by_cases empty : pairs = []
  · subst empty
    rfl
  · have whole : ∀ piece ∈ pairs.map writePair, ∀ c ∈ piece, (c == '&') = false :=
      List.forall_mem_map.mpr fun pair _ => writePair_whole pair
    have present : ∀ piece ∈ pairs.map writePair, (!piece.isEmpty) = true :=
      List.forall_mem_map.mpr fun pair _ => by simp [writePair]
    rw [Text.splitAt_intercalate (by decide) whole (by simpa using empty),
      List.filter_eq_self.mpr present, List.map_map]
    exact (List.map_congr_left fun pair _ => readPair_writePair pair).trans (List.map_id _)

/-- The pairs on either side of a mark are read by themselves. -/
theorem readPairs_append (left right : String) :
    readPairs (left ++ "&" ++ right) = readPairs left ++ readPairs right := by
  have cuts : (left ++ "&" ++ right).toList = left.toList ++ '&' :: right.toList := by
    simp [String.toList_append]
  rw [readPairs, cuts, Text.splitAt_append_cons (by decide), List.filter_append, List.map_append]
  rfl

end Metasearch.Url
