/-
This file settles that putting parameters behind the query of an address loses and changes nothing.
The setter of queries escapes what it is given, but the query of an address that was read and the
text of the parameters are already as it leaves them, so it only puts one behind the other. The
pairs are therefore those of the address and then the new ones, and as the text of an address of
the web reads as that address, whoever asks the text for a parameter is told the first of them.
-/
import Mathlib
import Metasearch.Filter
import Metasearch.Proofs.AddressTexts
import Metasearch.Proofs.QueryPairs

namespace Metasearch.Url

/-! ### The addresses there are -/

/-- The addresses that a run can come by: those read, on their own or relative to another, and
those asked with parameters. -/
inductive IsParsed : Url → Prop
  | read {text : String} {url : Url} (read : Url.read text = .ok url) : IsParsed url
  | join {base url : Url} {text : String} (isParsed : IsParsed base)
      (join : base.join text = .ok url) : IsParsed url
  | withPairs {url : Url} (isParsed : IsParsed url) (added : List (String × String)) :
      IsParsed (url.withPairs added)

/-! ### The setter of queries -/

/-- The written pairs stand as they are in a query, whatever the scheme. -/
theorem stands_writePairs (special : Bool) (pairs : List (String × String)) :
    ∀ c ∈ (writePairs pairs).toList, Stands (escapedInQuery special) c := by
  have marks : ∀ c ∈ '&' :: '=' :: escapeChars, ∀ special,
      Stands (escapedInQuery special) c := Text.forall_of_all (by decide)
  have ofPart : ∀ c ∈ Text.asciiChars, escapedInPair c = false → ∀ special,
      escapedInQuery special c = false := Text.forall_of_all (by decide)
  have inPart : ∀ text c, c ∈ escapePart text → Stands (escapedInQuery special) c := by
    intro text c member
    rcases mem_escapeText member with written | ⟨stands, -⟩
    · exact marks c (List.mem_cons_of_mem _ (List.mem_cons_of_mem _ written)) special
    · exact ⟨ofPart c (Text.mem_asciiChars stands.2) stands.1 special, stands.2⟩
  intro c member
  rw [writePairs, String.toList_ofList] at member
  rcases mem_intercalate member with rfl | ⟨piece, isPiece, inPiece⟩
  · exact marks '&' (by decide) special
  · obtain ⟨pair, -, rfl⟩ := List.mem_map.mp isPiece
    rcases List.mem_append.mp inPiece with inName | behind
    · exact inPart pair.1 c inName
    · rcases List.mem_cons.mp behind with rfl | inValue
      · exact marks '=' (by decide) special
      · exact inPart pair.2 c inValue

/-- A query that stands as it is in its place is set as it is. -/
theorem withQuery_of_stands {url : Url} {query : String}
    (stands : ∀ c ∈ query.toList, Stands (escapedInQuery (kindOf url.scheme).isSpecial) c) :
    withQuery url query = { url with query := some query } := by
  have noBreak : ∀ c ∈ query.toList, (!isBreak c) = true := fun c member =>
    isBreak_of_visible (isQueryChar_of_stands (stands c member)).2
  rw [withQuery]
  simp only [List.filter_eq_self.mpr noBreak, escapeText_of_stands stands, String.ofList_toList]

theorem readPairs_joinQuery (query : Option String) (written : String) :
    readPairs (joinQuery query written) = (query.map readPairs).getD [] ++ readPairs written := by
  cases query with
  | none => rfl
  | some query =>
    show readPairs (if query.isEmpty then written else query ++ "&" ++ written) = _
    split
    · next empty =>
      rw [String.isEmpty_iff.mp empty]
      rfl
    · exact readPairs_append query written

section Settled

variable {url : Url} (settled : IsSettled url) (added : List (String × String))
include settled

theorem stands_joinQuery :
    ∀ c ∈ (joinQuery url.query (writePairs added)).toList,
      Stands (escapedInQuery (kindOf url.scheme).isSpecial) c := by
  have ofWritten := stands_writePairs (kindOf url.scheme).isSpecial added
  intro c member
  cases found : url.query with
  | none =>
    rw [found] at member
    exact ofWritten c member
  | some query =>
    rw [found, joinQuery] at member
    split at member
    · exact ofWritten c member
    · rw [String.toList_append, String.toList_append] at member
      rcases List.mem_append.mp member with front | inWritten
      · rcases List.mem_append.mp front with inQuery | mark
        · exact settled.query query found c inQuery
        · rw [List.mem_singleton.mp mark]
          cases (kindOf url.scheme).isSpecial <;> decide
      · exact ofWritten c inWritten

/-- Only the query changes, and it is set as it was put together. -/
theorem withPairs_eq :
    withPairs url added =
      if added = [] then url
      else { url with query := some (joinQuery url.query (writePairs added)) } := by
  unfold withPairs
  by_cases none : added = []
  · rw [if_pos none, if_pos (List.isEmpty_iff.mpr none)]
  · rw [if_neg none, if_neg (by simpa using none)]
    exact withQuery_of_stands (stands_joinQuery settled added)

theorem pairs_withPairs_settled : pairs (withPairs url added) = pairs url ++ added := by
  rw [withPairs_eq settled]
  split
  · next none => rw [none, List.append_nil]
  · show readPairs (joinQuery url.query (writePairs added)) = _
    rw [readPairs_joinQuery, readPairs_writePairs]
    rfl

theorem withPairs_keeps :
    withPairs url added = { url with query := (withPairs url added).query } := by
  rw [withPairs_eq settled]
  split <;> rfl

theorem withPairs_settled : IsSettled (withPairs url added) := by
  rw [withPairs_eq settled]
  split
  · exact settled
  · refine ⟨fun web => ?_, fun query found => ?_, settled.fragment⟩
    · exact (settled.front web).withRest _ _
    · obtain rfl := Option.some.inj found
      exact stands_joinQuery settled added

end Settled

/-- Every address that a run comes by is settled. -/
theorem IsParsed.settled {url : Url} (isParsed : IsParsed url) : IsSettled url := by
  induction isParsed with
  | read read => exact readBelow_settled (fun _ none => absurd none (by simp)) read
  | join isParsed join inductionHypothesis =>
    refine readBelow_settled (fun base isBase => ?_) join
    exact Option.some.inj isBase ▸ inductionHypothesis
  | withPairs isParsed added inductionHypothesis =>
    exact withPairs_settled inductionHypothesis added

/-! ### Asking an address for a parameter -/

/-- The first pair with a name has the value that is looked up. -/
theorem find?_eq_lookup (name : String) (list : List (String × String)) :
    (list.find? fun pair => pair.1 == name).map (·.2) = list.lookup name := by
  induction list with
  | nil => rfl
  | cons pair rest inductionHypothesis =>
    obtain ⟨key, value⟩ := pair
    rw [List.find?_cons, List.lookup_cons]
    by_cases same : key = name
    · rw [same, beq_self_eq_true]
      rfl
    · rw [beq_eq_false_iff_ne.mpr same, beq_eq_false_iff_ne.mpr (Ne.symm same)]
      exact inductionHypothesis

/-- The filter is told of the text of an address what the pairs of the address say. -/
theorem queryValue_write {url : Url} (settled : IsSettled url) (web : kindOf url.scheme = .web)
    (name : String) :
    Filter.queryValue name (write url) = .ok (((pairs url).lookup name).getD "") := by
  rw [Filter.queryValue, Filter.readUrl, read_of_settled settled web]
  show Except.ok _ = _
  rw [find?_eq_lookup]

/-- Putting parameters behind the query of an address keeps its pairs and appends the new ones,
and changes nothing but the query. Under `http` and `https` the text of the new address answers
each name with the first value that the pairs of the old one and then the parameters give it,
and with nothing where they give it none. -/
theorem withPairs_appends {url : Url} (isParsed : IsParsed url)
    (added : List (String × String)) :
    pairs (withPairs url added) = pairs url ++ added ∧
      withPairs url added = { url with query := (withPairs url added).query } ∧
      (url.scheme = "http" ∨ url.scheme = "https" → ∀ context name,
        Filter.apply context (.queryString name) (write (withPairs url added)) =
          .ok (((pairs url ++ added).lookup name).getD "")) := by
  have settled := isParsed.settled
  have appended := pairs_withPairs_settled settled added
  have kept := withPairs_keeps settled added
  refine ⟨appended, kept, fun scheme context name => ?_⟩
  have sameScheme : (withPairs url added).scheme = url.scheme := by rw [kept]
  have web : kindOf (withPairs url added).scheme = .web := by
    rw [sameScheme]
    rcases scheme with http | https
    · rw [http]; rfl
    · rw [https]; rfl
  rw [Filter.apply, queryValue_write (withPairs_settled settled added) web, appended]

/-- An address with a parameter and a fragment of its own. -/
def sortedListing : Url :=
  ⟨"http", "", "", some (.named "site.example"), none, .segments ["browse.php"],
    some "sort=added", some "top"⟩

theorem withPairs_appends_sortedListing :
    pairs (withPairs sortedListing [("q", "some show"), ("cat[]", "7")]) =
        [("sort", "added"), ("q", "some show"), ("cat[]", "7")] ∧
      Filter.apply ⟨.empty, ⟨0, 0⟩⟩ (.queryString "q")
          (write (withPairs sortedListing [("q", "some show"), ("cat[]", "7")])) =
        .ok "some show" := by
  have read : Url.read "http://site.example/browse.php?sort=added#top" = .ok sortedListing := by
    cbv
  have own : pairs sortedListing = [("sort", "added")] := by decide +kernel
  obtain ⟨appended, -, answered⟩ :=
    withPairs_appends (.read read) [("q", "some show"), ("cat[]", "7")]
  refine ⟨?_, ?_⟩
  · rw [appended, own]
    rfl
  · rw [answered (.inl rfl) ⟨.empty, ⟨0, 0⟩⟩ "q", own]
    rfl

end Metasearch.Url
