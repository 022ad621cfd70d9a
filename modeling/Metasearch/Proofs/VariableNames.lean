/-
The names of variables of the environment. The name of the variable for a key of a site leads to
that key of that site, if neither has capital letters, underscores, points or blanks; and no name
leads to all settings at once.
-/
import Metasearch.Proofs.HostTexts
import Metasearch.Proofs.ReplacedText
import Metasearch.Settings.Environment

namespace Metasearch

/-! ### Names -/

namespace Settings

/-- A name that the name of a variable can lead through: it is not empty, and has no underscores,
points, blanks or capital letters. -/
def IsKey (key : String) : Prop :=
  key ≠ "" ∧ ∀ c ∈ key.toList, c ≠ '_' ∧ c ≠ '.' ∧ Text.isBlank c = false ∧ c.isUpper = false

/-- Small letters of ASCII make such a name. -/
theorem isKey_of_letters {key : String} (some : key ≠ "")
    (small : ∀ c ∈ key.toList, 'a' ≤ c ∧ c ≤ 'z') : IsKey key := by
  refine ⟨some, fun c member => ?_⟩
  have every : ∀ c ∈ Text.asciiChars, 'a' ≤ c ∧ c ≤ 'z' →
      c ≠ '_' ∧ c ≠ '.' ∧ Text.isBlank c = false ∧ c.isUpper = false :=
    Text.forall_of_all (by decide)
  have inside : c.toNat ≤ 122 := UInt32.le_iff_toNat_le.mp (small c member).2
  exact every c (Text.mem_asciiChars (by omega)) (small c member)

/-- The variable that overrides the setting of a site. -/
def overrideName (site key : String) : String :=
  "TRAWLER_INDEXERS__" ++ site.map Char.toUpper ++ "__" ++ key.map Char.toUpper

/-- A character of a key, written as a capital letter, is none of the marks, and is found again. -/
theorem toUpper_of_key {c : Char} (noMark : c ≠ '_') (noPoint : c ≠ '.')
    (solid : Text.isBlank c = false) (small : c.isUpper = false) :
    c.toUpper ≠ '_' ∧ c.toUpper ≠ '.' ∧ Text.isBlank c.toUpper = false ∧
      c.toUpper.toLower = c := by
  by_cases ascii : c.toNat < 0x80
  · have every : ∀ c ∈ Text.asciiChars, c ≠ '_' → c ≠ '.' → Text.isBlank c = false →
        c.isUpper = false → c.toUpper ≠ '_' ∧ c.toUpper ≠ '.' ∧ Text.isBlank c.toUpper = false ∧
          c.toUpper.toLower = c := Text.forall_of_all (by decide)
    exact every c (Text.mem_asciiChars ascii) noMark noPoint solid small
  · have upper : c.toUpper = c := by
      unfold Char.toUpper
      rw [dif_neg]
      rintro ⟨-, low⟩
      have small : c.toNat ≤ 122 := UInt32.le_iff_toNat_le.mp low
      omega
    rw [upper, Text.toLower_of_not_ascii ascii]
    exact ⟨noMark, noPoint, solid, rfl⟩

/-- The capital letters of a key have nothing in them that would divide a path, and lead back to
the key. -/
theorem toUpper_key {key : String} (isKey : IsKey key) :
    key.toList.map Char.toUpper ≠ [] ∧
      (∀ c ∈ key.toList.map Char.toUpper, c ≠ '_' ∧ c ≠ '.' ∧ Text.isBlank c = false) ∧
      String.ofList ((key.toList.map Char.toUpper).map Char.toLower) = key := by
  obtain ⟨some, each⟩ := isKey
  have letters : ∀ c ∈ key.toList, c.toUpper ≠ '_' ∧ c.toUpper ≠ '.' ∧
      Text.isBlank c.toUpper = false ∧ c.toUpper.toLower = c := fun c member =>
    have ⟨noMark, noPoint, solid, small⟩ := each c member
    toUpper_of_key noMark noPoint solid small
  refine ⟨by simpa using some, ?_, ?_⟩
  · rw [List.forall_mem_map]
    exact fun c member => ⟨(letters c member).1, (letters c member).2.1, (letters c member).2.2.1⟩
  · have back : (key.toList.map Char.toUpper).map Char.toLower = key.toList := by
      rw [List.map_map]
      exact (List.map_congr_left fun c member => (letters c member).2.2.2).trans (List.map_id _)
    rw [back, String.ofList_toList]

/-- What the names of the variables of the sites lead through first. -/
def siteMarks : List Char := ['I', 'N', 'D', 'E', 'X', 'E', 'R', 'S']

theorem toList_name (first last : String) :
    ("TRAWLER_INDEXERS__" ++ first ++ "__" ++ last).toList = variablePrefix.toList ++
      (siteMarks ++ '_' :: '_' :: (first.toList ++ '_' :: '_' :: last.toList)) := by
  have front : "TRAWLER_INDEXERS__".toList =
      variablePrefix.toList ++ (siteMarks ++ ['_', '_']) := by decide
  have middle : "__".toList = ['_', '_'] := by decide
  rw [String.toList_append, String.toList_append, String.toList_append, front, middle]
  simp only [List.append_assoc, List.cons_append, List.nil_append]

/-- What is written after the mark of the program in three parts leads through the three. -/
theorem pathOf_parts {name : String} {first second third : List Char}
    (written : name.toList = variablePrefix.toList ++
      (first ++ '_' :: '_' :: (second ++ '_' :: '_' :: third)))
    (some : first ≠ [] ∧ second ≠ [] ∧ third ≠ [])
    (plain : ∀ part ∈ [first, second, third], ∀ c ∈ part,
      c ≠ '_' ∧ c ≠ '.' ∧ Text.isBlank c = false) :
    pathOf? name =
      [first, second, third].map fun part => String.ofList (part.map Char.toLower) := by
  have trimmed : Text.trim name.toList = name.toList := by
    have solid : Text.isBlank (third.getLast some.2.2) = false :=
      (plain third (by simp) _ (List.getLast_mem some.2.2)).2.2
    have ends : name.toList.getLast? = Option.some (third.getLast some.2.2) := by
      rw [written]
      simp [List.getLast?_append, List.getLast?_cons, List.getLast?_eq_some_getLast some.2.2]
    have starts : name.toList.head? = Option.some 'T' := by
      rw [written]
      rfl
    simpa using @Text.trim_surrounded 'T' _ [] _ rfl starts ends rfl solid
  have dropped : dropAnyCase? variablePrefix.toList name.toList =
      Option.some (first ++ '_' :: '_' :: (second ++ '_' :: '_' :: third)) := by
    rw [dropAnyCase?, written, List.map_append, Text.dropBeginning_append, List.drop_left]
    rfl
  have noMark : ∀ part ∈ [first, second, third], '_' ∉ part :=
    fun part among member => (plain part among _ member).1 rfl
  have pieces : Text.splitAt (· == '.') (Text.replaceAll ['_', '_'] ['.']
      (first ++ '_' :: '_' :: (second ++ '_' :: '_' :: third))) = [first, second, third] := by
    have single : Text.splitOn ['_', '_'] third = [third] := Text.splitOn_of_none
      fun occurs => noMark third (by simp) (occurs.subset List.mem_cons_self)
    have behind : Text.splitOn ['_', '_'] (second ++ '_' :: '_' :: third) = [second, third] := by
      rw [← single]
      exact Text.splitOn_append_append (noMark second (by simp)) ['_'] third
    have pieces : Text.splitOn ['_', '_'] (first ++ '_' :: '_' :: (second ++ '_' :: '_' :: third)) =
        [first, second, third] := by
      rw [← behind]
      exact Text.splitOn_append_append (noMark first (by simp)) ['_'] _
    rw [Text.replaceAll, pieces]
    exact Text.splitAt_intercalate (by rfl)
      (fun part among c member => beq_false_of_ne (plain part among c member).2.1) (by simp)
  have whole : ([first, second, third].any List.isEmpty) = false := by
    simp [some.1, some.2.1, some.2.2]
  rw [pathOf?, trimmed, dropped, Option.bind_eq_bind, Option.bind_some, pieces]
  exact if_neg (ne_true_of_eq_false whole)

/-- Every name leads through some key. -/
theorem pathOf_ne_nil {name : String} {path : List String} (leads : pathOf? name = some path) :
    path ≠ [] := by
  unfold pathOf? at leads
  obtain ⟨rest, -, leads⟩ := Option.bind_eq_some_iff.mp leads
  dsimp only at leads
  split at leads
  · cases leads
  · obtain rfl := Option.some.inj leads
    exact mt List.map_eq_nil_iff.mp (Text.splitAt_ne_nil _ _)

/-- The variable leads to the key of the site. -/
theorem pathOf_overrideName {site key : String} (isSite : IsKey site) (isKey : IsKey key) :
    pathOf? (overrideName site key) = some ["indexers", site, key] := by
  obtain ⟨someSite, plainSite, backSite⟩ := toUpper_key isSite
  obtain ⟨someKey, plainKey, backKey⟩ := toUpper_key isKey
  have plainMarks : ∀ c ∈ siteMarks, c ≠ '_' ∧ c ≠ '.' ∧ Text.isBlank c = false :=
    Text.forall_of_all (by decide)
  have backMarks : String.ofList (siteMarks.map Char.toLower) = "indexers" := by decide
  have written := toList_name (site.map Char.toUpper) (key.map Char.toUpper)
  rw [String.toList_map, String.toList_map] at written
  have leads := pathOf_parts written ⟨List.cons_ne_nil _ _, someSite, someKey⟩ (by
    simp only [List.forall_mem_cons, List.not_mem_nil, false_implies, implies_true, and_true]
    exact ⟨plainMarks, plainSite, plainKey⟩)
  rwa [List.map_cons, List.map_cons, List.map_cons, List.map_nil, backMarks, backSite,
    backKey] at leads

end Settings

end Metasearch
