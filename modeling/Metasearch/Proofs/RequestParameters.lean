/-
This file settles which search request parameters ask for. They are refused exactly if a category
list, a limit or an offset among them is malformed, whatever comes behind it, and the first such
parameter says why. Otherwise each field of the request is what the last parameter of its key says,
or is left open, and parameters of other keys do not count. So it makes no difference in which order
parameters of different keys come.

A category list is cut at its commas. Blanks around an entry and entries without anything but blanks
do not count, so any numbers are found again, in their order, whatever blanks and commas are written
between them.
-/
import Mathlib.Logic.Function.Basic
import Metasearch.Proofs.CanonicalTimestamps
import Metasearch.Proofs.ReadIntegers
import Metasearch.Query

namespace Metasearch.Query

open Number (IsDigits IsSigned IsUnsigned isWithin maxSigned maxUnsigned)

/-! ### Values -/

/-- What is written for a category. -/
def IsCategory (entry : List Char) (id : Int) : Prop :=
  IsSigned entry id ∧ isWithin maxSigned id = true

/-- What is written for a number of results. -/
def IsCount (value : String) (count : Nat) : Prop :=
  IsUnsigned value.toList count ∧ count ≤ maxUnsigned

/-- The entries of a list of categories: what stands between its commas, but for blanks at the ends,
where anything else stands there. -/
def entriesOf (value : String) : List (List Char) :=
  ((Text.splitAt (· == ',') value.toList).map Text.trim).filter fun entry => !entry.isEmpty

theorem readCount_eq_ok_iff {malformed : String → Error} {value : String} {count : Nat} :
    readCount malformed value = .ok count ↔ IsCount value count :=
  mapError_eq_ok.trans Number.readUnsigned_eq_ok_iff

theorem readCount_eq_error_iff {malformed : String → Error} {value : String} {error : Error} :
    readCount malformed value = .error error ↔
      (∀ count, ¬ IsCount value count) ∧ error = malformed value := by
  rw [readCount, mapError_const_eq_error]
  exact and_congr_left' (forall_congr' fun count => not_congr Number.readUnsigned_eq_ok_iff)

/-- How one entry is read. -/
theorem readEntry_eq_ok_iff {entry : List Char} {id : Int} :
    ((Number.readSigned entry).mapError fun _ => Error.invalidCategory (String.ofList entry)) =
      .ok id ↔ IsCategory entry id :=
  mapError_eq_ok.trans Number.readSigned_eq_ok_iff

theorem readEntry_eq_error_iff {entry : List Char} {error : Error} :
    ((Number.readSigned entry).mapError fun _ => Error.invalidCategory (String.ofList entry)) =
      .error error ↔
        (∀ id, ¬ IsCategory entry id) ∧ error = .invalidCategory (String.ofList entry) := by
  rw [mapError_const_eq_error]
  exact and_congr_left' (forall_congr' fun id => not_congr Number.readSigned_eq_ok_iff)

theorem readCategories_eq_ok_iff {value : String} {ids : List Int} :
    readCategories value = .ok ids ↔ List.Forall₂ IsCategory (entriesOf value) ids :=
  ⟨fun read => (forall₂_of_mapM read).imp fun _ _ => readEntry_eq_ok_iff.mp,
    fun each => mapM_of_forall₂ (each.imp fun _ _ => readEntry_eq_ok_iff.mpr)⟩

/-! ### Malformed parameters -/

/-- A parameter is malformed: it is a category list with an entry that is no category, or a number
of results that is none. -/
inductive IsMalformed (key value : String) : Error → Prop
  | category {before behind : List (List Char)} {entry : List Char} (isKey : key = "cat")
      (entries : entriesOf value = before ++ entry :: behind)
      (fine : ∀ earlier ∈ before, ∃ id, IsCategory earlier id)
      (wrong : ∀ id, ¬ IsCategory entry id) :
      IsMalformed key value (.invalidCategory (String.ofList entry))
  | limit (isKey : key = "limit") (wrong : ∀ count, ¬ IsCount value count) :
      IsMalformed key value (.invalidLimit value)
  | offset (isKey : key = "offset") (wrong : ∀ count, ¬ IsCount value count) :
      IsMalformed key value (.invalidOffset value)

/-! #### By the key -/

variable {value : String} {error : Error}

theorem isMalformed_category_iff :
    IsMalformed "cat" value error ↔ readCategories value = .error error := by
  rw [readCategories, mapM_eq_error_iff]
  simp only [readEntry_eq_ok_iff, readEntry_eq_error_iff]
  constructor
  · intro malformed
    cases malformed with
    | category isKey entries fine wrong => exact ⟨_, _, _, entries, fine, wrong, rfl⟩
    | limit isKey => exact absurd isKey (by decide)
    | offset isKey => exact absurd isKey (by decide)
  · rintro ⟨before, entry, behind, entries, fine, wrong, rfl⟩
    exact .category rfl entries fine wrong

theorem isMalformed_limit_iff :
    IsMalformed "limit" value error ↔ readCount .invalidLimit value = .error error := by
  rw [readCount_eq_error_iff]
  constructor
  · intro malformed
    cases malformed with
    | category isKey => exact absurd isKey (by decide)
    | limit isKey wrong => exact ⟨wrong, rfl⟩
    | offset isKey => exact absurd isKey (by decide)
  · rintro ⟨wrong, rfl⟩
    exact .limit rfl wrong

theorem isMalformed_offset_iff :
    IsMalformed "offset" value error ↔ readCount .invalidOffset value = .error error := by
  rw [readCount_eq_error_iff]
  constructor
  · intro malformed
    cases malformed with
    | category isKey => exact absurd isKey (by decide)
    | limit isKey => exact absurd isKey (by decide)
    | offset isKey wrong => exact ⟨wrong, rfl⟩
  · rintro ⟨wrong, rfl⟩
    exact .offset rfl wrong

/-! ### One parameter -/

/-- The keys of the parameters that count. -/
def countedKeys : List String :=
  ["t", "q", "cat", "limit", "offset", "season", "ep", "imdbid"]

theorem IsMalformed.key_cases {key : String} (malformed : IsMalformed key value error) :
    key = "cat" ∨ key = "limit" ∨ key = "offset" := by
  cases malformed with
  | category isKey => exact .inl isKey
  | limit isKey => exact .inr (.inl isKey)
  | offset isKey => exact .inr (.inr isKey)

theorem IsMalformed.counted {key : String} (malformed : IsMalformed key value error) :
    key ∈ countedKeys := by
  rcases malformed.key_cases with rfl | rfl | rfl <;> decide

theorem withParam_of_not_counted {key : String} (other : key ∉ countedKeys) (query : Query)
    (value : String) : query.withParam (key, value) = .ok query := by
  simp only [countedKeys, List.mem_cons, List.not_mem_nil, or_false, not_or] at other
  simp [withParam, other]

theorem withParam_eq_error_iff (query : Query) (param : String × String) (error : Error) :
    query.withParam param = .error error ↔ IsMalformed param.1 param.2 error := by
  obtain ⟨key, value⟩ := param
  by_cases counted : key ∈ countedKeys
  · simp only [countedKeys, List.mem_cons, List.not_mem_nil, or_false] at counted
    rcases counted with rfl | rfl | rfl | rfl | rfl | rfl | rfl | rfl
    case inr.inr.inl => exact map_eq_error.trans isMalformed_category_iff.symm
    case inr.inr.inr.inl => exact map_eq_error.trans isMalformed_limit_iff.symm
    case inr.inr.inr.inr.inl => exact map_eq_error.trans isMalformed_offset_iff.symm
    all_goals
      exact iff_of_false nofun fun malformed =>
        absurd malformed.key_cases (by dsimp only; decide)
  · rw [withParam_of_not_counted counted]
    exact iff_of_false nofun fun malformed => counted malformed.counted

/-! ### All parameters -/

/-- The request is what the last parameters of the keys ask for. -/
structure IsGivenBy (last : String → Option String) (query : Query) : Prop where
  mode : query.mode = (last "t").getD "search"
  keywords : query.keywords = (last "q").getD ""
  categories : List.Forall₂ IsCategory (entriesOf ((last "cat").getD "")) query.categories
  limit : Option.Rel IsCount (last "limit") query.limit
  offset : Option.Rel IsCount (last "offset") query.offset
  season : query.season = last "season"
  episode : query.episode = last "ep"
  imdbId : query.imdbId = last "imdbid"

theorem IsGivenBy.congr {last other : String → Option String} {query : Query}
    (given : IsGivenBy last query) (same : ∀ key ∈ countedKeys, last key = other key) :
    IsGivenBy other query where
  mode := same "t" (by decide) ▸ given.mode
  keywords := same "q" (by decide) ▸ given.keywords
  categories := same "cat" (by decide) ▸ given.categories
  limit := same "limit" (by decide) ▸ given.limit
  offset := same "offset" (by decide) ▸ given.offset
  season := same "season" (by decide) ▸ given.season
  episode := same "ep" (by decide) ▸ given.episode
  imdbId := same "imdbid" (by decide) ▸ given.imdbId

/-- One more parameter is the last of its key. -/
theorem IsGivenBy.withParam {last : String → Option String} {query next : Query}
    (given : IsGivenBy last query) {key value : String}
    (taken : query.withParam (key, value) = .ok next) :
    IsGivenBy (Function.update last key (some value)) next := by
  by_cases counted : key ∈ countedKeys
  · simp only [countedKeys, List.mem_cons, List.not_mem_nil, or_false] at counted
    rcases counted with rfl | rfl | rfl | rfl | rfl | rfl | rfl | rfl
    · obtain rfl := Except.ok.inj taken
      exact { given with mode := rfl }
    · obtain rfl := Except.ok.inj taken
      exact { given with keywords := rfl }
    · obtain ⟨categories, read, rfl⟩ := map_eq_ok.mp taken
      exact { given with categories := readCategories_eq_ok_iff.mp read }
    · obtain ⟨limit, read, rfl⟩ := map_eq_ok.mp taken
      exact { given with limit := .some (readCount_eq_ok_iff.mp read) }
    · obtain ⟨offset, read, rfl⟩ := map_eq_ok.mp taken
      exact { given with offset := .some (readCount_eq_ok_iff.mp read) }
    · obtain rfl := Except.ok.inj taken
      exact { given with season := rfl }
    · obtain rfl := Except.ok.inj taken
      exact { given with episode := rfl }
    · obtain rfl := Except.ok.inj taken
      exact { given with imdbId := rfl }
  · rw [withParam_of_not_counted counted] at taken
    obtain rfl := Except.ok.inj taken
    refine given.congr fun other isCounted => (Function.update_of_ne ?_ _ _).symm
    rintro rfl
    exact counted isCounted

/-- The last value of each key. -/
def lastOf (params : List (String × String)) (key : String) : Option String :=
  params.reverse.lookup key

theorem lastOf_concat (params : List (String × String)) (key value : String) :
    lastOf (params ++ [(key, value)]) = Function.update (lastOf params) key (some value) := by
  funext other
  rw [lastOf, List.reverse_append, List.reverse_singleton, List.singleton_append]
  by_cases same : other = key
  · rw [same, List.lookup_cons_self, Function.update_self]
  · rw [List.lookup_cons, beq_false_of_ne same, Function.update_of_ne same]
    rfl

theorem isGivenBy_of_ofParams {params : List (String × String)} {query : Query}
    (read : ofParams params = .ok query) : IsGivenBy (lastOf params) query := by
  induction params using List.reverseRecOn generalizing query with
  | nil =>
    obtain rfl := Except.ok.inj read
    exact ⟨rfl, rfl, .nil, .none, .none, rfl, rfl, rfl⟩
  | append_singleton front param inductionHypothesis =>
    simp only [ofParams, List.foldlM_append, List.foldlM_cons, List.foldlM_nil, bind_pure] at read
    obtain ⟨before, readFront, taken⟩ := except_of_bind read
    rw [lastOf_concat]
    exact (inductionHypothesis readFront).withParam taken

theorem IsCount.unique {first second : Nat} (isCount : IsCount value first)
    (also : IsCount value second) : first = second := by
  have read : readCount .invalidLimit value = .ok first := readCount_eq_ok_iff.mpr isCount
  exact Except.ok.inj (read.symm.trans (readCount_eq_ok_iff.mpr also))

theorem eq_of_rel_isCount {asked : Option String} {first second : Option Nat}
    (isCount : Option.Rel IsCount asked first) (also : Option.Rel IsCount asked second) :
    first = second := by
  cases isCount with
  | some isCount =>
    cases also with
    | some also => exact congrArg some (isCount.unique also)
  | none =>
    cases also with
    | none => rfl

theorem IsGivenBy.unique {last : String → Option String} {query other : Query}
    (given : IsGivenBy last query) (also : IsGivenBy last other) : query = other := by
  have categories : query.categories = other.categories :=
    Except.ok.inj ((readCategories_eq_ok_iff.mpr given.categories).symm.trans
      (readCategories_eq_ok_iff.mpr also.categories))
  have limit := eq_of_rel_isCount given.limit also.limit
  have offset := eq_of_rel_isCount given.offset also.offset
  rw [Query.mk.injEq]
  exact ⟨given.mode.trans also.mode.symm, given.keywords.trans also.keywords.symm, categories,
    limit, offset, given.season.trans also.season.symm, given.episode.trans also.episode.symm,
    given.imdbId.trans also.imdbId.symm⟩

theorem ofParams_eq_error_iff {params : List (String × String)} :
    ofParams params = .error error ↔ ∃ before param behind, params = before ++ param :: behind ∧
      (∀ earlier ∈ before, ∀ other, ¬ IsMalformed earlier.1 earlier.2 other) ∧
      IsMalformed param.1 param.2 error :=
  foldlM_eq_error_iff withParam_eq_error_iff

/-- Parameters make a request exactly if none is malformed, and then it is what the last ones ask
for. -/
theorem ofParams_eq_ok_iff {params : List (String × String)} {query : Query} :
    ofParams params = .ok query ↔
      (∀ param ∈ params, ∀ error, ¬ IsMalformed param.1 param.2 error) ∧
        IsGivenBy (lastOf params) query := by
  constructor
  · intro read
    refine ⟨fun param member error malformed => ?_, isGivenBy_of_ofParams read⟩
    obtain ⟨before, next, taken⟩ := exists_step_of_foldlM read member
    cases taken.symm.trans ((withParam_eq_error_iff before param error).mpr malformed)
  · rintro ⟨fine, given⟩
    cases outcome : ofParams params with
    | error error =>
      obtain ⟨before, param, behind, rfl, -, malformed⟩ := ofParams_eq_error_iff.mp outcome
      exact absurd malformed (fine param (by simp) error)
    | ok other => rw [(isGivenBy_of_ofParams outcome).unique given]

/-! ### The order of parameters -/

theorem lookup_filter_key (key : String) (params : List (String × String)) :
    (params.filter fun param => param.1 == key).lookup key = params.lookup key := by
  induction params with
  | nil => rfl
  | cons param rest inductionHypothesis =>
    obtain ⟨other, value⟩ := param
    by_cases same : other = key
    · rw [List.filter_cons_of_pos (by simpa using same), same, List.lookup_cons_self,
        List.lookup_cons_self]
    · rw [List.filter_cons_of_neg (by simpa using same), inductionHypothesis, List.lookup_cons,
        beq_false_of_ne (Ne.symm same)]

theorem lastOf_filter_key (key : String) (params : List (String × String)) :
    lastOf (params.filter fun param => param.1 == key) key = lastOf params key := by
  rw [lastOf, ← List.filter_reverse, lookup_filter_key, lastOf]

/-- The same parameters under each key that counts make the same request. -/
theorem ofParams_of_same {params others : List (String × String)} {query : Query}
    (same : ∀ key ∈ countedKeys, others.filter (fun param => param.1 == key) =
      params.filter fun param => param.1 == key)
    (read : ofParams params = .ok query) : ofParams others = .ok query := by
  obtain ⟨fine, given⟩ := ofParams_eq_ok_iff.mp read
  refine ofParams_eq_ok_iff.mpr ⟨fun param member error malformed => ?_, ?_⟩
  · have among : param ∈ others.filter fun other => other.1 == param.1 :=
      List.mem_filter.mpr ⟨member, beq_self_eq_true _⟩
    rw [same _ malformed.counted] at among
    exact fine param (List.mem_filter.mp among).1 error malformed
  · refine given.congr fun key counted => ?_
    rw [← lastOf_filter_key, ← same key counted, lastOf_filter_key]

theorem foldlM_withParam_counted (params : List (String × String)) (start : Query) :
    (params.filter fun param => countedKeys.contains param.1).foldlM withParam start =
      params.foldlM withParam start := by
  induction params generalizing start with
  | nil => rfl
  | cons param rest inductionHypothesis =>
    by_cases counted : param.1 ∈ countedKeys
    · rw [List.filter_cons_of_pos (by simpa using counted), List.foldlM_cons, List.foldlM_cons]
      exact congrArg _ (funext inductionHypothesis)
    · rw [List.filter_cons_of_neg (by simpa using counted), inductionHypothesis,
        List.foldlM_cons, withParam_of_not_counted counted]
      rfl

/-! ### Written category lists -/

/-- An entry of a written category list: a category or none, with blanks on both sides. -/
structure Entry where
  before : List Char
  id : Option Int
  behind : List Char

/-- What stands in an entry besides blanks. -/
def Entry.bare (entry : Entry) : List Char :=
  (entry.id.map fun id => (toString id).toList).getD []

/-- An entry as it is written. -/
def Entry.text (entry : Entry) : List Char :=
  entry.before ++ entry.bare ++ entry.behind

/-- The entry has blanks on its sides, and a category of 64 bits if it has one. -/
structure Entry.IsPlain (entry : Entry) : Prop where
  before : entry.before.all Text.isBlank = true
  behind : entry.behind.all Text.isBlank = true
  within : ∀ id ∈ entry.id, isWithin maxSigned id = true

/-- A category list: its entries with commas between them. -/
def joined (entries : List Entry) : String :=
  String.ofList ([','].intercalate (entries.map Entry.text))

theorem solid_of_mem_toString {id : Int} {c : Char} (member : c ∈ (toString id).toList) :
    Text.isBlank c = false ∧ c ≠ ',' := by
  rcases Number.mem_toString_cases member with rfl | digit
  · decide
  · refine ⟨(Calendar.solid_of_isDigit digit).1, ?_⟩
    rintro rfl
    exact absurd digit (by decide)

theorem Entry.IsPlain.trim_text {entry : Entry} (plain : entry.IsPlain) :
    Text.trim entry.text = entry.bare := by
  obtain ⟨before, id, behind⟩ := entry
  obtain ⟨blankBefore, blankBehind, -⟩ := plain
  cases id with
  | none => exact Text.trim_padded blankBefore blankBehind []
  | some id =>
    have solid : ∀ c ∈ (toString id).toList, Text.isBlank c = false :=
      fun c member => (solid_of_mem_toString member).1
    have present := Number.toString_ne_nil id
    exact Text.trim_between blankBefore blankBehind (List.head?_eq_some_head present)
      (List.getLast?_eq_some_getLast present) (solid _ (List.head_mem present))
      (solid _ (List.getLast_mem present))

theorem Entry.IsPlain.no_comma {entry : Entry} (plain : entry.IsPlain) :
    ∀ c ∈ entry.text, (c == ',') = false := by
  intro c member
  refine beq_eq_false_iff_ne.mpr ?_
  rintro rfl
  rcases List.mem_append.mp member with member | behind
  · rcases List.mem_append.mp member with before | bare
    · exact Text.not_mem_of_blank plain.before rfl before
    · obtain ⟨before, id, behind⟩ := entry
      cases id with
      | none => cases bare
      | some id => exact (solid_of_mem_toString bare).2 rfl
  · exact Text.not_mem_of_blank plain.behind rfl behind

theorem splitAt_joined {entries : List Entry} (plain : ∀ entry ∈ entries, entry.IsPlain)
    (present : entries ≠ []) :
    Text.splitAt (· == ',') (joined entries).toList = entries.map Entry.text := by
  rw [joined, String.toList_ofList]
  refine Text.splitAt_intercalate (by decide) ?_ (by simpa using present)
  exact List.forall_mem_map.mpr fun entry member => (plain entry member).no_comma

/-- Entries without a category leave nothing. -/
theorem filter_bare (entries : List Entry) :
    ((entries.map Entry.bare).filter fun entry => !entry.isEmpty) =
      (entries.filterMap Entry.id).map fun id => (toString id).toList := by
  induction entries with
  | nil => rfl
  | cons entry rest inductionHypothesis =>
    obtain ⟨before, id, behind⟩ := entry
    cases id with
    | none => exact inductionHypothesis
    | some id =>
      have present := Number.toString_ne_nil id
      rw [List.map_cons, List.filter_cons_of_pos (by simpa [Entry.bare] using present),
        inductionHypothesis]
      rfl

theorem entriesOf_joined {entries : List Entry} (plain : ∀ entry ∈ entries, entry.IsPlain) :
    entriesOf (joined entries) =
      (entries.filterMap Entry.id).map fun id => (toString id).toList := by
  cases entries with
  | nil => rfl
  | cons entry rest =>
    have trimmed : (entry :: rest).map (Text.trim ∘ Entry.text) = (entry :: rest).map Entry.bare :=
      List.map_congr_left fun other member => (plain other member).trim_text
    rw [entriesOf, splitAt_joined plain (List.cons_ne_nil entry rest), List.map_map, trimmed,
      filter_bare]

/-- The categories of a written list are found again. -/
theorem readCategories_joined {entries : List Entry} (plain : ∀ entry ∈ entries, entry.IsPlain) :
    readCategories (joined entries) = .ok (entries.filterMap Entry.id) := by
  rw [readCategories_eq_ok_iff, entriesOf_joined plain, List.forall₂_map_left_iff,
    List.forall₂_same]
  intro id member
  obtain ⟨entry, isEntry, isId⟩ := List.mem_filterMap.mp member
  have within := (plain entry isEntry).within id isId
  exact Number.readSigned_eq_ok_iff.mp (Number.readSigned_toString within)

/-! ### The request of a list of parameters -/

/-- Parameters are refused with the error of the first malformed one among them, and otherwise make
the one request that the last of each key ask for. Parameters of other keys do not count, and
neither does the order of parameters with different keys. A category list that is written with any
blanks and empty entries gives its categories. -/
theorem ofParams_decided (params : List (String × String)) :
    (∀ error, ofParams params = .error error ↔
      ∃ before param behind, params = before ++ param :: behind ∧
        (∀ earlier ∈ before, ∀ other, ¬ IsMalformed earlier.1 earlier.2 other) ∧
        IsMalformed param.1 param.2 error) ∧
    (∀ query, ofParams params = .ok query ↔
      (∀ param ∈ params, ∀ error, ¬ IsMalformed param.1 param.2 error) ∧
        IsGivenBy (lastOf params) query) ∧
    ofParams (params.filter fun param => countedKeys.contains param.1) = ofParams params ∧
    (∀ others : List (String × String),
      (∀ key ∈ countedKeys, others.filter (fun param => param.1 == key) =
        params.filter fun param => param.1 == key) →
      ∀ query, ofParams others = .ok query ↔ ofParams params = .ok query) ∧
    ∀ entries : List Entry, (∀ entry ∈ entries, entry.IsPlain) →
      lastOf params "cat" = some (joined entries) →
      (∀ error, ¬ IsMalformed "cat" (joined entries) error) ∧
        ∀ query, ofParams params = .ok query →
          query.categories = entries.filterMap Entry.id := by
  refine ⟨fun error => ofParams_eq_error_iff, fun query => ofParams_eq_ok_iff,
    foldlM_withParam_counted params _, fun others same query => ?_, fun entries plain last => ?_⟩
  · exact ⟨ofParams_of_same fun key counted => (same key counted).symm, ofParams_of_same same⟩
  · have found := readCategories_joined plain
    refine ⟨fun error malformed => ?_, fun query read => ?_⟩
    · cases found.symm.trans (isMalformed_category_iff.mp malformed)
    · have given := (isGivenBy_of_ofParams read).categories
      rw [last] at given
      exact Except.ok.inj ((readCategories_eq_ok_iff.mpr given).symm.trans found)

end Metasearch.Query
