/-
This file settles which keywords stay inside their parameter. The raw input of the example site
puts the keywords into a query as they are, and that query is read again: an ampersand in the
keywords ends the value, a plus sign in it becomes a space, and a percent sign starts an escape
or has the query refused. So the site is told the keywords, its page, and the categories asked
for, each under its own name and nothing else, exactly if the keywords have none of the three
marks.
-/
import Metasearch.Proofs.FourBytes
import Metasearch.Proofs.IntegerTexts
import Metasearch.Proofs.ReadParts
import Metasearch.Proofs.Searches
import Metasearch.Proofs.TemplateJoins
import Metasearch.Rehearsal.Tracker

namespace Metasearch

/-! ### The inputs of the example site -/

namespace Template

/-- The tree of the raw template. -/
def rawNodes : List Node :=
  [.text "q=", .field ["Query", "Keywords"], .text "&page=2",
    .range ["Categories"] [.text "&cat[]=", .field []] []]

theorem read_rawTemplate (name : String) : read name Tracker.rawTemplate = .ok ⟨name, rawNodes⟩ := by
  have nodes : readNodes Tracker.rawTemplate.toList = .ok rawNodes := by cbv
  rw [read, nodes]

theorem readNodes_keywords :
    readNodes "\x7b\x7b .Query.Keywords \x7d\x7d".toList =
      .ok [.field ["Query", "Keywords"]] := by
  cbv

theorem lookup_keywords (name : String) (query : Query) (ids : List Int) :
    lookup name ["Query", "Keywords"] (query.searchContext ids) = .ok (.text query.keywords) := by
  have field : query.toValue.field? "Keywords" = some (.text query.keywords) := by
    obtain ⟨mode, keywords, categories, limit, offset, season, episode, imdbId⟩ := query
    cases episode <;> cases imdbId <;> rfl
  have root : (query.searchContext ids).field? "Query" = some query.toValue := rfl
  simp only [lookup, List.foldlM_cons, List.foldlM_nil, root, bind, Except.bind, field]
  rfl

/-- The categories as the raw template writes them. -/
def categoryText (ids : List Int) : String :=
  String.join (ids.map fun id => "&cat[]=" ++ toString id)

theorem renderNodes_category (name : String) (id : Int) :
    renderNodes name (.int id) [.text "&cat[]=", .field []] =
      .ok ("&cat[]=" ++ toString id) := by
  show Except.ok ("&cat[]=" ++ (toString id ++ "")) = _
  rw [String.append_empty]

theorem mapM_renderNodes_category (name : String) (ids : List Int) :
    (ids.map Value.int).mapM (fun item => renderNodes name item [.text "&cat[]=", .field []]) =
      .ok (ids.map fun id => "&cat[]=" ++ toString id) := by
  induction ids with
  | nil => rfl
  | cons id rest inductionHypothesis =>
    rw [List.map_cons, List.mapM_cons, renderNodes_category, inductionHypothesis]
    rfl

theorem renderNode_categories (name : String) (query : Query) (ids : List Int) :
    renderNode name (query.searchContext ids)
        (.range ["Categories"] [.text "&cat[]=", .field []] []) = .ok (categoryText ids) := by
  have found : lookup name ["Categories"] (query.searchContext ids) =
      .ok (.list (ids.map .int)) := rfl
  cases ids with
  | nil => rfl
  | cons id rest =>
    rw [renderNode, found]
    show (((id :: rest).map Value.int).mapM fun item =>
      renderNodes name item [.text "&cat[]=", .field []]) >>= _ = _
    rw [mapM_renderNodes_category]
    rfl

theorem resolve_rawTemplate (name : String) (query : Query) (ids : List Int) :
    resolve name Tracker.rawTemplate (query.searchContext ids) =
      .ok ("q=" ++ query.keywords ++ "&" ++ ("page=2" ++ categoryText ids)) := by
  have field : renderNode name (query.searchContext ids) (.field ["Query", "Keywords"]) =
      .ok query.keywords := by
    rw [renderNode, lookup_keywords]
    rfl
  rw [resolve, read_rawTemplate]
  show renderNodes name (query.searchContext ids) rawNodes = _
  rw [rawNodes, renderNodes, renderNodes, renderNodes, renderNodes, field, renderNode_categories]
  show Except.ok ("q=" ++ (query.keywords ++ ("&page=2" ++ (categoryText ids ++ "")))) = _
  have marked : "&page=2" = "&" ++ "page=2" := rfl
  rw [String.append_empty, marked]
  simp only [String.append_assoc]

theorem resolve_keywords (name : String) (query : Query) (ids : List Int) :
    resolve name "\x7b\x7b .Query.Keywords \x7d\x7d" (query.searchContext ids) =
      .ok query.keywords := by
  rw [resolve_reference readNodes_keywords, lookup_keywords]
  rfl

end Template

/-! ### The pairs of the raw input -/

namespace Url

/-- A character that is no mark of a query, so that it is read as itself wherever it stands. -/
def isNoMark (c : Char) : Bool :=
  !(['&', '=', '+', '%'].contains c)

theorem not_mem_of_noMarks {text : List Char} (plain : text.all isNoMark = true) {mark : Char}
    (isMark : mark ∈ ['&', '=', '+', '%']) : mark ∉ text := by
  intro member
  have noMark := List.all_eq_true.mp plain mark member
  rw [isNoMark, List.contains_iff_mem.mpr isMark] at noMark
  cases noMark

theorem readPart_of_noMarks {text : String} (plain : text.toList.all isNoMark = true) :
    readPart text.toList = text := by
  have noPercent : '%' ∉ text.toList := not_mem_of_noMarks plain (by decide)
  rw [← String.toList_inj, readPart_eq_self (badEscape_of_noPercent noPercent)]
  exact ⟨noPercent, not_mem_of_noMarks plain (by decide)⟩

/-- A text without an ampersand is one pair, cut at its first equals sign. -/
theorem readPairs_pair {name value : String} (plain : name.toList.all isNoMark = true)
    (whole : '&' ∉ value.toList) :
    readPairs (name ++ "=" ++ value) = [(name, readPart value.toList)] := by
  have shape : (name ++ "=" ++ value).toList = name.toList ++ '=' :: value.toList := by
    simp [String.toList_append]
  have one : ∀ c ∈ name.toList ++ '=' :: value.toList, (c == '&') = false := by
    intro c member
    refine beq_eq_false_iff_ne.mpr ?_
    rintro rfl
    rcases List.mem_append.mp member with inName | inValue
    · exact not_mem_of_noMarks plain (by decide) inName
    · exact whole (List.mem_of_ne_of_mem (by decide) inValue)
  rw [readPairs, shape, Text.splitAt_of_none one, List.filter_cons_of_pos (by simp),
    List.filter_nil, List.map_singleton, readPair,
    Text.cut_single (not_mem_of_noMarks plain (by decide))]
  simp only [readPart_of_noMarks plain]

/-- Texts behind ampersands are read by themselves. -/
theorem readPairs_join (first : String) (rest : List String) :
    readPairs (first ++ String.join (rest.map fun text => "&" ++ text)) =
      readPairs first ++ rest.flatMap readPairs := by
  induction rest generalizing first with
  | nil => rw [List.map_nil, String.join_nil, String.append_empty, List.flatMap_nil, List.append_nil]
  | cons text rest inductionHypothesis =>
    have shape : first ++ ("&" ++ text ++ String.join (rest.map fun text => "&" ++ text)) =
        first ++ "&" ++ (text ++ String.join (rest.map fun text => "&" ++ text)) := by
      simp only [String.append_assoc]
    rw [List.map_cons, String.join_cons, shape, readPairs_append, inductionHypothesis,
      List.flatMap_cons]

theorem isNoMark_of_mem_toString (number : Int) :
    (toString number).toList.all isNoMark = true := by
  refine List.all_eq_true.mpr fun c member => ?_
  rcases Number.mem_toString_cases member with rfl | digit
  · decide
  · have every : ∀ mark ∈ ['&', '=', '+', '%'], mark.isDigit = false :=
      Text.forall_of_all (by decide)
    rw [isNoMark, Bool.not_eq_true', Bool.eq_false_iff]
    intro isMark
    rw [every c (List.contains_iff_mem.mp isMark)] at digit
    cases digit

/-- The page and the categories of the raw input. -/
theorem readPairs_categoryText (ids : List Int) :
    readPairs ("page=2" ++ Template.categoryText ids) =
      ("page", "2") :: ids.map fun id => ("cat[]", toString id) := by
  have each : ∀ id : Int, readPairs ("cat[]" ++ "=" ++ toString id) = [("cat[]", toString id)] := by
    intro id
    have plain := isNoMark_of_mem_toString id
    rw [readPairs_pair (by decide) (not_mem_of_noMarks plain (by decide)),
      readPart_of_noMarks plain]
  have page : readPairs ("page" ++ "=" ++ "2") = [("page", "2")] := by
    rw [readPairs_pair (by decide) (by decide), readPart_of_noMarks (by decide)]
  have texts : Template.categoryText ids = String.join
      ((ids.map fun id => "cat[]" ++ "=" ++ toString id).map fun text => "&" ++ text) := by
    rw [Template.categoryText, List.map_map]
    rfl
  have pairs : (ids.map fun id => "cat[]" ++ "=" ++ toString id).flatMap readPairs =
      ids.map fun id => ("cat[]", toString id) := by
    simp only [List.flatMap_map, each]
    exact List.flatMap_pure_eq_map _ _
  rw [texts, readPairs_join, pairs]
  exact congrArg (· ++ _) page

theorem noPercent_categoryText (ids : List Int) :
    '%' ∉ ("page=2" ++ Template.categoryText ids).toList := by
  rw [String.toList_append, List.mem_append, Template.categoryText, String.toList_join]
  rintro (inPage | inCategories)
  · exact absurd inPage (by decide)
  · obtain ⟨text, isText, inText⟩ := List.mem_flatMap.mp inCategories
    obtain ⟨id, -, rfl⟩ := List.mem_map.mp isText
    rw [String.toList_append, List.mem_append] at inText
    rcases inText with inName | inNumber
    · exact absurd inName (by decide)
    · exact not_mem_of_noMarks (isNoMark_of_mem_toString id) (by decide) inNumber

end Url

/-! ### What is sent -/

namespace Indexer

open Url (readPairs readPart badEscape?)

/-- The values of a name among parameters. -/
def valuesOf (name : String) (params : List (String × String)) : List String :=
  (params.filter fun param => param.1 == name).map Prod.snd

/-- The local numbers of the categories of a request, at the example site. -/
def trackerIds (query : Query) : List Int :=
  Tracker.definition.capabilities.categories.localIds query.categories

/-- What is sent for a request has each thing under its own name, and nothing else. -/
structure StaysInside (query : Query) (params : List (String × String)) : Prop where
  raw : valuesOf "q" params = [query.keywords]
  named : valuesOf "search" params = [query.keywords]
  page : valuesOf "page" params = ["2"]
  categories : valuesOf "cat[]" params = (trackerIds query).map toString
  names : ∀ param ∈ params, param.1 ∈ ["q", "page", "cat[]", "search"]

variable {Kind : Type}

/-- The page, the categories and the plain keywords, as they are sent behind the raw keywords. -/
def sentBehind (query : Query) : List (String × String) :=
  (("page", "2") :: (trackerIds query).map fun id => ("cat[]", toString id)) ++
    [("search", query.keywords)]

/-- What the raw input of the example site comes to. -/
def rawInputOf (query : Query) : String :=
  "q=" ++ query.keywords ++ "&" ++ ("page=2" ++ Template.categoryText (trackerIds query))

theorem searchParams_tracker (store : Kind) (now : Calendar.Instant) (query : Query) :
    (⟨Tracker.definition, store, now⟩ : Indexer Kind).searchParams query =
      (readRawInput (rawInputOf query)).map (· ++ [("search", query.keywords)]) := by
  have raw : inputParams (query.searchContext (trackerIds query)) Definition.rawInput
      Tracker.rawTemplate = readRawInput (rawInputOf query) := by
    simp only [inputParams, Template.resolve_rawTemplate]
    rfl
  have named : inputParams (query.searchContext (trackerIds query)) "search"
      "\x7b\x7b .Query.Keywords \x7d\x7d" = .ok [("search", query.keywords)] := by
    simp only [inputParams, Template.resolve_keywords]
    rfl
  show paramsOf (query.searchContext (trackerIds query)) [(Definition.rawInput, Tracker.rawTemplate),
    ("search", "\x7b\x7b .Query.Keywords \x7d\x7d")] = _
  rw [paramsOf_cons, paramsOf_cons, raw, named]
  cases readRawInput (rawInputOf query) <;> rfl

/-- What is wrong with the raw input is what is wrong with the keywords. -/
theorem badEscape_rawInputOf (query : Query) :
    badEscape? (rawInputOf query).toList =
      (badEscape? query.keywords.toList).map fun rest =>
        rest ++ '&' :: ("page=2" ++ Template.categoryText (trackerIds query)).toList := by
  have shape : (rawInputOf query).toList = 'q' :: '=' :: (query.keywords.toList ++
      '&' :: ("page=2" ++ Template.categoryText (trackerIds query)).toList) := by
    simp [rawInputOf, String.toList_append]
  rw [shape, badEscape_cons (by decide), badEscape_cons (by decide),
    Url.badEscape_append (by decide) (by decide),
    Url.badEscape_of_noPercent (Url.noPercent_categoryText _)]
  cases badEscape? query.keywords.toList <;> rfl

/-- Keywords that are a query are sent as the pairs of that query, in front of the others. -/
theorem searchParams_of_none (store : Kind) (now : Calendar.Instant) {query : Query}
    (sound : badEscape? query.keywords.toList = none) :
    (⟨Tracker.definition, store, now⟩ : Indexer Kind).searchParams query =
      .ok (readPairs ("q=" ++ query.keywords) ++ sentBehind query) := by
  have whole : badEscape? (rawInputOf query).toList = none := by
    rw [badEscape_rawInputOf, sound]
    rfl
  rw [searchParams_tracker, readRawInput_of_none whole, rawInputOf, Url.readPairs_append,
    Url.readPairs_categoryText]
  exact congrArg Except.ok (List.append_assoc _ _ _)

/-- Keywords that are no query are refused. -/
theorem searchParams_of_some (store : Kind) (now : Calendar.Instant) {query : Query}
    {rest : List Char} (bad : badEscape? query.keywords.toList = some rest) :
    ∃ escape, (⟨Tracker.definition, store, now⟩ : Indexer Kind).searchParams query =
      .error (.badRawInput (rawInputOf query) escape) := by
  obtain ⟨more, whole⟩ : ∃ more, badEscape? (rawInputOf query).toList = some more := by
    rw [badEscape_rawInputOf, bad]
    exact ⟨_, rfl⟩
  rw [searchParams_tracker, readRawInput_of_some whole]
  exact ⟨_, rfl⟩

/-- Keywords without marks stay inside their parameter. -/
theorem staysInside_of_absent {query : Query}
    (absent : ∀ mark ∈ ['&', '%', '+'], mark ∉ query.keywords.toList) :
    StaysInside query (readPairs ("q=" ++ query.keywords) ++ sentBehind query) := by
  have value : readPart query.keywords.toList = query.keywords := by
    have noPercent := absent '%' (by decide)
    rw [← String.toList_inj, Url.readPart_eq_self (Url.badEscape_of_noPercent noPercent)]
    exact ⟨noPercent, absent '+' (by decide)⟩
  have pair : readPairs ("q" ++ "=" ++ query.keywords) = [("q", query.keywords)] := by
    rw [Url.readPairs_pair (by decide) (absent '&' (by decide)), value]
  rw [show "q=" = "q" ++ "=" from rfl, pair]
  constructor
  case names =>
    intro param member
    simp only [sentBehind, List.mem_append, List.mem_cons, List.not_mem_nil, or_false,
      List.mem_map] at member
    rcases member with rfl | (rfl | ⟨id, -, rfl⟩) | rfl <;> simp
  all_goals simp [valuesOf, sentBehind, List.filter_map, Function.comp_def]

/-- The value of the raw keywords, if it ends at some place, is what is read in front of that. -/
theorem value_of_raw {query : Query} {value : String} {others : List (String × String)}
    (pairs : readPairs ("q=" ++ query.keywords) = ("q", value) :: others)
    (inside : valuesOf "q" (readPairs ("q=" ++ query.keywords) ++ sentBehind query) =
      [query.keywords]) : value = query.keywords := by
  rw [pairs, List.cons_append, valuesOf, List.filter_cons_of_pos (by simp), List.map_cons] at inside
  exact (List.cons.inj inside).1

/-- Keywords whose value is the keywords themselves have no marks: it would have ended at an
ampersand, and it would have become another text with a percent sign or a plus sign. -/
theorem absent_of_inside {query : Query} (sound : badEscape? query.keywords.toList = none)
    (inside : valuesOf "q" (readPairs ("q=" ++ query.keywords) ++ sentBehind query) =
      [query.keywords]) :
    ∀ mark ∈ ['&', '%', '+'], mark ∉ query.keywords.toList := by
  have noAmpersand : '&' ∉ query.keywords.toList := by
    intro present
    obtain ⟨value, behind, shape, whole⟩ := List.eq_append_cons_of_mem present
    have soundValue : badEscape? value = none := by
      rw [shape, Url.badEscape_append (by decide) (by decide)] at sound
      cases found : badEscape? value with
      | none => rfl
      | some rest => rw [found] at sound; cases sound
    have texts : "q=" ++ query.keywords =
        "q" ++ "=" ++ String.ofList value ++ "&" ++ String.ofList behind := by
      rw [← String.toList_inj]
      simp [String.toList_append, shape]
    have pairs : readPairs ("q=" ++ query.keywords) =
        ("q", readPart value) :: readPairs (String.ofList behind) := by
      rw [texts, Url.readPairs_append, Url.readPairs_pair (by decide) (by simpa using whole),
        String.toList_ofList]
      rfl
    have shorter := Url.length_readPart soundValue
    rw [value_of_raw pairs inside, shape, List.length_append, List.length_cons] at shorter
    omega
  have pairs : readPairs ("q" ++ "=" ++ query.keywords) = [("q", readPart query.keywords.toList)] :=
    Url.readPairs_pair (by decide) noAmpersand
  have same : (readPart query.keywords.toList).toList = query.keywords.toList :=
    congrArg String.toList (value_of_raw pairs inside)
  obtain ⟨noPercent, noPlus⟩ := (Url.readPart_eq_self sound).mp same
  simp only [List.forall_mem_cons, List.not_mem_nil, false_implies, implies_true, and_true]
  exact ⟨noAmpersand, noPercent, noPlus⟩

/-- The keywords of a request stay inside their parameter at the example site exactly if they
have neither an ampersand nor a percent sign nor a plus sign; and the request is refused exactly
if they have a percent sign that starts no escape. -/
theorem searchParams_staysInside (store : Kind) (now : Calendar.Instant) (query : Query) :
    let outcome := (⟨Tracker.definition, store, now⟩ : Indexer Kind).searchParams query
    ((∃ params, outcome = .ok params ∧ StaysInside query params) ↔
      ∀ mark ∈ ['&', '%', '+'], mark ∉ query.keywords.toList) ∧
    ((∃ error, outcome = .error error) ↔
      ∃ place, IsLoose (Text.encode query.keywords.toList) place) := by
  intro outcome
  have found := finds_badEscape query.keywords.toList
  cases sound : badEscape? query.keywords.toList with
  | none =>
    rw [sound] at found
    have sent : outcome = .ok (readPairs ("q=" ++ query.keywords) ++ sentBehind query) :=
      searchParams_of_none store now sound
    rw [sent]
    refine ⟨⟨?_, fun absent => ⟨_, rfl, staysInside_of_absent absent⟩⟩, ⟨?_, ?_⟩⟩
    · rintro ⟨params, same, inside⟩
      obtain rfl := Except.ok.inj same
      exact absent_of_inside sound inside.raw
    · rintro ⟨error, failed⟩
      cases failed
    · rintro ⟨place, loose⟩
      exact absurd loose (found place)
  | some rest =>
    rw [sound] at found
    obtain ⟨place, ⟨loose, -⟩, -⟩ := found
    obtain ⟨escape, refused⟩ : ∃ escape,
        outcome = .error (.badRawInput (rawInputOf query) escape) :=
      searchParams_of_some store now sound
    rw [refused]
    refine ⟨⟨?_, fun absent => ?_⟩, ⟨fun _ => ⟨place, loose⟩, fun _ => ⟨_, rfl⟩⟩⟩
    · rintro ⟨params, same, -⟩
      cases same
    · rw [Url.badEscape_of_noPercent (absent '%' (by decide))] at sound
      cases sound

/-- Keywords with an ampersand in them. -/
def ampersandQuery : Query :=
  { Query.ofMode "search" with keywords := "a&b=c" }

/-- Such keywords are cut short, and what stands behind the ampersand is sent under a name of its
own. -/
theorem searchParams_ampersand :
    let outcome := (⟨Tracker.definition, (), ⟨0, 0⟩⟩ : Indexer Unit).searchParams ampersandQuery
    outcome = .ok [("q", "a"), ("b", "c"), ("page", "2"), ("search", "a&b=c")] ∧
      ¬ ∃ params, outcome = .ok params ∧ StaysInside ampersandQuery params := by
  intro outcome
  have pairs : readPairs ("q=" ++ ampersandQuery.keywords) = [("q", "a"), ("b", "c")] := by cbv
  have sent : outcome = .ok [("q", "a"), ("b", "c"), ("page", "2"), ("search", "a&b=c")] := by
    have whole : outcome = .ok (_ ++ sentBehind ampersandQuery) :=
      searchParams_of_none () ⟨0, 0⟩ rfl
    rw [whole, pairs]
    rfl
  refine ⟨sent, ?_⟩
  rintro ⟨params, same, inside⟩
  obtain rfl := Except.ok.inj (sent.symm.trans same)
  exact absurd inside.raw (by decide)

end Indexer

end Metasearch
