/-
This file settles what it says when a site passes its test. A test is passed exactly if the search
of every mode comes to results, and each of these has a title, a size, a link, a site and a
category. There are no more results than a test asks for, and each is the item of a row of the page
that its search read.

What the test looks at is the link of the item, not the text that the row has for it. The link is
where that text leads to from the page, so it is blank only if the text leads nowhere. A blank
text does lead somewhere, to the page itself; hence a row without any text for its link passes.
-/
import Metasearch.Proofs.RowCounts
import Metasearch.Proofs.RowValues

namespace Metasearch

/-! ### Blank addresses -/

namespace Url

/-- A text with nothing but blanks in it leads to the page itself, if texts can be read relative
to it at all. -/
theorem join_of_tidy_nil {text : String} (blank : tidy text = []) (base : Url) :
    base.join text =
      if base.isWhole then .error .relativeToWhole else .ok { base with fragment := none } := by
  have relative : base.join text = if base.isWhole then .error .relativeToWhole
      else if base.scheme == "file" then readFile (some base) []
      else readRelative base [] := by
    unfold join readBelow
    rw [blank]
    rfl
  have filed : readFile (some base) [] = .ok { base with fragment := none } := rfl
  have related : readRelative base [] = .ok { base with fragment := none } := rfl
  rw [relative, filed, related, ite_self]

theorem write_ne_empty (url : Url) : url.write ≠ "" := by
  intro empty
  have none : url.write.toList = [] := by rw [empty]; rfl
  simp [write] at none

end Url

namespace Extraction

open Markup (Place)

/-! ### The items of a page -/

/-- There are no more items than were asked for. -/
theorem length_readRows_le {request : Request} {limit : Nat}
    (limited : request.query.limit = some limit) {found : List Item} {number : Nat}
    {rows : List Place} {items : List Item} (few : found.length ≤ limit)
    (read : (readRows request found number rows).2 = .ok items) : items.length ≤ limit := by
  induction rows generalizing found number with
  | nil =>
    obtain rfl := Except.ok.inj read
    exact few
  | cons row rest inductionHypothesis =>
    cases room : isFull request.query found.length with
    | true =>
      simp only [readRows, room, if_true] at read
      obtain rfl := Except.ok.inj read
      exact few
    | false =>
      cases deciding : decides request row with
      | true =>
        obtain ⟨warnings, step⟩ := readRows_of_decides deciding room number rest
        rw [step] at read
        obtain ⟨_, -, rfl⟩ := map_eq_ok.mp read
        exact Nat.zero_le limit
      | false =>
        obtain ⟨item, made, titled⟩ := exists_item_of_not_decides deciding
        obtain ⟨warnings, step⟩ := readRows_of_item made titled room number rest
        rw [step] at read
        have less : found.length < limit := by simpa [isFull, limited] using room
        refine inductionHypothesis ?_ read
        split
        · simpa using less
        · simpa using few

/-- Each item of a page is that of a row that is gone through. -/
theorem mem_readPage {request : Request} {document : Markup.Document} {items : List Item}
    (read : (readPage request document).2 = .ok items) {item : Item} (member : item ∈ items) :
    ∃ row ∈ rowsOf request document, itemOf request row = .ok item := by
  cases compiled : selectorOf request.search.rows with
  | error error => simp [readPage, compiled] at read
  | ok selector =>
    rw [readPage_of_compiles compiled, readRows_start] at read
    simp only [rowsOf, compiled]
    unfold outcome at read
    split at read
    · obtain ⟨_, -, rfl⟩ := map_eq_ok.mp read
      cases member
    · obtain rfl := Except.ok.inj read
      obtain ⟨row, passing, made⟩ := List.mem_filterMap.mp member
      refine ⟨row, (List.mem_filter.mp passing).1, ?_⟩
      cases found : itemOf request row with
      | error error => simp [found, Except.toOption] at made
      | ok other =>
        have same : other = item := by simpa [found, Except.toOption] using made
        rw [same]

/-- The link of an item that has a text for it: where the text leads to from the page, or nothing
if it leads nowhere. -/
def linkFrom (base : Url) (text : String) : String :=
  match base.join text with
  | .ok url => url.write
  | .error _ => ""

theorem linkFrom_eq_empty {base : Url} {text : String} :
    linkFrom base text = "" ↔ ∃ error, base.join text = .error error := by
  unfold linkFrom
  cases base.join text with
  | ok url => simp [Url.write_ne_empty]
  | error error => simp

/-- A blank text makes the address of the page itself a link. -/
theorem linkFrom_of_tidy_nil {base : Url} (divided : base.isWhole = false) {text : String}
    (blank : Url.tidy text = []) : linkFrom base text = { base with fragment := none }.write := by
  unfold linkFrom
  rw [Url.join_of_tidy_nil blank, divided]
  rfl

/-- An item has the link that the row has a text for. -/
theorem link_of_itemOf {request : Request} {row : Place} {item : Item} {block : SelectorBlock}
    (named : (request.search.fields.map Prod.fst).Nodup)
    (declared : ("download", block) ∈ request.search.fields)
    (made : itemOf request row = .ok item) :
    ∃ text, blockValue request.context row block = .ok text ∧
      item.link = linkFrom request.base text := by
  obtain ⟨⟨item, warnings⟩, whole, rfl⟩ := map_eq_ok.mp made
  obtain ⟨values, found, put⟩ := except_of_bind whole
  obtain ⟨text, selected, member⟩ := mem_rowValues found declared
  exact ⟨text, selected,
    putValues_link (rowValues_names found ▸ named) member (mapError_eq_ok.mp put)⟩

end Extraction

namespace Indexer

open Extraction (rowsOf itemOf blockValue linkFrom)
open Markup (Place)

/-! ### Checking results -/

/-- An item lacks nothing that a test looks for. -/
structure IsComplete (item : Item) : Prop where
  title : item.title ≠ ""
  size : item.size ≠ 0
  link : item.link ≠ ""
  site : item.site ≠ ""
  category : item.category ≠ 0

theorem problemOf?_eq_none {item : Item} : problemOf? item = none ↔ IsComplete item := by
  unfold problemOf?
  constructor
  · intro none
    split_ifs at none
    constructor <;> simp_all
  · rintro ⟨title, size, link, site, category⟩
    simp [title, size, link, site, category]

theorem checkItems_eq_ok {number : Nat} {items : List Item} :
    checkItems number items = .ok () ↔ ∀ item ∈ items, IsComplete item := by
  induction items generalizing number with
  | nil => simp [checkItems]
  | cons item rest inductionHypothesis =>
    rw [List.forall_mem_cons, checkItems, ← problemOf?_eq_none]
    cases problem : problemOf? item with
    | some problem => simp
    | none => simp [inductionHypothesis]

variable {State Kind : Type} [Browser State] [Settings.Keeper Kind]

/-- Results that a mode passes its test with. -/
def Passes (outcome : Except Error (List Item)) : Prop :=
  ∃ items, outcome = .ok items ∧ items ≠ [] ∧ ∀ item ∈ items, IsComplete item

/-- A mode is tested by its search alone: it passes if the results do, and whatever comes of it,
the visit is what the search leaves behind. -/
theorem testMode_apply (indexer : Indexer Kind) (mode : SearchMode) (visit : Visit State) :
    let search := indexer.search (testQuery mode.key) visit
    stateOf (indexer.testMode mode visit) = stateOf search ∧
      (outcomeOf (indexer.testMode mode visit) = .ok () ↔ Passes (outcomeOf search)) := by
  intro search
  unfold testMode
  cases searched : indexer.search (testQuery mode.key) visit with
  | error error after =>
    rw [bind_of_error searched, show search = _ from searched]
    exact ⟨rfl, iff_of_false nofun (by rintro ⟨_, ⟨⟩, -⟩)⟩
  | ok items after =>
    rw [bind_of_ok searched, show search = _ from searched]
    cases items with
    | nil =>
      refine ⟨rfl, iff_of_false nofun ?_⟩
      rintro ⟨_, ⟨⟩, some, -⟩
      exact some rfl
    | cons item rest =>
      have checked : ∀ outcome : Except Error Unit,
          stateOf (lift id outcome after) = after ∧ outcomeOf (lift id outcome after) = outcome := by
        rintro (_ | _) <;> exact ⟨rfl, rfl⟩
      refine ⟨(checked (checkItems 1 (item :: rest))).1, ?_⟩
      change outcomeOf (lift id (checkItems 1 (item :: rest)) after) = _ ↔ _
      rw [(checked _).2, checkItems_eq_ok]
      constructor
      · exact fun complete => ⟨_, rfl, List.cons_ne_nil _ _, complete⟩
      · rintro ⟨_, ⟨⟩, -, complete⟩
        exact complete

/-! ### The searches of a test -/

/-- The searches of a test, one in each mode. -/
def testSearches (indexer : Indexer Kind) (modes : List SearchMode) :
    List (Indexer Kind × Query) :=
  modes.map fun mode => (indexer, testQuery mode.key)

/-- One mode, and by induction all modes: they pass if the results of all their searches do. -/
theorem forM_testMode (indexer : Indexer Kind) (modes : List SearchMode) (visit : Visit State) :
    outcomeOf (modes.forM indexer.testMode visit) = .ok () ↔
      ∀ call ∈ (searchAll (indexer.testSearches modes) visit).1, Passes call.outcome := by
  rw [List.forM_eq_forM]
  induction modes generalizing visit with
  | nil => exact iff_of_true rfl (by rintro _ ⟨⟩)
  | cons mode rest inductionHypothesis =>
    obtain ⟨leaves, passes⟩ := indexer.testMode_apply mode visit
    have later := inductionHypothesis (stateOf (indexer.search (testQuery mode.key) visit))
    simp only [testSearches, List.map_cons, searchAll, List.forall_mem_cons] at later ⊢
    rw [List.forM_cons, ← passes, ← later, ← leaves]
    cases tested : indexer.testMode mode visit with
    | error error after =>
      rw [bind_of_error tested]
      refine iff_of_false ?_ fun both => ?_
      · rintro ⟨⟩
      · cases both.1
    | ok _ after =>
      rw [bind_of_ok tested]
      exact (and_iff_right rfl).symm

/-- Searches in a row are all made. -/
theorem searches_searchAll (searches : List (Indexer Kind × Query)) (visit : Visit State) :
    (searchAll searches visit).1.map (fun call => (call.indexer, call.query)) = searches := by
  induction searches generalizing visit with
  | nil => rfl
  | cons search rest inductionHypothesis => exact congrArg (search :: ·) (inductionHypothesis _)

/-- Each of the searches in a row comes to what it comes to alone. -/
theorem outcome_of_mem_searchAll {searches : List (Indexer Kind × Query)} {visit : Visit State}
    {call : Searched State Kind} (member : call ∈ (searchAll searches visit).1) :
    ∃ before, call.start = before.browser ∧
      call.outcome = outcomeOf (call.indexer.search call.query before) := by
  induction searches generalizing visit with
  | nil => cases member
  | cons search rest inductionHypothesis =>
    rcases List.mem_cons.mp member with rfl | later
    · exact ⟨visit, rfl, rfl⟩
    · exact inductionHypothesis later

theorem of_mem_testSearches {indexer : Indexer Kind} {modes : List SearchMode}
    {visit : Visit State} {call : Searched State Kind}
    (member : call ∈ (searchAll (indexer.testSearches modes) visit).1) :
    call.indexer = indexer ∧ call.query.limit = some testLimit := by
  have among : (call.indexer, call.query) ∈ indexer.testSearches modes := by
    rw [← searches_searchAll (indexer.testSearches modes) visit]
    exact List.mem_map_of_mem member
  obtain ⟨mode, -, same⟩ := List.mem_map.mp among
  obtain ⟨ours, asked⟩ := Prod.mk.inj same
  exact ⟨ours.symm, asked ▸ rfl⟩

/-- A search that comes to results reads them on a page. -/
theorem exists_page_of_search {indexer : Indexer Kind} {query : Query} {visit : Visit State}
    {items : List Item} (found : outcomeOf (indexer.search query visit) = .ok items)
    (any : items ≠ []) :
    ∃ page, indexer.pageRead? query visit.browser = some page ∧
      (Extraction.readPage (indexer.pageRequest query page) page.document).2 = .ok items := by
  cases reads : indexer.pageRead? query visit.browser with
  | some page =>
    rw [outcomeOf_search visit reads] at found
    exact ⟨page, rfl, mapError_eq_ok.mp found⟩
  | none =>
    obtain ⟨requests, read, course, done⟩ := indexer.search_course query visit
    have nothing := course.pageRead
    rw [reads] at nothing
    rw [done, outcomeOf_resultOf] at found
    have count : items.length = 0 := by simpa [found, itemCount] using nothing.2
    exact absurd (List.eq_nil_of_length_eq_zero count) any

/-- There are no more results than a test asks for, and each is the item of a row of the page
that was read, with the link that leads where the text of the row does. -/
theorem results_of_search {indexer : Indexer Kind} {block : SelectorBlock}
    (named : (indexer.definition.search.fields.map Prod.fst).Nodup)
    (declared : ("download", block) ∈ indexer.definition.search.fields) {query : Query}
    (limited : query.limit = some testLimit) {visit : Visit State} {items : List Item}
    (found : outcomeOf (indexer.search query visit) = .ok items) :
    items.length ≤ testLimit ∧ ∀ item ∈ items,
      ∃ page, indexer.pageRead? query visit.browser = some page ∧
        let request := indexer.pageRequest query page
        ∃ row ∈ rowsOf request page.document, itemOf request row = .ok item ∧
          ∃ text, blockValue request.context row block = .ok text ∧
            item.link = linkFrom page.url text := by
  by_cases any : items = []
  · subst any
    exact ⟨Nat.zero_le _, by rintro _ ⟨⟩⟩
  · obtain ⟨page, reads, read⟩ := exists_page_of_search found any
    constructor
    · cases compiled : Extraction.selectorOf (indexer.pageRequest query page).search.rows with
      | error error => simp [Extraction.readPage, compiled] at read
      | ok selector =>
        rw [Extraction.readPage_of_compiles compiled] at read
        exact Extraction.length_readRows_le limited (Nat.zero_le _) read
    · intro item member
      obtain ⟨row, among, made⟩ := Extraction.mem_readPage read member
      obtain ⟨text, selected, linked⟩ := Extraction.link_of_itemOf named declared made
      exact ⟨page, reads, row, among, made, text, selected, linked⟩

/-- A test searches once in every mode, and is passed exactly if each search has results and each
result a title, a size, a link, a site and a category. There are never more results than it asks
for. A result has no link only if the text of its row leads nowhere from the page; a blank text
leads to the page itself, so the test lets it pass. -/
theorem test_passes {indexer : Indexer Kind} {block : SelectorBlock}
    (named : (indexer.definition.search.fields.map Prod.fst).Nodup)
    (declared : ("download", block) ∈ indexer.definition.search.fields) (visit : Visit State) :
    let modes := indexer.definition.capabilities.modes
    let calls := (searchAll (indexer.testSearches modes) visit).1
    calls.map Searched.query = modes.map (fun mode => testQuery mode.key) ∧
      (outcomeOf (indexer.test visit) = .ok () ↔ ∀ call ∈ calls, Passes call.outcome) ∧
      ∀ call ∈ calls, ∀ items, call.outcome = .ok items →
        items.length ≤ testLimit ∧ ∀ item ∈ items,
          ∃ page, indexer.pageRead? call.query call.start = some page ∧
            let request := indexer.pageRequest call.query page
            ∃ row ∈ rowsOf request page.document, itemOf request row = .ok item ∧
              ∃ text, blockValue request.context row block = .ok text ∧
                (item.link = "" ↔ ∃ error, page.url.join text = .error error) ∧
                (Url.tidy text = [] → page.url.isWhole = false →
                  item.link = { page.url with fragment := none }.write) := by
  intro modes calls
  refine ⟨?_, forM_testMode indexer modes visit, fun call member items found => ?_⟩
  · have made := congrArg (List.map Prod.snd)
      (searches_searchAll (indexer.testSearches modes) visit)
    rw [List.map_map, testSearches, List.map_map] at made
    exact made
  · obtain ⟨same, limited⟩ := of_mem_testSearches member
    obtain ⟨before, start, alone⟩ := outcome_of_mem_searchAll member
    rw [same, found] at alone
    rw [start]
    obtain ⟨few, each⟩ := results_of_search named declared limited alone.symm
    refine ⟨few, fun item among => ?_⟩
    obtain ⟨page, reads, row, gone, made, text, selected, linked⟩ := each item among
    refine ⟨page, reads, row, gone, made, text, selected, ?_, fun blank divided => ?_⟩
    · rw [linked, Extraction.linkFrom_eq_empty]
    · rw [linked, Extraction.linkFrom_of_tidy_nil divided blank]

/-! ### A row without a text for its link -/

/-- A browser that finds one row everywhere, with a number in it and nothing else. -/
def numberMirror : Mirror := ⟨"<li>1</li>", none⟩

/-- A site whose rows are numbers, and whose links are in elements that no row has. -/
def numberSite : Indexer where
  definition :=
    { site := "site", name := "Site", description := "", language := "en-us"
      links := ["http://site.example/"]
      login := none
      search := ⟨"/search.php", [], "li",
        [("category", .whole), ("download", ⟨"a", none, none, []⟩), ("size", .whole),
          ("title", .whole)]⟩
      capabilities := ⟨[⟨"search", true, []⟩], .empty⟩ }
  store := ⟨[], none⟩
  now := ⟨0, 0⟩

/-- The page that a test of `numberSite` reads with `numberMirror`. -/
def numberPage : Page :=
  ⟨pageOf "site.example" "search.php", 200, [], Text.encode numberMirror.markup.toList⟩

/-- What `numberPage` is read for. -/
def numberRequest : Extraction.Request :=
  numberSite.pageRequest (testQuery "search") numberPage

/-- The row of `numberPage`. -/
def numberRow : Place :=
  let row : Markup.Node := .element 4 ⟨.html, "li", []⟩ [.text "1"]
  let head : Markup.Node := .element 2 ⟨.html, "head", []⟩ []
  let body : Markup.Node := .element 3 ⟨.html, "body", []⟩ [row]
  ⟨⟨4, ⟨.html, "li", []⟩, [.text "1"], [], []⟩,
    [⟨3, ⟨.html, "body", []⟩, [row], [head], []⟩,
      ⟨1, ⟨.html, "html", []⟩, [head, body], [], []⟩], true⟩

theorem pageRead_numberMirror :
    numberSite.pageRead? (testQuery "search") numberMirror = some numberPage := by
  have silent : numberSite.searchParams (testQuery "search") = .ok [] := by
    simp only [searchParams, numberSite, paramsOf]
  have place : numberSite.addressFrom (Browser.page? numberMirror)
      numberSite.definition.search.path = .ok (pageOf "site.example" "search.php") := by cbv
  unfold pageRead?
  rw [silent, place]
  exact if_pos ⟨rfl, rfl⟩

theorem selectIn_numberPage :
    Selector.selectIn ⟨[.single [.name "li"]]⟩ numberPage.document = [numberRow] := by cbv

/-- The item of `numberRow`. -/
def numberItem : Item :=
  { Item.ofSite "site" with
    title := "1", category := 1, size := 1, link := "http://site.example/search.php" }

theorem blockValue_numberRow :
    blockValue numberRequest.context numberRow ⟨"a", none, none, []⟩ = .ok "" := by
  rfl

theorem itemOf_numberRow : itemOf numberRequest numberRow = .ok numberItem := by
  decide

theorem outcomeOf_numberMirror :
    outcomeOf (numberSite.search (testQuery "search") (⟨numberMirror, []⟩ : Visit Mirror)) =
      .ok [numberItem] := by
  have items : (Extraction.readRows numberRequest [] 1 [numberRow]).2 = .ok [numberItem] := by
    decide
  have compiled : Extraction.selectorOf numberRequest.search.rows =
      .ok ⟨[.single [.name "li"]]⟩ := rfl
  rw [outcomeOf_search ⟨numberMirror, []⟩ pageRead_numberMirror, ← numberRequest,
    Extraction.readPage_of_compiles compiled, selectIn_numberPage, items]
  rfl

theorem outcomes_numberMirror :
    (searchAll (numberSite.testSearches [⟨"search", true, []⟩])
        (⟨numberMirror, []⟩ : Visit Mirror)).1.map Searched.outcome = [.ok [numberItem]] := by
  rw [← outcomeOf_numberMirror]
  simp only [testSearches, List.map_cons, List.map_nil, searchAll]

/-- The one result of `numberSite` is read on the page of its search. -/
theorem test_passes_numberSite :
    let calls := (searchAll (numberSite.testSearches [⟨"search", true, []⟩])
      (⟨numberMirror, []⟩ : Visit Mirror)).1
    calls.map Searched.query = [testQuery "search"] ∧
      ∀ call ∈ calls, ∃ page, numberSite.pageRead? call.query call.start = some page ∧
        ∃ row ∈ rowsOf (numberSite.pageRequest call.query page) page.document,
          itemOf (numberSite.pageRequest call.query page) row = .ok numberItem := by
  intro calls
  have declared : ("download", ⟨"a", none, none, []⟩) ∈ numberSite.definition.search.fields :=
    .tail _ (.head _)
  obtain ⟨queries, -, results⟩ :=
    test_passes (by decide) declared (⟨numberMirror, []⟩ : Visit Mirror)
  refine ⟨queries, fun call member => ?_⟩
  have among : call.outcome ∈ calls.map Searched.outcome := List.mem_map_of_mem member
  rw [outcomes_numberMirror, List.mem_singleton] at among
  obtain ⟨page, reads, row, gone, made, -⟩ :=
    (results call member [numberItem] among).2 numberItem List.mem_cons_self
  exact ⟨page, reads, row, gone, made⟩

/-- A test is passed with a result whose row has a blank text for its link. -/
theorem test_passes_blankText :
    let visit : Visit Mirror := ⟨numberMirror, []⟩
    let calls := (searchAll (numberSite.testSearches [⟨"search", true, []⟩]) visit).1
    outcomeOf (numberSite.test visit) = .ok () ∧
      calls.map Searched.outcome = [.ok [numberItem]] ∧
      itemOf numberRequest numberRow = .ok numberItem ∧
      blockValue numberRequest.context numberRow ⟨"a", none, none, []⟩ = .ok "" ∧
      numberItem.link = numberPage.url.write := by
  intro visit calls
  refine ⟨?_, outcomes_numberMirror, itemOf_numberRow, blockValue_numberRow, by decide +kernel⟩
  refine (forM_testMode numberSite [⟨"search", true, []⟩] visit).mpr fun call member => ?_
  have among : call.outcome ∈ calls.map Searched.outcome := List.mem_map_of_mem member
  rw [outcomes_numberMirror, List.mem_singleton] at among
  refine ⟨[numberItem], among, List.cons_ne_nil _ _, ?_⟩
  rw [List.forall_mem_singleton, ← problemOf?_eq_none]
  decide

end Indexer

end Metasearch
