/-
This file settles what the count of emitted rows says. A row is counted when it is taken up into
the list of items, and stays counted when a later row decides that the page comes to nothing. So
the count is that of the items that searches returned and of the rows that they took up and then
gave up; it is that of the items alone exactly if no wanted row stood in front of a row that
decided for its page.
-/
import Metasearch.Proofs.Downloads
import Metasearch.Proofs.ResultRows
import Metasearch.Proofs.Searches

namespace Metasearch

/-- How many items there are; an error has none. -/
def itemCount {Cause : Type} : Except Cause (List Item) → Nat
  | .ok items => items.length
  | .error _ => 0

theorem itemCount_mapError {Cause Other : Type} (wrap : Cause → Other)
    (outcome : Except Cause (List Item)) : itemCount (outcome.mapError wrap) = itemCount outcome := by
  cases outcome <;> rfl

namespace Extraction

open Markup (Document Place)

/-! ### The rows of a page -/

/-- The rows in front of the first that decides for the page. -/
def undecided (request : Request) (rows : List Place) : List Place :=
  rows.takeWhile fun row => !decides request row

/-- How many rows of a page are taken up and given up again: the wanted ones in front of a row
that decides for the page. -/
def givenUp (request : Request) (rows : List Place) : Nat :=
  if rows.any (decides request) then (undecided request rows).countP (passes request) else 0

/-- The rows that are gone through on a page. -/
def rowsOf (request : Request) (document : Document) : List Place :=
  match selectorOf request.search.rows with
  | .ok selector => processed request (selector.selectIn document)
  | .error _ => []

theorem givenUp_ne_zero {request : Request} {rows : List Place} :
    givenUp request rows ≠ 0 ↔
      (∃ row ∈ rows, decides request row = true) ∧
        ∃ wanted ∈ undecided request rows, passes request wanted = true := by
  unfold givenUp
  split
  · next some =>
    rw [← Nat.pos_iff_ne_zero, List.countP_pos_iff]
    exact (and_iff_right (List.any_eq_true.mp some)).symm
  · next none =>
    refine iff_of_false (by simp) fun both => none ?_
    exact List.any_eq_true.mpr both.1

/-- One row of the loop, and by induction all of them: what is counted as emitted are the wanted
rows in front of the first that decides. -/
theorem readRows_count (request : Request) (found : List Item) (number : Nat) (rows : List Place) :
    (readRows request found number rows).1.count .emitted =
      (undecided request (processedBehind request found.length rows)).countP
        (passes request) := by
  have noWarning : ∀ fields : List String, (fields.map Event.warned).count .emitted = 0 := by
    simp [List.count_eq_zero]
  induction rows generalizing found number with
  | nil => simp [readRows, processedBehind_nil, undecided]
  | cons row rest inductionHypothesis =>
    cases room : isFull request.query found.length with
    | true =>
      rw [processedBehind_of_full room]
      simp [readRows, room, undecided]
    | false =>
      rw [processedBehind_cons room]
      unfold undecided at inductionHypothesis ⊢
      cases deciding : decides request row with
      | true =>
        obtain ⟨warnings, step⟩ := readRows_of_decides deciding room number rest
        simp [step, deciding, noWarning]
      | false =>
        obtain ⟨item, made, titled⟩ := exists_item_of_not_decides deciding
        obtain ⟨warnings, step⟩ := readRows_of_item made titled room number rest
        have passing : passes request row = isWanted request.query item := by
          simp [passes, made]
        rw [step, List.count_append, noWarning, List.takeWhile_cons_of_pos (by simp [deciding]),
          List.countP_cons, passing, ← length_append_wanted made,
          ← inductionHypothesis _ (number + 1)]
        cases isWanted request.query item <;> simp

theorem length_passingItems (request : Request) (rows : List Place) :
    (passingItems request rows).length = rows.countP (passes request) := by
  have each : ∀ row ∈ rows.filter (passes request),
      (itemOf request row).toOption.isSome = true := by
    intro row member
    have passing := (List.mem_filter.mp member).2
    unfold passes at passing
    cases made : itemOf request row with
    | error error => simp [made] at passing
    | ok item => rfl
  rw [passingItems, List.length_filterMap_eq_countP, List.countP_eq_length.mpr each,
    List.countP_eq_length_filter]

/-- What is counted on a page are its items, and the rows that it gives up. -/
theorem readPage_count (request : Request) (document : Document) :
    (readPage request document).1.count .emitted =
      itemCount (readPage request document).2 + givenUp request (rowsOf request document) := by
  cases compiled : selectorOf request.search.rows with
  | error error => simp [readPage, rowsOf, compiled, itemCount, givenUp]
  | ok selector =>
    rw [readPage_of_compiles compiled, readRows_count, readRows_start]
    simp only [rowsOf, compiled]
    show (undecided request (processed request (selector.selectIn document))).countP _ = _
    generalize processed request (selector.selectIn document) = rows
    unfold outcome givenUp
    cases first : rows.find? (decides request) with
    | none =>
      have silent := List.find?_eq_none.mp first
      have all : undecided request rows = rows :=
        List.takeWhile_eq_self_iff.mpr fun row member => by simpa using silent row member
      have noneOf : rows.any (decides request) = false := by simpa using silent
      simp [noneOf, all, itemCount, length_passingItems]
    | some row =>
      have some : rows.any (decides request) = true :=
        List.any_eq_true.mpr ⟨row, List.mem_of_find?_eq_some first, List.find?_some first⟩
      have none : itemCount ((itemOf request row).map fun _ => []) = 0 := by
        cases itemOf request row <;> rfl
      simp only [some, none, if_true, Nat.zero_add]

end Extraction

namespace Indexer

open Browser (Answers sendAll)
open Extraction (Event rowsOf givenUp undecided decides passes)
open Markup (Place)

variable {State Kind : Type} [Browser State] [Settings.Keeper Kind]

/-! ### One search -/

instance (request : Request) (state : State) : Decidable (Answers request state) :=
  inferInstanceAs (Decidable (_ = none))

/-- The page that a search reads, if it comes to that. -/
def pageRead? (indexer : Indexer Kind) (query : Query) (state : State) : Option Page :=
  match indexer.addressFrom (Browser.page? state) indexer.definition.search.path,
      indexer.searchParams query with
  | .ok url, .ok params =>
    if Answers (.view url) state ∧ Answers (.viewWith url params) (sendAll [.view url] state) then
      Browser.page? (sendAll [.view url, .viewWith url params] state)
    else none
  | _, _ => none

/-- A search reads its page, or has nothing to count and fails. -/
theorem SearchCourse.pageRead {indexer : Indexer Kind} {query : Query} {state : State}
    {requests : List Request} {read : List Event × Except Error (List Item)}
    (course : SearchCourse indexer query state requests read) :
    match indexer.pageRead? query state with
    | some page =>
      let found := Extraction.readPage (indexer.pageRequest query page) page.document
      read = (found.1, found.2.mapError .ofExtraction)
    | none => read.1 = [] ∧ itemCount read.2 = 0 := by
  unfold pageRead?
  cases course with
  | unreached error lost => simp [lost, itemCount]
  | unopened url error reached trouble =>
    cases indexer.searchParams query <;>
      simp [reached, Browser.not_answers trouble, itemCount]
  | ungiven url error reached opened lacking => simp [reached, lacking, itemCount]
  | unanswered url params error reached opened given trouble =>
    simp only [reached, given, Browser.not_answers trouble, and_false, if_false]
    exact ⟨trivial, rfl⟩
  | read url params reached opened given answered =>
    simp only [reached, given, opened, answered, and_self, if_true]
    unfold reading
    cases Browser.page? (sendAll [.view url, .viewWith url params] state) with
    | some page => rfl
    | none => cases indexer.startUrl <;> exact ⟨rfl, rfl⟩

/-- The sample that an emitted row of a site is counted as. -/
def emittedSample (site : String) : Sample := ⟨.rows, [site, "emitted"]⟩

theorem tally_told (site other : String) (events : List Event) (metrics : Metrics) :
    (told other events metrics).tally (emittedSample site) =
      metrics.tally (emittedSample site) + if other = site then events.count .emitted else 0 := by
  induction events generalizing metrics with
  | nil => simp [told]
  | cons event rest inductionHypothesis =>
    have step : told other (event :: rest) metrics =
        told other rest (sampleOf other event :: metrics) := by simp [told]
    rw [step, inductionHypothesis, Metrics.tally, Metrics.tally, List.count_cons,
      List.count_cons, emittedSample]
    cases event <;> by_cases same : other = site <;> simp [sampleOf, same]
    omega

/-- How many rows a search takes up and gives up again. -/
def rowsGivenUp (indexer : Indexer Kind) (query : Query) (state : State) : Nat :=
  match indexer.pageRead? query state with
  | some page =>
    let request := indexer.pageRequest query page
    givenUp request (rowsOf request page.document)
  | none => 0

/-- A search counts the items it returns and the rows it gives up, under its own site. -/
theorem tally_search (indexer : Indexer Kind) (query : Query) (visit : Visit State)
    (site : String) :
    let result := indexer.search query visit
    (stateOf result).metrics.tally (emittedSample site) =
      visit.metrics.tally (emittedSample site) +
        if indexer.definition.site = site then
          itemCount (outcomeOf result) + indexer.rowsGivenUp query visit.browser
        else 0 := by
  intro result
  obtain ⟨requests, read, course, done⟩ := indexer.search_course query visit
  have whole : result = _ := done
  have ends : ∀ outcome metrics, (searchSample indexer.definition.site outcome ::
      ⟨.searchDuration, [indexer.definition.site]⟩ :: metrics).count (emittedSample site) =
        metrics.count (emittedSample site) := by
    intro outcome metrics
    cases outcome <;> simp [searchSample, emittedSample]
  have counted : read.1.count .emitted =
      itemCount read.2 + indexer.rowsGivenUp query visit.browser := by
    have page := course.pageRead
    unfold rowsGivenUp
    cases found : indexer.pageRead? query visit.browser with
    | none =>
      rw [found] at page
      rw [page.1, page.2]
      rfl
    | some shown =>
      rw [found] at page
      rw [page, itemCount_mapError]
      exact Extraction.readPage_count _ _
  rw [whole, stateOf_resultOf, outcomeOf_resultOf, Metrics.tally, ends, ← counted]
  exact tally_told site _ _ _

/-- What a search comes to that reads a page. -/
theorem outcomeOf_search {indexer : Indexer Kind} {query : Query} (visit : Visit State)
    {page : Page} (found : indexer.pageRead? query visit.browser = some page) :
    outcomeOf (indexer.search query visit) =
      (Extraction.readPage (indexer.pageRequest query page) page.document).2.mapError
        .ofExtraction := by
  obtain ⟨requests, read, course, done⟩ := indexer.search_course query visit
  have page := course.pageRead
  rw [found] at page
  rw [done, outcomeOf_resultOf, page]

/-! ### Searches in a row -/

/-- A search among others: where it starts and what it comes to. -/
structure Searched (State Kind : Type) where
  indexer : Indexer Kind
  query : Query
  start : State
  outcome : Except Error (List Item)

namespace Searched

/-- How many items the search returned. -/
def returned (call : Searched State Kind) : Nat :=
  itemCount call.outcome

/-- How many rows the search took up and gave up again. -/
def givenUp (call : Searched State Kind) : Nat :=
  call.indexer.rowsGivenUp call.query call.start

/-- The search was one of a site. -/
def isOf (site : String) (call : Searched State Kind) : Bool :=
  call.indexer.definition.site == site

end Searched

/-- Searches of any sites, one after the other on one browser: what they come to, and the visit
behind them. -/
def searchAll : List (Indexer Kind × Query) → Visit State →
    List (Searched State Kind) × Visit State
  | [], visit => ([], visit)
  | (indexer, query) :: rest, visit =>
    let result := indexer.search query visit
    let (calls, last) := searchAll rest (stateOf result)
    (⟨indexer, query, visit.browser, outcomeOf result⟩ :: calls, last)

/-- One search, and by induction searches in a row. -/
theorem tally_searchAll (searches : List (Indexer Kind × Query)) (visit : Visit State)
    (site : String) :
    let run := searchAll searches visit
    let calls := run.1.filter (Searched.isOf site)
    run.2.metrics.tally (emittedSample site) =
      visit.metrics.tally (emittedSample site) + (calls.map Searched.returned).sum +
        (calls.map Searched.givenUp).sum := by
  induction searches generalizing visit with
  | nil => simp [searchAll]
  | cons search rest inductionHypothesis =>
    obtain ⟨indexer, query⟩ := search
    have step := indexer.tally_search query visit site
    have later := inductionHypothesis (stateOf (indexer.search query visit))
    simp only [searchAll, List.filter_cons, Searched.isOf, beq_iff_eq] at later ⊢
    rw [later, step]
    split
    · simp only [List.map_cons, List.sum_cons, Searched.returned, Searched.givenUp]
      omega
    · simp

/-- A search gives rows up exactly if it reads a page on which, among the rows that are gone
through, some row decides and a wanted one stands in front of the first that does. -/
theorem Searched.givenUp_ne_zero {call : Searched State Kind} :
    call.givenUp ≠ 0 ↔
      ∃ page, call.indexer.pageRead? call.query call.start = some page ∧
        let request := call.indexer.pageRequest call.query page
        let rows := rowsOf request page.document
        (∃ row ∈ rows, decides request row = true) ∧
          ∃ wanted ∈ undecided request rows, passes request wanted = true := by
  unfold Searched.givenUp rowsGivenUp
  cases call.indexer.pageRead? call.query call.start with
  | none => simp
  | some page => simp only [Extraction.givenUp_ne_zero, Option.some.injEq, exists_eq_left']

/-- What the count of emitted rows of a site says behind searches in a row, from nothing counted:
how many items the searches of the site returned, and how many rows they took up and gave up
again. So it says how many items were returned exactly if no search of the site read a page on
which a wanted row stands in front of the first row that decides. -/
theorem tally_emitted (searches : List (Indexer Kind × Query)) (state : State) (site : String) :
    let run := searchAll searches ⟨state, []⟩
    let calls := run.1.filter (Searched.isOf site)
    let counted := run.2.metrics.tally (emittedSample site)
    counted = (calls.map Searched.returned).sum + (calls.map Searched.givenUp).sum ∧
      (counted = (calls.map Searched.returned).sum ↔
        ∀ call ∈ calls, ¬ ∃ page, call.indexer.pageRead? call.query call.start = some page ∧
          let request := call.indexer.pageRequest call.query page
          let rows := rowsOf request page.document
          (∃ row ∈ rows, decides request row = true) ∧
            ∃ wanted ∈ undecided request rows, passes request wanted = true) := by
  intro run calls counted
  have whole : counted = (calls.map Searched.returned).sum + (calls.map Searched.givenUp).sum := by
    have sums : counted = 0 + (calls.map Searched.returned).sum +
        (calls.map Searched.givenUp).sum := tally_searchAll searches ⟨state, []⟩ site
    rwa [Nat.zero_add] at sums
  refine ⟨whole, ?_⟩
  rw [whole, Nat.add_eq_left, List.sum_eq_zero_iff, List.forall_mem_map]
  refine forall₂_congr fun call _ => ?_
  rw [← Searched.givenUp_ne_zero, not_not]

/-! ### A row that is given up -/

/-- A browser that finds two rows everywhere, the second of which has no title. -/
def endedMirror : Mirror := ⟨"<li>A</li><li></li>", none⟩

/-- The page that a search of `passwordSite` reads with `endedMirror`. -/
def endedPage : Page :=
  ⟨pageOf "site.example" "search.php", 200, [], Text.encode endedMirror.markup.toList⟩

/-- What `endedPage` is read for. -/
def endedRequest : Extraction.Request :=
  passwordSite.pageRequest (.ofMode "search") endedPage

/-- The rows of `endedPage`. -/
def endedRows : List Place :=
  let first : Markup.Node := .element 4 ⟨.html, "li", []⟩ [.text "A"]
  let last : Markup.Node := .element 6 ⟨.html, "li", []⟩ []
  let head : Markup.Node := .element 2 ⟨.html, "head", []⟩ []
  let body : Markup.Node := .element 3 ⟨.html, "body", []⟩ [first, last]
  let around : List Markup.Level :=
    [⟨3, ⟨.html, "body", []⟩, [first, last], [head], []⟩,
      ⟨1, ⟨.html, "html", []⟩, [head, body], [], []⟩]
  [⟨⟨4, ⟨.html, "li", []⟩, [.text "A"], [], [last]⟩, around, true⟩,
    ⟨⟨6, ⟨.html, "li", []⟩, [], [first], []⟩, around, true⟩]

theorem pageRead_endedMirror :
    passwordSite.pageRead? (.ofMode "search") endedMirror = some endedPage := by cbv

theorem selectorOf_endedRequest :
    Extraction.selectorOf endedRequest.search.rows = .ok ⟨[.single [.name "li"]]⟩ := rfl

theorem selectIn_endedPage :
    Selector.selectIn ⟨[.single [.name "li"]]⟩ endedPage.document = endedRows := by cbv

theorem rowsOf_endedPage :
    rowsOf endedRequest endedPage.document = Extraction.processed endedRequest endedRows := by
  simp only [rowsOf, selectorOf_endedRequest, selectIn_endedPage]

theorem rowsGivenUp_endedMirror :
    passwordSite.rowsGivenUp (.ofMode "search") endedMirror = 1 := by
  simp only [rowsGivenUp, pageRead_endedMirror]
  rw [← endedRequest, rowsOf_endedPage]
  decide

theorem outcomeOf_endedMirror :
    outcomeOf (passwordSite.search (.ofMode "search") (⟨endedMirror, []⟩ : Visit Mirror)) =
      .ok [] := by
  have items : (Extraction.readRows endedRequest [] 1 endedRows).2 = .ok [] := by rfl
  rw [outcomeOf_search ⟨endedMirror, []⟩ pageRead_endedMirror, ← endedRequest,
    Extraction.readPage_of_compiles selectorOf_endedRequest, selectIn_endedPage, items]
  rfl

/-- A search returns nothing, and yet a row is counted as emitted. -/
theorem tally_emitted_ne_returned :
    let run := searchAll [(passwordSite, .ofMode "search")] (⟨endedMirror, []⟩ : Visit Mirror)
    let calls := run.1.filter (Searched.isOf "site")
    let counted := run.2.metrics.tally (emittedSample "site")
    calls.map Searched.outcome = [.ok []] ∧ counted = 1 ∧
      counted ≠ (calls.map Searched.returned).sum := by
  intro run calls counted
  have whole : calls = [⟨passwordSite, .ofMode "search", endedMirror, .ok []⟩] := by
    rw [← outcomeOf_endedMirror]
    rfl
  have returned : (calls.map Searched.returned).sum = 0 := by
    rw [whole]
    rfl
  have lost : (calls.map Searched.givenUp).sum = 1 := by
    rw [whole, List.map_singleton, List.sum_singleton]
    exact rowsGivenUp_endedMirror
  have sums : counted = 0 + (calls.map Searched.returned).sum +
      (calls.map Searched.givenUp).sum := tally_searchAll _ _ _
  rw [returned, lost] at sums
  refine ⟨by rw [whole]; rfl, sums, ?_⟩
  rw [returned, sums]
  exact Nat.one_ne_zero

end Indexer

end Metasearch
