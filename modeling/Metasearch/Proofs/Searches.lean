/-
This file settles what one search does, whatever the browser answers. The search page is opened;
only if that is answered, and every search input comes to something, the same address is opened
once more with what the inputs came to. The items are those of the page that comes back then, and
of no other.

The parameters of a search are made input by input, in the order of the names of the inputs. An
input is a parameter of its own, except for the raw one: the pairs that it stands for take its
place.
-/
import Metasearch.Proofs.FieldOrder
import Metasearch.Proofs.Visits

namespace Metasearch.Indexer

open Browser (Answers sendAll)
open Extraction (Event)

/-! ### Parameters -/

/-- The parameters that an input comes to. -/
inductive Contributes (context : Template.Value) :
    String × String → List (String × String) → Prop
  /-- One of its own name. -/
  | named {name template value : String} (plain : name ≠ Definition.rawInput)
      (resolved : Template.resolve "search_inputs" template context = .ok value) :
      Contributes context (name, template) [(name, value)]
  /-- The pairs of a query. -/
  | raw {template value : String} {params : List (String × String)}
      (resolved : Template.resolve "search_inputs" template context = .ok value)
      (decoded : readRawInput value = .ok params) :
      Contributes context (Definition.rawInput, template) params

/-- Why an input comes to nothing. -/
inductive Fails (context : Template.Value) : String × String → Error → Prop
  | unresolved {name template : String} {cause : Template.Error}
      (failed : Template.resolve "search_inputs" template context = .error cause) :
      Fails context (name, template) (.template cause)
  | undecoded {template value : String} {error : Error}
      (resolved : Template.resolve "search_inputs" template context = .ok value)
      (failed : readRawInput value = .error error) :
      Fails context (Definition.rawInput, template) error

/-- The first of some inputs that comes to nothing does so for some reason. -/
def FirstFails (context : Template.Value) (inputs : List (String × String)) (error : Error) :
    Prop :=
  ∃ before input behind, inputs = before ++ input :: behind ∧
    (∀ earlier ∈ before, ∃ params, Contributes context earlier params) ∧
    Fails context input error

theorem inputParams_of_contributes {context : Template.Value} {input : String × String}
    {params : List (String × String)} (contributes : Contributes context input params) :
    inputParams context input.1 input.2 = .ok params := by
  cases contributes with
  | @named name template value plain resolved =>
    simp only [inputParams, resolved]
    show (if name == Definition.rawInput then readRawInput value else .ok [(name, value)]) = _
    rw [if_neg (by simpa using plain)]
  | raw resolved decoded =>
    simp only [inputParams, resolved]
    exact decoded

theorem inputParams_of_fails {context : Template.Value} {input : String × String} {error : Error}
    (fails : Fails context input error) : inputParams context input.1 input.2 = .error error := by
  cases fails with
  | unresolved failed =>
    simp only [inputParams, failed]
    rfl
  | undecoded resolved failed =>
    simp only [inputParams, resolved]
    exact failed

/-- An input comes to parameters, or to nothing for some reason. -/
theorem contributes_or_fails (context : Template.Value) (input : String × String) :
    (∃ params, Contributes context input params) ∨ ∃ error, Fails context input error := by
  obtain ⟨name, template⟩ := input
  cases resolved : Template.resolve "search_inputs" template context with
  | error cause => exact .inr ⟨_, .unresolved resolved⟩
  | ok value =>
    by_cases isRaw : name = Definition.rawInput
    · subst isRaw
      cases decoded : readRawInput value with
      | error error => exact .inr ⟨error, .undecoded resolved decoded⟩
      | ok params => exact .inl ⟨params, .raw resolved decoded⟩
    · exact .inl ⟨[(name, value)], .named isRaw resolved⟩

theorem paramsOf_cons (context : Template.Value) (input : String × String)
    (rest : List (String × String)) :
    paramsOf context (input :: rest) = (inputParams context input.1 input.2 >>= fun params =>
      paramsOf context rest >>= fun more => .ok (params ++ more)) := rfl

/-- The parameters are those of the inputs, one input after the other. -/
theorem paramsOf_of_contributes {context : Template.Value} {inputs : List (String × String)}
    {parts : List (List (String × String))}
    (each : List.Forall₂ (Contributes context) inputs parts) :
    paramsOf context inputs = .ok parts.flatten := by
  induction each with
  | nil => rfl
  | cons here _ inductionHypothesis =>
    rw [paramsOf_cons, inputParams_of_contributes here, inductionHypothesis]
    rfl

theorem paramsOf_of_firstFails {context : Template.Value} {inputs : List (String × String)}
    {error : Error} (fails : FirstFails context inputs error) :
    paramsOf context inputs = .error error := by
  obtain ⟨before, input, behind, rfl, earlier, fails⟩ := fails
  induction before with
  | nil =>
    rw [List.nil_append, paramsOf_cons, inputParams_of_fails fails]
    rfl
  | cons head rest inductionHypothesis =>
    obtain ⟨⟨params, here⟩, later⟩ := List.forall_mem_cons.mp earlier
    rw [List.cons_append, paramsOf_cons, inputParams_of_contributes here,
      inductionHypothesis later]
    rfl

/-- All inputs come to parameters, or a first one comes to nothing. -/
theorem contribute_or_firstFails (context : Template.Value) (inputs : List (String × String)) :
    (∃ parts, List.Forall₂ (Contributes context) inputs parts) ∨
      ∃ error, FirstFails context inputs error := by
  induction inputs with
  | nil => exact .inl ⟨[], .nil⟩
  | cons input rest inductionHypothesis =>
    rcases contributes_or_fails context input with ⟨params, here⟩ | ⟨error, fails⟩
    · rcases inductionHypothesis with ⟨parts, later⟩ | ⟨error, before, next, behind, rfl, later, fails⟩
      · exact .inl ⟨params :: parts, .cons here later⟩
      · exact .inr ⟨error, input :: before, next, behind, rfl,
          List.forall_mem_cons.mpr ⟨⟨params, here⟩, later⟩, fails⟩
    · exact .inr ⟨error, [], input, rest, rfl, by simp, fails⟩

theorem paramsOf_eq_ok {context : Template.Value} {inputs params : List (String × String)} :
    paramsOf context inputs = .ok params ↔
      ∃ parts, List.Forall₂ (Contributes context) inputs parts ∧ params = parts.flatten := by
  constructor
  · intro success
    rcases contribute_or_firstFails context inputs with ⟨parts, each⟩ | ⟨error, fails⟩
    · exact ⟨parts, each, Except.ok.inj (success.symm.trans (paramsOf_of_contributes each))⟩
    · cases success.symm.trans (paramsOf_of_firstFails fails)
  · rintro ⟨parts, each, rfl⟩
    exact paramsOf_of_contributes each

theorem paramsOf_eq_error {context : Template.Value} {inputs : List (String × String)}
    {error : Error} :
    paramsOf context inputs = .error error ↔ FirstFails context inputs error := by
  refine ⟨fun failure => ?_, paramsOf_of_firstFails⟩
  rcases contribute_or_firstFails context inputs with ⟨parts, each⟩ | ⟨other, fails⟩
  · cases failure.symm.trans (paramsOf_of_contributes each)
  · rwa [Except.error.inj (failure.symm.trans (paramsOf_of_firstFails fails))]

/-! ### What is read on a page -/

variable {State Kind : Type}

/-- What the page of a search is read for. -/
def pageRequest (indexer : Indexer Kind) (query : Query) (page : Page) : Extraction.Request :=
  ⟨indexer.definition.site, indexer.definition.search, query, page.url, indexer.context⟩

/-- The sample that an event is counted as. -/
def sampleOf (site : String) : Event → Sample
  | .warned field => ⟨.warnings, [site, field]⟩
  | .filtered => ⟨.rows, [site, "filtered"]⟩
  | .emitted => ⟨.rows, [site, "emitted"]⟩

/-- The samples that are counted behind others when events are told one after the other. -/
def told (site : String) (events : List Event) (metrics : Metrics) : Metrics :=
  (events.map (sampleOf site)).reverse ++ metrics

theorem forM_recordEvent (site : String) (events : List Event) (visit : Visit State) :
    events.forM (recordEvent site) visit =
      .ok () { visit with metrics := told site events visit.metrics } := by
  induction events generalizing visit with
  | nil => rfl
  | cons event rest inductionHypothesis =>
    have here : recordEvent site event visit =
        .ok () { visit with metrics := sampleOf site event :: visit.metrics } := by
      cases event <;> rfl
    rw [List.forM_eq_forM, List.forM_cons, bind_of_ok here, ← List.forM_eq_forM,
      inductionHypothesis]
    simp [told]

variable [Browser State] [Settings.Keeper Kind]

/-- What is read on the page that a browser shows: what happens to its rows, and its items. -/
def reading (indexer : Indexer Kind) (query : Query) (state : State) :
    List Event × Except Error (List Item) :=
  match Browser.page? state with
  | some page =>
    let (events, items) := Extraction.readPage (indexer.pageRequest query page) page.document
    (events, items.mapError .ofExtraction)
  | none => ([], indexer.startUrl >>= fun _ => .error (.browser .noPage))

theorem readItems_apply (indexer : Indexer Kind) (query : Query) (visit : Visit State) :
    let read := indexer.reading query visit.browser
    indexer.readItems query visit =
      resultOf read.2 ⟨visit.browser, told indexer.definition.site read.1 visit.metrics⟩ := by
  unfold readItems reading
  rw [bind_apply, currentUrl_apply]
  cases shown : Browser.page? visit.browser with
  | none =>
    simp only [placeOn]
    cases indexer.startUrl with
    | error error => rfl
    | ok base =>
      simp only [lift_ok]
      rw [bind_apply, currentPage_apply, shownPage, shown]
      rfl
  | some page =>
    simp only [placeOn, lift_ok]
    rw [bind_apply, currentPage_apply, shownPage, shown]
    simp only [lift_ok]
    rw [bind_of_ok (forM_recordEvent _ _ _)]
    unfold pageRequest
    cases (Extraction.readPage ⟨indexer.definition.site, indexer.definition.search, query, page.url,
      indexer.context⟩ page.document).2 <;> rfl

theorem reading_eq_ok {indexer : Indexer Kind} {query : Query} {state : State}
    {items : List Item} :
    (indexer.reading query state).2 = .ok items ↔
      ∃ page, Browser.page? state = some page ∧
        (Extraction.readPage (indexer.pageRequest query page) page.document).2 = .ok items := by
  unfold reading
  cases Browser.page? state with
  | none => cases indexer.startUrl <;> simp [bind, Except.bind]
  | some page => simp [mapError_eq_ok]

/-! ### The course of a search -/

/-- The requests of a search that starts in some state of the browser, what happens to the rows
of the page it reads, and what it comes to. -/
inductive SearchCourse (indexer : Indexer Kind) (query : Query) (state : State) :
    List Request → List Event × Except Error (List Item) → Prop
  /-- The path leads nowhere. -/
  | unreached (error : Error)
      (lost : indexer.addressFrom (Browser.page? state) indexer.definition.search.path =
        .error error) :
      SearchCourse indexer query state [] ([], .error error)
  /-- The search page is not answered. -/
  | unopened (url : Url) (error : Browser.Error)
      (reached : indexer.addressFrom (Browser.page? state) indexer.definition.search.path =
        .ok url)
      (trouble : (Browser.send (.view url) state).1 = some error) :
      SearchCourse indexer query state [.view url] ([], .error (.browser error))
  /-- An input comes to nothing. -/
  | ungiven (url : Url) (error : Error)
      (reached : indexer.addressFrom (Browser.page? state) indexer.definition.search.path =
        .ok url)
      (opened : Answers (.view url) state) (lacking : indexer.searchParams query = .error error) :
      SearchCourse indexer query state [.view url] ([], .error error)
  /-- The parameters are not answered. -/
  | unanswered (url : Url) (params : List (String × String)) (error : Browser.Error)
      (reached : indexer.addressFrom (Browser.page? state) indexer.definition.search.path =
        .ok url)
      (opened : Answers (.view url) state) (given : indexer.searchParams query = .ok params)
      (trouble : (Browser.send (.viewWith url params) (sendAll [.view url] state)).1 =
        some error) :
      SearchCourse indexer query state [.view url, .viewWith url params]
        ([], .error (.browser error))
  /-- The page that comes back is read. -/
  | read (url : Url) (params : List (String × String))
      (reached : indexer.addressFrom (Browser.page? state) indexer.definition.search.path =
        .ok url)
      (opened : Answers (.view url) state) (given : indexer.searchParams query = .ok params)
      (answered : Answers (.viewWith url params) (sendAll [.view url] state)) :
      SearchCourse indexer query state [.view url, .viewWith url params]
        (indexer.reading query (sendAll [.view url, .viewWith url params] state))

theorem openedAndSent_inj {url other : Url} {params more : List (String × String)} :
    [Request.view url, .viewWith url params] = [.view other, .viewWith other more] ↔
      url = other ∧ params = more := by
  simp [Request.view, Request.viewWith]

namespace SearchCourse

variable {indexer : Indexer Kind} {query : Query} {state : State} {requests : List Request}
  {read : List Event × Except Error (List Item)}

theorem length_le (course : SearchCourse indexer query state requests read) :
    requests.length ≤ 2 := by
  cases course <;> simp

/-- The search page is opened first, if its path leads there. -/
theorem first_iff (course : SearchCourse indexer query state requests read) {request : Request} :
    requests[0]? = some request ↔
      ∃ url, indexer.addressFrom (Browser.page? state) indexer.definition.search.path = .ok url ∧
        request = .view url := by
  cases course with
  | unreached error lost => simp [lost]
  | unopened url error reached | ungiven url error reached | unanswered url params error reached
  | read url params reached => simp [reached, eq_comm]

/-- The parameters are sent to where the search page is, if that was answered and there are
parameters. -/
theorem second_iff (course : SearchCourse indexer query state requests read)
    {request : Request} :
    requests[1]? = some request ↔
      ∃ url params,
        indexer.addressFrom (Browser.page? state) indexer.definition.search.path = .ok url ∧
        Answers (.view url) state ∧ indexer.searchParams query = .ok params ∧
        request = .viewWith url params := by
  cases course with
  | unreached error lost => simp [lost]
  | unopened url error reached trouble => simp [reached, Browser.not_answers trouble]
  | ungiven url error reached opened lacking => simp [lacking]
  | unanswered url params error reached opened given | read url params reached opened given =>
    simp [reached, opened, given, eq_comm]

/-- A search whose page is answered says why there are no parameters. -/
theorem eq_error_of_lacking (course : SearchCourse indexer query state requests read) {url : Url}
    {error : Error}
    (reached : indexer.addressFrom (Browser.page? state) indexer.definition.search.path = .ok url)
    (opened : Answers (.view url) state) (lacking : indexer.searchParams query = .error error) :
    read.2 = .error error := by
  cases course with
  | unreached _ lost => cases lost.symm.trans reached
  | unopened other _ found trouble =>
    obtain rfl := Except.ok.inj (found.symm.trans reached)
    exact absurd opened (Browser.not_answers trouble)
  | ungiven _ _ _ _ failed => rw [Except.error.inj (failed.symm.trans lacking)]
  | unanswered _ _ _ _ _ given | read _ _ _ _ given => cases given.symm.trans lacking

/-- Items are those of the page that comes back. -/
theorem items_iff (course : SearchCourse indexer query state requests read) {items : List Item} :
    read.2 = .ok items ↔
      ∃ url params page, requests = [.view url, .viewWith url params] ∧
        Answers (.viewWith url params) (sendAll [.view url] state) ∧
        Browser.page? (sendAll requests state) = some page ∧
        (Extraction.readPage (indexer.pageRequest query page) page.document).2 = .ok items := by
  cases course with
  | unreached error lost | unopened url error reached trouble
  | ungiven url error reached opened lacking => simp
  | unanswered url params error reached opened given trouble =>
    refine iff_of_false (by simp) ?_
    rintro ⟨_, _, page, same, answered, -⟩
    obtain ⟨rfl, rfl⟩ := openedAndSent_inj.mp same
    exact Browser.not_answers trouble answered
  | read url params reached opened given answered =>
    rw [reading_eq_ok]
    constructor
    · rintro ⟨page, shown, found⟩
      exact ⟨url, params, page, rfl, answered, shown, found⟩
    · rintro ⟨_, _, page, -, -, shown, found⟩
      exact ⟨page, shown, found⟩

/-- A watched browser takes the course of the browser. -/
theorem unwatched {watched : Watched State}
    (course : SearchCourse indexer query watched requests read) :
    SearchCourse indexer query watched.browser requests read := by
  cases course with
  | unreached error lost => exact .unreached error lost
  | unopened url error reached trouble => exact .unopened url error reached trouble
  | ungiven url error reached opened lacking => exact .ungiven url error reached opened lacking
  | unanswered url params error reached opened given trouble =>
    exact .unanswered url params error reached opened given trouble
  | read url params reached opened given answered =>
    exact .read url params reached opened given answered

end SearchCourse

/-- The steps of a search take one of its courses, and count what happens to the rows. -/
theorem searchSteps_course (indexer : Indexer Kind) (query : Query) (visit : Visit State) :
    ∃ requests read, SearchCourse indexer query visit.browser requests read ∧
      indexer.searchSteps query visit = resultOf read.2
        ⟨sendAll requests visit.browser, told indexer.definition.site read.1 visit.metrics⟩ := by
  have steps : indexer.searchSteps query =
      (indexer.resolvePath indexer.definition.search.path >>= fun url =>
        send (.view url) >>= fun _ => lift id (indexer.searchParams query) >>= fun params =>
          send (.viewWith url params) >>= fun _ => indexer.readItems query :
            Act State (List Item)) := rfl
  rw [steps]
  -- A step that fails ends the search, and what was sent before it is all that is sent.
  cases reached : indexer.addressFrom (Browser.page? visit.browser)
      indexer.definition.search.path with
  | error error =>
    rw [bind_of_error (resolvePath_of_error reached)]
    exact ⟨[], ([], .error error), .unreached error reached, rfl⟩
  | ok url =>
    rw [bind_of_ok (resolvePath_of_ok reached)]
    cases viewed : (Browser.send (.view url) visit.browser).1 with
    | some error =>
      rw [bind_of_error (send_of_trouble viewed)]
      exact ⟨_, ([], .error (.browser error)), .unopened url error reached viewed, rfl⟩
    | none =>
      rw [bind_of_ok (send_of_answers viewed)]
      cases given : indexer.searchParams query with
      | error error =>
        rw [bind_of_error (lift_error _ _ _)]
        exact ⟨_, ([], .error error), .ungiven url error reached viewed given, rfl⟩
      | ok params =>
        rw [bind_of_ok (lift_ok _ _ _)]
        cases asked : (Browser.send (.viewWith url params) (sendAll [.view url] visit.browser)).1 with
        | some error =>
          exact ⟨_, ([], .error (.browser error)),
            .unanswered url params error reached viewed given asked,
            bind_of_error (send_of_trouble asked)⟩
        | none =>
          refine ⟨_, _, .read url params reached viewed given asked, ?_⟩
          refine (bind_of_ok (send_of_answers ?_)).trans (indexer.readItems_apply query _)
          exact asked

/-- How a search is counted. -/
def searchSample (site : String) : Except Error (List Item) → Sample
  | .ok items => ⟨.searches, [site, searchLabel items]⟩
  | .error _ => ⟨.searches, [site, "failed"]⟩

/-- A search takes one of its courses, and counts what happens to the rows and then itself. -/
theorem search_course (indexer : Indexer Kind) (query : Query) (visit : Visit State) :
    ∃ requests read, SearchCourse indexer query visit.browser requests read ∧
      indexer.search query visit = resultOf read.2
        ⟨sendAll requests visit.browser, searchSample indexer.definition.site read.2 ::
          ⟨.searchDuration, [indexer.definition.site]⟩ ::
          told indexer.definition.site read.1 visit.metrics⟩ := by
  obtain ⟨requests, read, course, done⟩ := indexer.searchSteps_course query visit
  refine ⟨requests, read, course, ?_⟩
  simp only [search, done]
  cases read.2 <;> rfl

/-- One search, from any state of any browser, of which a record is kept. It sends no more than two
requests: the search page is opened at the address that its path leads to from where the visit
is, and the same address is opened with the parameters if the first was answered and there are
parameters. There are items only from the page that comes back from the second, whose links lead
on from its own address. Parameters are those of the inputs, input by input, and else the first
input that comes to nothing says why; in a definition that was read, the inputs are in the order
of the bytes of their names. -/
theorem search_opensThenSends (indexer : Indexer Kind) (query : Query)
    (visit : Visit (Watched State)) :
    let before := visit.browser.browser
    let result := indexer.search query visit
    let search := indexer.definition.search
    let context := query.searchContext
      (indexer.definition.capabilities.categories.localIds query.categories)
    (∃ requests,
      (stateOf result).browser = ⟨sendAll requests before, visit.browser.sent ++ requests⟩ ∧
      requests.length ≤ 2 ∧
      (∀ request, requests[0]? = some request ↔
        ∃ url, indexer.addressFrom (Browser.page? before) search.path = .ok url ∧
          request = .view url) ∧
      (∀ request, requests[1]? = some request ↔
        ∃ url params, indexer.addressFrom (Browser.page? before) search.path = .ok url ∧
          Answers (.view url) before ∧ indexer.searchParams query = .ok params ∧
          request = .viewWith url params) ∧
      (∀ url error, indexer.addressFrom (Browser.page? before) search.path = .ok url →
        Answers (.view url) before → indexer.searchParams query = .error error →
        outcomeOf result = .error error) ∧
      ∀ items, outcomeOf result = .ok items ↔
        ∃ url params page, requests = [.view url, .viewWith url params] ∧
          Answers (.viewWith url params) (sendAll [.view url] before) ∧
          Browser.page? (sendAll requests before) = some page ∧
          (Extraction.readPage ⟨indexer.definition.site, search, query, page.url,
            indexer.context⟩ page.document).2 = .ok items) ∧
    (∀ params, indexer.searchParams query = .ok params ↔
      ∃ parts, List.Forall₂ (Contributes context) search.inputs parts ∧
        params = parts.flatten) ∧
    (∀ error, indexer.searchParams query = .error error ↔
      FirstFails context search.inputs error) ∧
    ∀ origin json, Definition.ofJson origin json = .ok indexer.definition →
      NamesAscend search.inputs := by
  intro before result search context
  obtain ⟨requests, read, course, done⟩ := indexer.search_course query visit
  have whole : result = _ := done
  refine ⟨⟨requests, ?_, course.length_le, fun _ => course.unwatched.first_iff,
    fun _ => course.unwatched.second_iff, fun url error reached opened lacking => ?_,
    fun items => ?_⟩, fun _ => paramsOf_eq_ok, fun _ => paramsOf_eq_error,
    fun _ _ read => (Definition.inOrder_ofJson read).inputs⟩
  · rw [whole, stateOf_resultOf, Watched.sendAll_eq]
  · rw [whole, outcomeOf_resultOf]
    exact course.unwatched.eq_error_of_lacking reached opened lacking
  · rw [whole, outcomeOf_resultOf]
    exact course.unwatched.items_iff

end Metasearch.Indexer
