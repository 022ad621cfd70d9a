/-
This file settles what the check of a definition is good for. Everything that is read from the
text of a definition only when it is used, selectors, links and the names of values, is read by
the check first and in the same way. So once a definition has passed, no operation of an indexer
blames it: whatever goes wrong is wrong with the site, the browser, the settings or the request.

The argument follows the use of a definition inside out: blocks, rows, pages, signs of a failed
login, and then the operations, which keep a browser one that does not blame selectors itself.
-/
import Mathlib
import Metasearch.Proofs.LoginAttempts
import Metasearch.Proofs.Outcomes
import Metasearch.Proofs.RowValues
import Metasearch.Proofs.Visits
import Metasearch.Rehearsal.Tracker

namespace Metasearch

/-! ### What the check makes sure of -/

namespace Definition

/-- A selector can be read. -/
def Compiles (selector : String) : Prop :=
  ∃ compiled, Selector.read? selector = some compiled

/-- The selectors of a block can be read; an empty one is not read but stands for the row. -/
structure BlockCompiles (block : SelectorBlock) : Prop where
  selector : block.selector.isEmpty = false → Compiles block.selector
  remove : ∀ remove, block.remove = some remove → Compiles remove

/-- The selectors of a sign of failure can be read. -/
structure RuleCompiles (rule : ErrorRule) : Prop where
  selector : ∀ selector, rule.selector = some selector → Compiles selector
  message : ∀ block, rule.message = some block → BlockCompiles block

/-- The selectors of a login can be read. -/
structure LoginCompiles (login : LoginBlock) : Prop where
  form : Compiles login.formSelector
  rules : ∀ rule ∈ login.errors, RuleCompiles rule

/-- The selectors of a search can be read, and an item has a place for each of its values. -/
structure SearchCompiles (search : SearchBlock) : Prop where
  rows : Compiles search.rows
  names : ∀ field ∈ search.fields, field.1 ∈ resultFields
  blocks : ∀ field ∈ search.fields, BlockCompiles field.2

/-- What has to be read while a definition is used can be read. -/
structure Usable (definition : Definition) : Prop where
  base : ∃ url, definition.baseUrl = .ok url
  login : ∀ login, definition.login = some login → LoginCompiles login
  search : SearchCompiles definition.search

theorem compiles_of_compile {selector : String} {compiled : Selector}
    (read : compile selector = .ok compiled) : Compiles selector := by
  unfold compile at read
  cases found : Selector.read? selector with
  | none => simp [found] at read
  | some compiled => exact ⟨compiled, found⟩

theorem blockCompiles_of_check {block : SelectorBlock} (passed : checkBlock block = .ok ()) :
    BlockCompiles block := by
  unfold checkBlock at passed
  refine ⟨fun written => ?_, fun remove present => ?_⟩
  · rw [written] at passed
    obtain ⟨_, read, -⟩ := except_of_bind passed
    exact compiles_of_compile read
  · have removed : block.remove.forM (fun remove => do let _ ← compile remove) =
        (.ok () : Except Error Unit) := by
      split at passed
      · obtain ⟨_, -, passed⟩ := except_of_bind passed
        exact passed
      · exact passed
    rw [present] at removed
    obtain ⟨_, read, -⟩ := except_of_bind removed
    exact compiles_of_compile read

theorem ruleCompiles_of_check {rule : ErrorRule} (passed : checkRule rule = .ok ()) :
    RuleCompiles rule := by
  obtain ⟨_, selectorPassed, messagePassed⟩ := except_of_bind passed
  refine ⟨fun selector present => ?_, fun block present => ?_⟩
  · rw [present] at selectorPassed
    obtain ⟨_, read, -⟩ := except_of_bind selectorPassed
    exact compiles_of_compile read
  · rw [present] at messagePassed
    exact blockCompiles_of_check messagePassed

theorem loginCompiles_of_check {login : LoginBlock} (passed : checkLogin login = .ok ()) :
    LoginCompiles login := by
  obtain ⟨_, read, rulesPassed⟩ := except_of_bind passed
  exact ⟨compiles_of_compile read,
    fun rule member => ruleCompiles_of_check (forM_eq_ok.mp rulesPassed rule member)⟩

theorem name_and_block_of_check {field : String × SelectorBlock}
    (passed : checkField field = .ok ()) : field.1 ∈ resultFields ∧ BlockCompiles field.2 := by
  unfold checkField at passed
  cases known : resultFields.contains field.1 with
  | false =>
    rw [known] at passed
    cases passed
  | true =>
    rw [known] at passed
    exact ⟨List.contains_iff_mem.mp known, blockCompiles_of_check passed⟩

/-- A definition that passes the check can be used. -/
theorem usable_of_check {definition : Definition} (passed : definition.check = .ok ()) :
    definition.Usable := by
  unfold check at passed
  cases linked : definition.links with
  | nil =>
    rw [linked] at passed
    cases passed
  | cons link links =>
    rw [linked] at passed
    obtain ⟨_, linksPassed, passed⟩ := except_of_bind passed
    obtain ⟨_, loginPassed, passed⟩ := except_of_bind passed
    obtain ⟨_, rowsRead, fieldsPassed⟩ := except_of_bind passed
    obtain ⟨url, linkRead, -⟩ := except_of_bind (forM_eq_ok.mp linksPassed link List.mem_cons_self)
    have each := fun field member =>
      name_and_block_of_check (forM_eq_ok.mp fieldsPassed field member)
    refine ⟨⟨url, ?_⟩, fun login present => ?_, compiles_of_compile rowsRead,
      fun field member => (each field member).1, fun field member => (each field member).2⟩
    · simp only [baseUrl, linked, linkRead]
    · rw [present] at loginPassed
      exact loginCompiles_of_check loginPassed

end Definition

/-! ### Pages -/

namespace Extraction

open Definition
open Markup (Document Place)

/-- The error is one of a filter, or of an attribute that is not there. -/
def Error.IsFilter : Error → Prop
  | .filter _ => True
  | .definition _ => False

theorem selectorOf_compiles {selector : String} (compiles : Compiles selector) :
    ∃ compiled, selectorOf selector = .ok compiled := by
  obtain ⟨compiled, read⟩ := compiles
  exact ⟨compiled, by simp [selectorOf, compile, read, Except.mapError]⟩

theorem selection_of_compiles {block : SelectorBlock} (compiles : BlockCompiles block)
    (row : Place) : ∃ found, selection row block = .ok found := by
  unfold selection
  cases empty : block.selector.isEmpty with
  | true => exact ⟨[row], rfl⟩
  | false =>
    obtain ⟨compiled, read⟩ := selectorOf_compiles (compiles.selector empty)
    exact ⟨compiled.selectBelow row, by simp [read, Except.map]⟩

theorem selectValue_failsOnly {block : SelectorBlock} (compiles : BlockCompiles block)
    (row : Place) : FailsOnly Error.IsFilter (selectValue row block) := by
  obtain ⟨found, selected⟩ := selection_of_compiles compiles row
  unfold selectValue
  rw [selected]
  refine (failsOnly_ok found).bind fun found _ => ?_
  cases block.attributeName with
  | some name =>
    dsimp only
    split
    · exact failsOnly_ok _
    · exact failsOnly_error trivial
  | none =>
    cases removing : block.remove with
    | none => exact failsOnly_ok _
    | some remove =>
      obtain ⟨compiled, read⟩ := selectorOf_compiles (compiles.remove remove removing)
      dsimp only
      rw [read]
      exact failsOnly_ok _

theorem blockValue_failsOnly {block : SelectorBlock} (compiles : BlockCompiles block)
    (context : Filter.Context) (row : Place) :
    FailsOnly Error.IsFilter (blockValue context row block) :=
  (selectValue_failsOnly compiles row).bind fun _ _ => failsOnly_mapError fun _ _ => trivial

theorem rowValues_failsOnly {fields : List (String × SelectorBlock)}
    (compiles : ∀ field ∈ fields, BlockCompiles field.2) (context : Filter.Context)
    (row : Place) : FailsOnly Error.IsFilter (rowValues context fields row) :=
  failsOnly_mapM fun field member =>
    (blockValue_failsOnly (compiles field member) context row).map _

theorem rowItem_failsOnly {request : Request} (compiles : SearchCompiles request.search)
    (number : Nat) (row : Place) : FailsOnly Error.IsFilter (rowItem request number row) := by
  refine (rowValues_failsOnly compiles.blocks request.context row).bind fun values found => ?_
  have known : ∀ value ∈ values, value.1 ∈ resultFields := by
    intro value member
    have named : value.1 ∈ request.search.fields.map Prod.fst :=
      rowValues_names found ▸ List.mem_map_of_mem member
    obtain ⟨field, fieldMember, same⟩ := List.mem_map.mp named
    exact same ▸ compiles.names field fieldMember
  obtain ⟨made, put⟩ := putValues_ok request.base number (Item.ofSite request.site) known
  rw [buildItem, put]
  exact failsOnly_ok made

/-- Rows that are gone through one after the other fail only as one of them does. -/
theorem readRows_failsOnly {request : Request} (compiles : SearchCompiles request.search)
    (found : List Item) (number : Nat) (rows : List Place) :
    FailsOnly Error.IsFilter (readRows request found number rows).2 := by
  induction rows generalizing found number with
  | nil => exact failsOnly_ok found
  | cons row rest inductionHypothesis =>
    unfold readRows
    split
    · exact failsOnly_ok found
    · have safe := rowItem_failsOnly compiles number row
      split
      · next error made => exact failsOnly_error (safe error made)
      · split
        · exact failsOnly_ok []
        · split
          · exact inductionHypothesis _ _
          · exact inductionHypothesis _ _

theorem readPage_failsOnly {request : Request} (compiles : SearchCompiles request.search)
    (document : Document) : FailsOnly Error.IsFilter (readPage request document).2 := by
  obtain ⟨compiled, read⟩ := selectorOf_compiles compiles.rows
  unfold readPage
  rw [read]
  exact readRows_failsOnly compiles [] 1 _

end Extraction

/-! ### Operations -/

/-- However it is used from here on, the browser does not blame a selector itself. -/
def Browser.SparesSelectors {State : Type} [Browser State] (state : State) : Prop :=
  ∀ requests request selector,
    (Browser.send request (Browser.sendAll requests state)).1 ≠ some (.badSelector selector)

namespace Indexer

open Definition (Usable Compiles LoginCompiles)
open Markup (Place)

/-- The error is one of the definition, or of a selector that the browser was given. -/
def Error.BlamesDefinition : Error → Prop
  | .definition _ => True
  | .browser (.badSelector _) => True
  | _ => False

variable {State : Type} [Browser State] {Kind : Type} [Settings.Keeper Kind]

/-- The operation leaves the browser one that spares selectors, and does not blame the
definition. -/
abbrev Spares {Value : Type} (act : Act State Value) : Prop :=
  Upholds (fun visit => Browser.SparesSelectors visit.browser) (¬ Error.BlamesDefinition ·) act

theorem sparesSelectors_send {state : State} (spares : Browser.SparesSelectors state)
    (request : Request) : Browser.SparesSelectors (Browser.send request state).2 :=
  fun requests => spares (request :: requests)

theorem spares_lift {Cause Value : Type} {wrap : Cause → Error} {outcome : Except Cause Value}
    (safe : FailsOnly (fun cause => ¬ (wrap cause).BlamesDefinition) outcome) :
    Spares (lift wrap outcome : Act State Value) := by
  cases outcome with
  | ok value => exact upholds_pure value
  | error cause => exact upholds_throw (safe cause rfl)

theorem spares_record (metric : Metric) (values : List String) :
    Spares (record metric values : Act State Unit) :=
  fun _ spares => ⟨spares, by rintro _ _ ⟨⟩⟩

theorem spares_send (request : Request) : Spares (send request : Act State Unit) := by
  intro visit spares
  cases trouble : (Browser.send request visit.browser).1 with
  | none =>
    rw [send_of_answers trouble]
    exact ⟨sparesSelectors_send spares request, by rintro _ _ ⟨⟩⟩
  | some error =>
    rw [send_of_trouble trouble]
    refine ⟨sparesSelectors_send spares request, ?_⟩
    rintro _ _ ⟨⟩ blames
    cases error with
    | badSelector selector => exact spares [] request selector trouble
    | _ => exact blames

theorem spares_currentPage : Spares (currentPage : Act State Page) := by
  intro visit
  rw [currentPage_apply]
  refine spares_lift (fun cause failed => ?_) visit
  unfold shownPage at failed
  split at failed
  · cases failed
  · cases failed
    exact id

variable {indexer : Indexer Kind}

theorem placeOn_failsOnly (usable : indexer.definition.Usable) (page : Option Page) :
    FailsOnly (¬ Error.BlamesDefinition ·) (indexer.placeOn page) := by
  cases page with
  | some page => exact failsOnly_ok page.url
  | none =>
    refine (failsOnly_mapError fun _ _ => id).bind fun told _ => ?_
    cases told with
    | some text => exact failsOnly_mapError fun _ _ => id
    | none =>
      obtain ⟨url, read⟩ := usable.base
      simp only [read]
      exact failsOnly_ok url

theorem spares_currentUrl (usable : indexer.definition.Usable) :
    Spares (indexer.currentUrl : Act State Url) := by
  intro visit
  rw [currentUrl_apply]
  exact spares_lift (placeOn_failsOnly usable _) visit

theorem spares_resolvePath (usable : indexer.definition.Usable) (path : String) :
    Spares (indexer.resolvePath path : Act State Url) := by
  intro visit
  rw [resolvePath_apply]
  refine spares_lift ((placeOn_failsOnly usable _).bind fun base _ => ?_) visit
  exact failsOnly_mapError fun _ _ => id

/-- What stops the reading of a page does not blame the definition if it is a filter. -/
theorem ofExtraction_spares {error : Extraction.Error} (filter : error.IsFilter) :
    ¬ (Error.ofExtraction error).BlamesDefinition := by
  cases error with
  | definition error => exact filter.elim
  | filter error => exact id

/-! ### Logging in -/

theorem matchedBy_ok {rule : ErrorRule} (compiles : Definition.RuleCompiles rule)
    (root : Place) : ∃ found, matchedBy rule root = .ok found := by
  unfold matchedBy
  split
  · next selector _ present =>
    obtain ⟨compiled, read⟩ := Extraction.selectorOf_compiles (compiles.selector _ present)
    rw [read]
    exact ⟨_, rfl⟩
  · exact ⟨_, rfl⟩
  · exact ⟨none, rfl⟩

theorem findFailure_failsOnly (context : Filter.Context) (root : Place) {rules : List ErrorRule}
    (compiles : ∀ rule ∈ rules, Definition.RuleCompiles rule) :
    FailsOnly Extraction.Error.IsFilter (findFailure context root rules) := by
  induction rules with
  | nil => exact failsOnly_ok none
  | cons rule rest inductionHypothesis =>
    obtain ⟨here, later⟩ := List.forall_mem_cons.mp compiles
    obtain ⟨found, matched⟩ := matchedBy_ok here root
    rw [findFailure, matched]
    refine (failsOnly_ok found).bind fun found _ => ?_
    cases found with
    | none => exact inductionHypothesis later
    | some matched =>
      cases told : rule.message with
      | none => exact failsOnly_ok _
      | some block =>
        have safe := Extraction.blockValue_failsOnly (here.message block told) context root
        exact safe.bind fun message _ => failsOnly_ok _

theorem failureOn_failsOnly (context : Filter.Context) {rules : List ErrorRule}
    (compiles : ∀ rule ∈ rules, Definition.RuleCompiles rule) (page : Page) :
    FailsOnly Extraction.Error.IsFilter (failureOn context rules page) := by
  unfold failureOn
  split
  · exact findFailure_failsOnly context _ compiles
  · exact failsOnly_ok none

theorem ofPage_failsOnly {selector : String} (compiles : Compiles selector) (page : Page) :
    FailsOnly (fun error => ¬ (Error.browser error).BlamesDefinition)
      (Form.ofPage page selector) := by
  obtain ⟨compiled, read⟩ := compiles
  simp only [Form.ofPage, Form.ofDocument, Form.compileSelector, read]
  refine (failsOnly_ok compiled).bind fun compiled _ => ?_
  split
  · exact failsOnly_error id
  · exact (failsOnly_mapError fun _ _ => id).bind fun _ _ => failsOnly_ok _

theorem fillFields_failsOnly (keys : List (String × String)) (form : Form)
    (inputs : List (String × String)) :
    FailsOnly (¬ Error.BlamesDefinition ·) (fillFields keys form inputs) := by
  induction inputs generalizing form with
  | nil => exact failsOnly_ok form
  | cons head rest inductionHypothesis =>
    refine (failsOnly_mapError fun _ _ => id).bind fun value _ => ?_
    refine (failsOnly_mapError fun error failed => ?_).bind fun form _ => inductionHypothesis form
    unfold Form.set at failed
    split at failed
    · cases failed
    · cases failed
      exact id

variable {login : LoginBlock}

theorem spares_filledForm (compiles : LoginCompiles login) :
    Spares (indexer.filledForm login : Act State Form) :=
  spares_currentPage.bind fun page =>
    (spares_lift (ofPage_failsOnly compiles.form page)).bind fun form =>
      (spares_lift fun _ _ => id).bind fun keys =>
        spares_lift (fillFields_failsOnly keys form login.inputs)

/-- The step leaves the browser one that spares selectors, and does not blame the definition. -/
abbrev StepSpares {Value : Type} (step : AttemptStep State Value) : Prop :=
  Upholds (fun attempt => Browser.SparesSelectors attempt.visit.browser)
    (¬ Error.BlamesDefinition ·) step

theorem stepSpares_loginSteps (usable : indexer.definition.Usable)
    (compiles : LoginCompiles login) :
    StepSpares (indexer.loginSteps login : AttemptStep State Unit) := by
  have further (state : LoginState) : StepSpares (reach state : AttemptStep State Unit) :=
    upholds_reach (fun visit => Browser.SparesSelectors visit.browser) state
  refine (upholds_onVisit (spares_resolvePath usable login.path)).bind fun url => ?_
  refine (upholds_onVisit (spares_send _)).bind fun _ => ?_
  refine (further _).bind fun _ => ?_
  refine (upholds_onVisit (spares_filledForm compiles)).bind fun form => ?_
  refine (further _).bind fun _ => ?_
  refine (upholds_onVisit (spares_send _)).bind fun _ => ?_
  refine (further _).bind fun _ => ?_
  refine (upholds_onVisit spares_currentPage).bind fun page => ?_
  have safe := failureOn_failsOnly indexer.context compiles.rules page
  refine (upholds_onVisit (spares_lift fun error failed =>
    ofExtraction_spares (safe error failed))).bind fun reason => ?_
  cases reason with
  | none => exact upholds_pure ()
  | some reason => exact upholds_throw id

theorem spares_login (usable : indexer.definition.Usable) :
    Spares (indexer.login : Act State Unit) := by
  intro visit spares
  unfold login
  split
  · exact ⟨spares, by rintro _ _ ⟨⟩⟩
  · next login present =>
    obtain ⟨kept, fine⟩ :=
      stepSpares_loginSteps usable (usable.login login present) ⟨visit, .start⟩ spares
    unfold attemptLogin
    cases done : indexer.loginSteps login ⟨visit, .start⟩ with
    | ok value attempt =>
      rw [done] at kept
      exact ⟨kept, by rintro _ _ ⟨⟩⟩
    | error error attempt =>
      rw [done] at kept
      exact ⟨kept, by rintro _ _ ⟨⟩; exact fine error attempt done⟩

/-! ### Searching, downloading and testing -/

theorem spares_recordEvent (site : String) (event : Extraction.Event) :
    Spares (recordEvent site event : Act State Unit) := by
  cases event <;> exact spares_record _ _

theorem spares_readItems (usable : indexer.definition.Usable) (query : Query) :
    Spares (indexer.readItems query : Act State (List Item)) := by
  refine (spares_currentUrl usable).bind fun base => spares_currentPage.bind fun page => ?_
  refine (upholds_forM (spares_recordEvent _) _).bind fun _ => spares_lift fun error failed => ?_
  exact ofExtraction_spares (Extraction.readPage_failsOnly usable.search _ error failed)

theorem paramsOf_failsOnly (context : Template.Value) (inputs : List (String × String)) :
    FailsOnly (¬ Error.BlamesDefinition ·) (paramsOf context inputs) := by
  induction inputs with
  | nil => exact failsOnly_ok []
  | cons head rest inductionHypothesis =>
    refine FailsOnly.bind ?_ fun params _ => inductionHypothesis.bind fun _ _ => failsOnly_ok _
    refine (failsOnly_mapError fun _ _ => id).bind fun value _ => ?_
    split
    · exact failsOnly_mapError fun _ _ => id
    · exact failsOnly_ok _

theorem spares_search (usable : indexer.definition.Usable) (query : Query) :
    Spares (indexer.search query : Act State (List Item)) := by
  have steps : Spares (indexer.searchSteps query : Act State (List Item)) := by
    refine (spares_resolvePath usable _).bind fun url => (spares_send _).bind fun _ => ?_
    refine (spares_lift (paramsOf_failsOnly _ _)).bind fun params => ?_
    exact (spares_send _).bind fun _ => spares_readItems usable query
  intro visit spares
  obtain ⟨kept, fine⟩ := steps visit spares
  unfold search
  cases done : indexer.searchSteps query visit with
  | ok items after =>
    rw [done] at kept
    exact ⟨kept, by rintro _ _ ⟨⟩⟩
  | error error after =>
    rw [done] at kept
    exact ⟨kept, by rintro _ _ ⟨⟩; exact fine error after done⟩

theorem spares_download (usable : indexer.definition.Usable) (link : String) :
    Spares (indexer.download link : Act State Download) :=
  (spares_login usable).bind fun _ => (spares_resolvePath usable link).bind fun url =>
    (spares_send (.view url)).bind fun _ => spares_currentPage.bind fun _ => upholds_pure _

theorem checkItems_failsOnly (number : Nat) (items : List Item) :
    FailsOnly (¬ Error.BlamesDefinition ·) (checkItems number items) := by
  induction items generalizing number with
  | nil => exact failsOnly_ok ()
  | cons item rest inductionHypothesis =>
    unfold checkItems
    split
    · exact failsOnly_error id
    · exact inductionHypothesis (number + 1)

theorem spares_test (usable : indexer.definition.Usable) :
    Spares (indexer.test : Act State Unit) := by
  refine upholds_forM (fun mode => ?_) _
  refine (spares_search usable _).bind fun items => ?_
  split
  · exact upholds_throw id
  · exact spares_lift (checkItems_failsOnly 1 items)

/-- Once its definition has passed the check, an indexer blames neither the definition nor a
selector, whatever it is asked to do with whatever settings, unless the browser does. -/
theorem operations_spare_checked {indexer : Indexer Kind}
    (passed : indexer.definition.check = .ok ()) {visit : Visit State}
    (spares : Browser.SparesSelectors visit.browser) :
    (∀ error after, indexer.login visit = .error error after → ¬ error.BlamesDefinition) ∧
      (∀ query error after, indexer.search query visit = .error error after →
        ¬ error.BlamesDefinition) ∧
      (∀ link error after, indexer.download link visit = .error error after →
        ¬ error.BlamesDefinition) ∧
      (∀ error after, indexer.test visit = .error error after → ¬ error.BlamesDefinition) := by
  have usable := Definition.usable_of_check passed
  exact ⟨(spares_login usable visit spares).2,
    fun query => (spares_search usable query visit spares).2,
    fun link => (spares_download usable link visit spares).2,
    (spares_test usable visit spares).2⟩

/-- A rehearsal that was not told to fail answers whatever it is sent. -/
theorem sparesSelectors_rehearsal {rehearsal : Rehearsal} (calm : rehearsal.trouble = none) :
    Browser.SparesSelectors rehearsal := by
  intro requests
  induction requests generalizing rehearsal with
  | nil =>
    intro request selector
    show (Browser.send request rehearsal).1 ≠ _
    simp [Browser.send, calm]
  | cons head rest inductionHypothesis =>
    refine inductionHypothesis ?_
    show (Browser.send head rehearsal).2.trouble = none
    simp [Browser.send, calm]

theorem operations_spare_checked_tracker :
    Tracker.definition.check = .ok () ∧
      Browser.SparesSelectors (Tracker.browser "") ∧
      ∀ query error after,
        Indexer.search ⟨Tracker.definition, Settings.Store.empty, ⟨0, 0⟩⟩ query
            ⟨Tracker.browser "", []⟩ = .error error after →
          ¬ error.BlamesDefinition := by
  have passed : Tracker.definition.check = .ok () := by decide +kernel
  have spares : Browser.SparesSelectors (Tracker.browser "") := sparesSelectors_rehearsal rfl
  obtain ⟨-, searches, -⟩ := @operations_spare_checked Rehearsal _ Settings.Store _
    ⟨Tracker.definition, Settings.Store.empty, ⟨0, 0⟩⟩ passed ⟨Tracker.browser "", []⟩ spares
  exact ⟨passed, spares, searches⟩

end Indexer

end Metasearch
