/-
This file settles that every search and every attempt to log in is counted once, and under the
name of what came of it. A diary is kept beside the visit by those who ask for a search or for a
login: the session itself, a download, a test. Keeping it changes nothing, and what it holds are
the samples of searches and of logins that were counted, one for one and in the same order,
whatever failed on the way.
-/
import Metasearch.Proofs.LoginAttempts
import Metasearch.Proofs.Searches

namespace Metasearch.Indexer

variable {State Kind : Type}

/-! ### Diaries -/

/-- What came of something that was done for a site. -/
structure Note (Value : Type) where
  site : String
  outcome : Except Error Value

/-- A visit, and a record of the searches and of the attempts to log in that were made during it,
the latest first. -/
structure Diary (State : Type) where
  visit : Visit State
  searches : List (Note (List Item))
  attempts : List (Note Unit)

/-- An operation on a visit of which a diary is kept. -/
abbrev NotedAct (State : Type) := EStateM Error (Diary State)

/-- An operation, of which something is noted when it is over. -/
def noting {Value : Type} (note : Except Error Value → Diary State → Diary State)
    (act : Act State Value) : NotedAct State Value := fun diary =>
  let result := act diary.visit
  resultOf (outcomeOf result) (note (outcomeOf result) { diary with visit := stateOf result })

/-- An operation of which nothing is noted. -/
def quietly {Value : Type} (act : Act State Value) : NotedAct State Value :=
  noting (fun _ diary => diary) act

/-- Notes a search. -/
def noteSearch (site : String) (outcome : Except Error (List Item)) (diary : Diary State) :
    Diary State :=
  { diary with searches := ⟨site, outcome⟩ :: diary.searches }

/-- Notes an attempt to log in, where the site wants one. -/
def noteAttempt (definition : Definition) (outcome : Except Error Unit) (diary : Diary State) :
    Diary State :=
  if definition.login.isSome then
    { diary with attempts := ⟨definition.site, outcome⟩ :: diary.attempts }
  else diary

variable [Browser State] [Settings.Keeper Kind]

/-- Searches, with a note of it. -/
def notedSearch (indexer : Indexer Kind) (query : Query) : NotedAct State (List Item) :=
  noting (noteSearch indexer.definition.site) (indexer.search query)

/-- Logs in, with a note of it. -/
def notedLogin (indexer : Indexer Kind) : NotedAct State Unit :=
  noting (noteAttempt indexer.definition) indexer.login

/-- Downloads, with a note of the login. -/
def notedDownload (indexer : Indexer Kind) (link : String) : NotedAct State Download := do
  indexer.notedLogin
  let url ← quietly (indexer.resolvePath link)
  quietly (send (.view url))
  let page ← quietly currentPage
  return ⟨page.body, page.headers⟩

/-- Tests a mode, with a note of the search. -/
def notedTestMode (indexer : Indexer Kind) (mode : SearchMode) : NotedAct State Unit := do
  let items ← indexer.notedSearch (testQuery mode.key)
  if items.isEmpty then throw .noResults
  quietly (lift id (checkItems 1 items))

/-- Tests all modes, with a note of each search. -/
def notedTest (indexer : Indexer Kind) : NotedAct State Unit :=
  indexer.definition.capabilities.modes.forM indexer.notedTestMode

/-! ### Keeping a diary changes nothing -/

/-- An operation with notes does what the operation does. -/
def Follows {Value : Type} (noted : NotedAct State Value) (act : Act State Value) : Prop :=
  ∀ diary, outcomeOf (noted diary) = outcomeOf (act diary.visit) ∧
    (stateOf (noted diary)).visit = stateOf (act diary.visit)

section Follows

variable {First Second : Type}

omit [Browser State] in
theorem follows_noting {note : Except Error First → Diary State → Diary State}
    (aside : ∀ outcome diary, (note outcome diary).visit = diary.visit) (act : Act State First) :
    Follows (noting note act) act := by
  intro diary
  rw [noting, outcomeOf_resultOf, stateOf_resultOf, aside]
  exact ⟨rfl, rfl⟩

omit [Browser State] in
theorem follows_quietly (act : Act State First) : Follows (quietly act) act :=
  follows_noting (fun _ _ => rfl) act

omit [Browser State] in
theorem follows_pure (value : First) :
    Follows (pure value : NotedAct State First) (pure value) :=
  fun _ => ⟨rfl, rfl⟩

omit [Browser State] in
theorem follows_throw (error : Error) :
    Follows (throw error : NotedAct State First) (throw error) :=
  fun _ => ⟨rfl, rfl⟩

omit [Browser State] in
theorem Follows.bind {noted : NotedAct State First} {act : Act State First}
    {notedNext : First → NotedAct State Second} {next : First → Act State Second}
    (before : Follows noted act) (behind : ∀ value, Follows (notedNext value) (next value)) :
    Follows (noted >>= notedNext) (act >>= next) := by
  intro diary
  obtain ⟨outcome, visit⟩ := before diary
  rw [bind_apply, bind_apply]
  cases done : noted diary with
  | ok value after =>
    cases plain : act diary.visit with
    | ok other behindVisit =>
      rw [done, plain] at outcome visit
      obtain rfl : value = other := Except.ok.inj outcome
      obtain rfl : after.visit = behindVisit := visit
      exact behind value after
    | error error behindVisit =>
      rw [done, plain] at outcome
      cases outcome
  | error error after =>
    cases plain : act diary.visit with
    | ok other behindVisit =>
      rw [done, plain] at outcome
      cases outcome
    | error other behindVisit =>
      rw [done, plain] at outcome visit
      exact ⟨congrArg (Except.error) (Except.error.inj outcome), visit⟩

omit [Browser State] in
theorem follows_forM {Item : Type} {noted : Item → NotedAct State Unit}
    {act : Item → Act State Unit} (each : ∀ item, Follows (noted item) (act item))
    (list : List Item) : Follows (list.forM noted) (list.forM act) := by
  induction list with
  | nil => exact follows_pure ()
  | cons head rest inductionHypothesis => exact (each head).bind fun _ => inductionHypothesis

end Follows

theorem follows_notedSearch (indexer : Indexer Kind) (query : Query) :
    Follows (indexer.notedSearch query : NotedAct State (List Item)) (indexer.search query) := by
  refine follows_noting (fun outcome diary => ?_) _
  rfl

theorem follows_notedLogin (indexer : Indexer Kind) :
    Follows (indexer.notedLogin : NotedAct State Unit) indexer.login := by
  refine follows_noting (fun outcome diary => ?_) _
  unfold noteAttempt
  split <;> rfl

theorem follows_notedDownload (indexer : Indexer Kind) (link : String) :
    Follows (indexer.notedDownload link : NotedAct State Download) (indexer.download link) :=
  indexer.follows_notedLogin.bind fun _ => (follows_quietly _).bind fun _ =>
    (follows_quietly _).bind fun _ => (follows_quietly _).bind fun _ => follows_pure _

theorem follows_notedTest (indexer : Indexer Kind) :
    Follows (indexer.notedTest : NotedAct State Unit) indexer.test := by
  refine follows_forM (fun mode => ?_) _
  refine (indexer.follows_notedSearch _).bind fun items => ?_
  split
  · exact follows_throw _
  · exact follows_quietly _

/-! ### What an operation counts -/

/-- The label that a search is counted with. -/
def searchOutcomeLabel : Except Error (List Item) → String
  | .ok items => searchLabel items
  | .error _ => "failed"

/-- The label that an attempt to log in is counted with. -/
def loginOutcomeLabel : Except Error Unit → String
  | .ok _ => "success"
  | .error error => failureLabel error

/-- How something that was noted is counted. -/
def sampleBy {Value : Type} (metric : Metric) (labelOf : Except Error Value → String)
    (note : Note Value) : Sample :=
  ⟨metric, [note.site, labelOf note.outcome]⟩

theorem searchSample_eq (site : String) (outcome : Except Error (List Item)) :
    searchSample site outcome = sampleBy .searches searchOutcomeLabel ⟨site, outcome⟩ := by
  cases outcome <;> rfl

/-- Nothing is counted. -/
abbrev CountsNothing {Value : Type} (act : Act State Value) : Prop :=
  ∀ metrics, Upholds (fun visit => visit.metrics = metrics) (fun _ => True) act

omit [Browser State] in
theorem countsNothing_lift {Cause Value : Type} (wrap : Cause → Error)
    (outcome : Except Cause Value) : CountsNothing (lift wrap outcome : Act State Value) := by
  intro metrics
  cases outcome with
  | ok value => exact upholds_pure value
  | error cause => exact upholds_throw trivial

theorem countsNothing_send (request : Request) :
    CountsNothing (send request : Act State Unit) := by
  intro metrics visit same
  cases trouble : (Browser.send request visit.browser).1 with
  | none =>
    rw [send_of_answers trouble]
    exact ⟨same, fun _ _ _ => trivial⟩
  | some error =>
    rw [send_of_trouble trouble]
    exact ⟨same, fun _ _ _ => trivial⟩

theorem countsNothing_currentPage : CountsNothing (currentPage : Act State Page) := by
  intro metrics visit
  rw [currentPage_apply]
  exact countsNothing_lift _ _ metrics visit

theorem countsNothing_resolvePath (indexer : Indexer Kind) (path : String) :
    CountsNothing (indexer.resolvePath path : Act State Url) := by
  intro metrics visit
  rw [resolvePath_apply]
  exact countsNothing_lift _ _ metrics visit

theorem countsNothing_filledForm (indexer : Indexer Kind) (login : LoginBlock) :
    CountsNothing (indexer.filledForm login : Act State Form) := by
  intro metrics visit
  rw [filledForm_apply]
  exact countsNothing_lift _ _ metrics visit

/-- The steps of an attempt count nothing. -/
theorem loginSteps_metrics (indexer : Indexer Kind) (login : LoginBlock)
    (attempt : Attempt State) :
    (stateOf (indexer.loginSteps login attempt)).visit.metrics = attempt.visit.metrics := by
  have step {Value : Type} {act : Act State Value} (nothing : CountsNothing act) :
      Upholds (fun between => between.visit.metrics = attempt.visit.metrics) (fun _ => True)
        (onVisit act) := upholds_onVisit (nothing attempt.visit.metrics)
  have further (state : LoginState) :
      Upholds (fun between => between.visit.metrics = attempt.visit.metrics) (fun _ => True)
        (reach state : AttemptStep State Unit) :=
    upholds_reach (fun visit => visit.metrics = attempt.visit.metrics) state
  have steps : Upholds (fun between => between.visit.metrics = attempt.visit.metrics)
      (fun _ => True) (indexer.loginSteps login : AttemptStep State Unit) := by
    refine (step (indexer.countsNothing_resolvePath login.path)).bind fun url => ?_
    refine (step (countsNothing_send _)).bind fun _ => ?_
    refine (further .pageOpened).bind fun _ => ?_
    refine (step (indexer.countsNothing_filledForm login)).bind fun form => ?_
    refine (further .formFilled).bind fun _ => ?_
    refine (step (countsNothing_send _)).bind fun _ => ?_
    refine (further .submitted).bind fun _ => ?_
    refine (step countsNothing_currentPage).bind fun page => ?_
    refine (step (countsNothing_lift _ _)).bind fun reason => ?_
    cases reason with
    | none => exact upholds_pure ()
    | some reason => exact upholds_throw trivial
  exact (steps attempt rfl).1

/-- A login counts one attempt, where the site wants one, and nothing else. -/
theorem login_metrics (indexer : Indexer Kind) (visit : Visit State) :
    let result := indexer.login visit
    (stateOf result).metrics =
      if indexer.definition.login.isSome then
        sampleBy .logins loginOutcomeLabel ⟨indexer.definition.site, outcomeOf result⟩ ::
          visit.metrics
      else visit.metrics := by
  intro result
  cases wanted : indexer.definition.login with
  | none =>
    have done : result = .ok () visit := by simp only [result, login, wanted]
    rw [done]
    rfl
  | some login =>
    have kept := indexer.loginSteps_metrics login ⟨visit, .start⟩
    cases done : indexer.loginSteps login ⟨visit, .start⟩ with
    | ok value after =>
      have unchanged : after.visit.metrics = visit.metrics := by rwa [done] at kept
      simp only [result, Indexer.login, wanted, attemptLogin_of_ok done, ← unchanged]
      rfl
    | error error after =>
      have unchanged : after.visit.metrics = visit.metrics := by rwa [done] at kept
      simp only [result, Indexer.login, wanted, attemptLogin_of_error done, ← unchanged]
      rfl

/-- The samples of a metric among others, in their order. -/
def samplesOf (metric : Metric) (metrics : Metrics) : List Sample :=
  metrics.filter fun sample => sample.metric == metric

omit [Browser State] in
/-- What happens to rows is counted by other metrics. -/
theorem samplesOf_told {metric : Metric} (other : metric = .searches ∨ metric = .logins)
    (site : String) (events : List Extraction.Event) (metrics : Metrics) :
    samplesOf metric (told site events metrics) = samplesOf metric metrics := by
  have none : (events.map (sampleOf site)).reverse.filter (fun sample => sample.metric == metric) =
      [] := by
    rw [List.filter_eq_nil_iff]
    intro sample member
    obtain ⟨event, -, rfl⟩ := List.mem_map.mp (List.mem_reverse.mp member)
    rcases other with rfl | rfl <;> cases event <;> simp [sampleOf]
  rw [samplesOf, told, List.filter_append, none, List.nil_append]
  rfl

/-- A search counts one search, and no login. -/
theorem samplesOf_search (indexer : Indexer Kind) (query : Query) (visit : Visit State) :
    let result := indexer.search query visit
    samplesOf .searches (stateOf result).metrics =
        sampleBy .searches searchOutcomeLabel ⟨indexer.definition.site, outcomeOf result⟩ ::
          samplesOf .searches visit.metrics ∧
      samplesOf .logins (stateOf result).metrics = samplesOf .logins visit.metrics := by
  intro result
  obtain ⟨requests, read, course, done⟩ := indexer.search_course query visit
  have whole : result = _ := done
  rw [whole, stateOf_resultOf, outcomeOf_resultOf, searchSample_eq]
  constructor
  · rw [← samplesOf_told (.inl rfl) indexer.definition.site read.1 visit.metrics]
    rfl
  · rw [← samplesOf_told (.inr rfl) indexer.definition.site read.1 visit.metrics]
    rfl

/-! ### Diaries that agree with the counts -/

/-- What is noted is what is counted, in the same order. -/
structure Agrees (diary : Diary State) : Prop where
  searches : samplesOf .searches diary.visit.metrics =
    diary.searches.map (sampleBy .searches searchOutcomeLabel)
  logins : samplesOf .logins diary.visit.metrics =
    diary.attempts.map (sampleBy .logins loginOutcomeLabel)

/-- The operation leaves a diary that agrees. -/
abbrev Accounts {Value : Type} (noted : NotedAct State Value) : Prop :=
  Upholds Agrees (fun _ => True) noted

omit [Browser State] in
theorem accounts_quietly {Value : Type} {act : Act State Value} (nothing : CountsNothing act) :
    Accounts (quietly act) := by
  intro diary agrees
  have same := (nothing diary.visit.metrics diary.visit rfl).1
  rw [quietly, noting, stateOf_resultOf]
  refine ⟨⟨?_, ?_⟩, fun _ _ _ => trivial⟩
  · rw [show (stateOf (act diary.visit)).metrics = _ from same]
    exact agrees.searches
  · rw [show (stateOf (act diary.visit)).metrics = _ from same]
    exact agrees.logins

theorem accounts_notedSearch (indexer : Indexer Kind) (query : Query) :
    Accounts (indexer.notedSearch query : NotedAct State (List Item)) := by
  intro diary agrees
  obtain ⟨searches, logins⟩ := indexer.samplesOf_search query diary.visit
  rw [notedSearch, noting, stateOf_resultOf]
  refine ⟨⟨?_, ?_⟩, fun _ _ _ => trivial⟩
  · show samplesOf .searches (stateOf (indexer.search query diary.visit)).metrics = _
    rw [searches, agrees.searches]
    rfl
  · show samplesOf .logins (stateOf (indexer.search query diary.visit)).metrics = _
    rw [logins]
    exact agrees.logins

theorem accounts_notedLogin (indexer : Indexer Kind) :
    Accounts (indexer.notedLogin : NotedAct State Unit) := by
  intro diary agrees
  have counted := indexer.login_metrics diary.visit
  simp only at counted
  rw [notedLogin, noting, stateOf_resultOf, noteAttempt]
  refine ⟨?_, fun _ _ _ => trivial⟩
  split
  · next wanted =>
    rw [if_pos wanted] at counted
    constructor
    · show samplesOf .searches (stateOf (indexer.login diary.visit)).metrics = _
      rw [counted]
      exact agrees.searches
    · show samplesOf .logins (stateOf (indexer.login diary.visit)).metrics = _
      rw [counted, List.map_cons, ← agrees.logins]
      rfl
  · next unwanted =>
    rw [if_neg unwanted] at counted
    constructor
    · show samplesOf .searches (stateOf (indexer.login diary.visit)).metrics = _
      rw [counted]
      exact agrees.searches
    · show samplesOf .logins (stateOf (indexer.login diary.visit)).metrics = _
      rw [counted]
      exact agrees.logins

theorem accounts_notedDownload (indexer : Indexer Kind) (link : String) :
    Accounts (indexer.notedDownload link : NotedAct State Download) :=
  indexer.accounts_notedLogin.bind fun _ =>
    (accounts_quietly (indexer.countsNothing_resolvePath link)).bind fun _ =>
      (accounts_quietly (countsNothing_send _)).bind fun _ =>
        (accounts_quietly countsNothing_currentPage).bind fun _ => upholds_pure _

theorem accounts_notedTest (indexer : Indexer Kind) :
    Accounts (indexer.notedTest : NotedAct State Unit) := by
  refine upholds_forM (fun mode => ?_) _
  refine (indexer.accounts_notedSearch _).bind fun items => ?_
  split
  · exact upholds_throw trivial
  · exact accounts_quietly (countsNothing_lift _ _)

/-! ### Whole sessions -/

/-- What a site is asked to do during a session. -/
inductive Errand
  | login
  | search (query : Query)
  | download (link : String)
  | test

/-- Runs an errand. -/
def run (indexer : Indexer Kind) : Errand → Act State Unit
  | .login => indexer.login
  | .search query => do let _ ← indexer.search query
  | .download link => do let _ ← indexer.download link
  | .test => indexer.test

/-- Runs an errand, with notes. -/
def notedRun (indexer : Indexer Kind) : Errand → NotedAct State Unit
  | .login => indexer.notedLogin
  | .search query => do let _ ← indexer.notedSearch query
  | .download link => do let _ ← indexer.notedDownload link
  | .test => indexer.notedTest

theorem follows_notedRun (indexer : Indexer Kind) (errand : Errand) :
    Follows (indexer.notedRun errand : NotedAct State Unit) (indexer.run errand) := by
  cases errand with
  | login => exact indexer.follows_notedLogin
  | search query => exact (indexer.follows_notedSearch query).bind fun _ => follows_pure ()
  | download link => exact (indexer.follows_notedDownload link).bind fun _ => follows_pure ()
  | test => exact indexer.follows_notedTest

theorem accounts_notedRun (indexer : Indexer Kind) (errand : Errand) :
    Accounts (indexer.notedRun errand : NotedAct State Unit) := by
  cases errand with
  | login => exact indexer.accounts_notedLogin
  | search query => exact (indexer.accounts_notedSearch query).bind fun _ => upholds_pure ()
  | download link => exact (indexer.accounts_notedDownload link).bind fun _ => upholds_pure ()
  | test => exact indexer.accounts_notedTest

/-- The visit behind errands of any sites, one after the other, whatever came of each. -/
def runAll (errands : List (Indexer Kind × Errand)) (visit : Visit State) : Visit State :=
  errands.foldl (fun visit (indexer, errand) => stateOf (indexer.run errand visit)) visit

/-- The diary behind such errands. -/
def notedRunAll (errands : List (Indexer Kind × Errand)) (diary : Diary State) : Diary State :=
  errands.foldl (fun diary (indexer, errand) => stateOf (indexer.notedRun errand diary)) diary

/-- One errand, and by induction a whole session: the diary goes along with the visit, and it
agrees with the counts. -/
theorem notedRunAll_agrees (errands : List (Indexer Kind × Errand)) {diary : Diary State}
    (agrees : Agrees diary) :
    (notedRunAll errands diary).visit = runAll errands diary.visit ∧
      Agrees (notedRunAll errands diary) := by
  induction errands generalizing diary with
  | nil => exact ⟨rfl, agrees⟩
  | cons head rest inductionHypothesis =>
    obtain ⟨indexer, errand⟩ := head
    obtain ⟨kept, -⟩ := indexer.accounts_notedRun errand diary agrees
    obtain ⟨visit, agreesThen⟩ := inductionHypothesis kept
    refine ⟨?_, agreesThen⟩
    rw [notedRunAll, List.foldl_cons, ← notedRunAll, visit,
      (indexer.follows_notedRun errand diary).2]
    rfl

/-! ### The counts -/

/-- What came of what was noted for a site. -/
def outcomesOf {Value : Type} (site : String) (notes : List (Note Value)) :
    List (Except Error Value) :=
  (notes.filter fun note => note.site == site).map Note.outcome

/-- Nothing was found. -/
def foundNothing : Except Error (List Item) → Bool
  | .ok items => items.isEmpty
  | .error _ => false

/-- The site said no. -/
def wasRejected : Except Error Unit → Bool
  | .error (.login _) => true
  | _ => false

/-- It ended in an error. -/
def wentWrong {Value : Type} : Except Error Value → Bool
  | .ok _ => false
  | .error _ => true

omit [Browser State] [Settings.Keeper Kind] in
/-- The count of a sample with one label of two is that of its label among the outcomes for its
site. -/
theorem count_samples {Value : Type} (metric : Metric) (labelOf : Except Error Value → String)
    (notes : List (Note Value)) (site label : String) :
    (notes.map (sampleBy metric labelOf)).count ⟨metric, [site, label]⟩ =
      (outcomesOf site notes).countP fun outcome => labelOf outcome == label := by
  induction notes with
  | nil => rfl
  | cons note rest inductionHypothesis =>
    rw [List.map_cons, List.count_cons, inductionHypothesis, outcomesOf, outcomesOf,
      List.filter_cons]
    by_cases here : note.site = site
    · simp [here, sampleBy, List.countP_cons]
    · simp [here, sampleBy]

theorem tally_of_samplesOf {metrics : Metrics} {sample : Sample} :
    metrics.tally sample = (samplesOf sample.metric metrics).count sample := by
  rw [samplesOf, List.count_filter (by simp), Metrics.tally]

/-- What is counted with one of three labels each is counted with all of them together. -/
theorem length_eq_countP {Value : Type} {labelOf : Value → String} {first second third : String}
    (distinct : [first, second, third].Nodup)
    (labelled : ∀ value, labelOf value ∈ [first, second, third]) (values : List Value) :
    values.countP (labelOf · == first) + values.countP (labelOf · == second) +
      values.countP (labelOf · == third) = values.length := by
  induction values with
  | nil => rfl
  | cons value rest inductionHypothesis =>
    have one := labelled value
    simp only [List.nodup_cons, List.mem_cons, List.not_mem_nil, or_false, not_or] at distinct one
    obtain ⟨⟨notSecond, notThird⟩, other, -⟩ := distinct
    simp only [List.countP_cons, List.length_cons, ← inductionHypothesis]
    rcases one with here | here | here <;>
      simp [here, notSecond, notThird, other, Ne.symm notSecond, Ne.symm notThird, Ne.symm other] <;>
      omega

theorem searchOutcomeLabel_mem (outcome : Except Error (List Item)) :
    searchOutcomeLabel outcome ∈ ["success", "empty", "failed"] := by
  cases outcome with
  | ok items =>
    simp only [searchOutcomeLabel, searchLabel]
    cases items.isEmpty <;> decide
  | error error => simp [searchOutcomeLabel]

theorem searchOutcomeLabel_empty (outcome : Except Error (List Item)) :
    (searchOutcomeLabel outcome == "empty") = foundNothing outcome := by
  cases outcome with
  | ok items =>
    simp only [searchOutcomeLabel, searchLabel, foundNothing]
    cases items.isEmpty <;> decide
  | error error => simp [searchOutcomeLabel, foundNothing]

theorem searchOutcomeLabel_failed (outcome : Except Error (List Item)) :
    (searchOutcomeLabel outcome == "failed") = wentWrong outcome := by
  cases outcome with
  | ok items =>
    simp only [searchOutcomeLabel, searchLabel, wentWrong]
    cases items.isEmpty <;> decide
  | error error => simp [searchOutcomeLabel, wentWrong]

theorem loginOutcomeLabel_mem (outcome : Except Error Unit) :
    loginOutcomeLabel outcome ∈ ["success", "rejected", "failed"] := by
  cases outcome with
  | ok _ => simp [loginOutcomeLabel]
  | error error => cases error <;> simp [loginOutcomeLabel, failureLabel]

theorem loginOutcomeLabel_rejected (outcome : Except Error Unit) :
    (loginOutcomeLabel outcome == "rejected") = wasRejected outcome := by
  cases outcome with
  | ok _ => simp [loginOutcomeLabel, wasRejected]
  | error error => cases error <;> simp [loginOutcomeLabel, failureLabel, wasRejected]

/-- Over any errands for any sites, from nothing counted, each search and each attempt to log in
is counted once for its site: as many as there are in the diary that is kept beside the visit,
under the label of what came of it. -/
theorem tally_operations (errands : List (Indexer Kind × Errand)) (state : State)
    (site : String) :
    let visit := runAll errands ⟨state, []⟩
    let diary := notedRunAll errands ⟨⟨state, []⟩, [], []⟩
    let searches := outcomesOf site diary.searches
    let attempts := outcomesOf site diary.attempts
    let searched := fun label => visit.metrics.tally ⟨.searches, [site, label]⟩
    let loggedIn := fun label => visit.metrics.tally ⟨.logins, [site, label]⟩
    diary.visit = visit ∧
      (searched "success" + searched "empty" + searched "failed" = searches.length ∧
        searched "empty" = searches.countP foundNothing ∧
        searched "failed" = searches.countP wentWrong) ∧
      (loggedIn "success" + loggedIn "rejected" + loggedIn "failed" = attempts.length ∧
        loggedIn "rejected" = attempts.countP wasRejected) := by
  intro visit diary searches attempts searched loggedIn
  obtain ⟨same, agrees⟩ : diary.visit = visit ∧ Agrees diary :=
    notedRunAll_agrees errands ⟨rfl, rfl⟩
  have searchCount : ∀ label,
      searched label = searches.countP fun outcome => searchOutcomeLabel outcome == label := by
    intro label
    rw [← count_samples .searches, ← agrees.searches, same]
    exact tally_of_samplesOf
  have loginCount : ∀ label,
      loggedIn label = attempts.countP fun outcome => loginOutcomeLabel outcome == label := by
    intro label
    rw [← count_samples .logins, ← agrees.logins, same]
    exact tally_of_samplesOf
  refine ⟨same, ⟨?_, ?_, ?_⟩, ?_, ?_⟩
  · rw [searchCount, searchCount, searchCount]
    exact length_eq_countP (by decide) searchOutcomeLabel_mem searches
  · simp only [searchCount, searchOutcomeLabel_empty]
  · simp only [searchCount, searchOutcomeLabel_failed]
  · rw [loginCount, loginCount, loginCount]
    exact length_eq_countP (by decide) loginOutcomeLabel_mem attempts
  · simp only [loginCount, loginOutcomeLabel_rejected]

end Metasearch.Indexer
