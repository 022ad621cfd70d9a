/-
This file settles what an attempt to log in does that is made again, on whatever visit. How far it
got is kept with it and never asked: no step goes by it, and the end of the attempt overwrites it.
So each run starts over, and does what the first run of an attempt does on the same visit.

An attempt that failed is therefore not over. Run again it opens the login page if the path leads
there, and it logs in if the site lets it; it stays failed, and sends nothing, exactly when the
path leads nowhere.
-/
import Metasearch.Proofs.Downloads

namespace Metasearch.Indexer

open Browser (sendAll)

variable {State : Type}

/-! ### Steps -/

/-- A step goes by the visit, and not by how far the attempt got before. -/
def GoesByVisit {Value : Type} (step : AttemptStep State Value) : Prop :=
  ∀ visit first second, outcomeOf (step ⟨visit, first⟩) = outcomeOf (step ⟨visit, second⟩) ∧
    (stateOf (step ⟨visit, first⟩)).visit = (stateOf (step ⟨visit, second⟩)).visit

section GoesByVisit

variable {First Second : Type}

theorem goesByVisit_pure (value : First) :
    GoesByVisit (pure value : AttemptStep State First) :=
  fun _ _ _ => ⟨rfl, rfl⟩

theorem goesByVisit_throw (error : Error) :
    GoesByVisit (throw error : AttemptStep State First) :=
  fun _ _ _ => ⟨rfl, rfl⟩

theorem goesByVisit_reach (state : LoginState) :
    GoesByVisit (reach state : AttemptStep State Unit) :=
  fun _ _ _ => ⟨rfl, rfl⟩

theorem goesByVisit_onVisit (act : Act State First) : GoesByVisit (onVisit act) := by
  intro visit first second
  unfold onVisit
  cases act visit <;> exact ⟨rfl, rfl⟩

/-- Two runs of a step that goes by the visit differ only in how far the attempt got. -/
theorem GoesByVisit.results {step : AttemptStep State First} (goes : GoesByVisit step)
    (visit : Visit State) (first second : LoginState) :
    ∃ outcome after far other, step ⟨visit, first⟩ = resultOf outcome ⟨after, far⟩ ∧
      step ⟨visit, second⟩ = resultOf outcome ⟨after, other⟩ := by
  obtain ⟨outcome, same⟩ := goes visit first second
  refine ⟨outcomeOf (step ⟨visit, first⟩), (stateOf (step ⟨visit, first⟩)).visit,
    (stateOf (step ⟨visit, first⟩)).state, (stateOf (step ⟨visit, second⟩)).state, ?_, ?_⟩
  · cases step ⟨visit, first⟩ <;> rfl
  · rw [outcome, same]
    cases step ⟨visit, second⟩ <;> rfl

theorem GoesByVisit.bind {step : AttemptStep State First}
    {next : First → AttemptStep State Second} (before : GoesByVisit step)
    (behind : ∀ value, GoesByVisit (next value)) : GoesByVisit (step >>= next) := by
  intro visit first second
  obtain ⟨outcome, after, far, other, one, two⟩ := before.results visit first second
  rw [bind_apply, bind_apply, one, two]
  cases outcome with
  | ok value => exact behind value after far other
  | error error => exact ⟨rfl, rfl⟩

end GoesByVisit

variable {Kind : Type} [Browser State] [Settings.Keeper Kind]

theorem goesByVisit_loginSteps (indexer : Indexer Kind) (login : LoginBlock) :
    GoesByVisit (indexer.loginSteps login : AttemptStep State Unit) := by
  unfold loginSteps
  refine (goesByVisit_onVisit _).bind fun url => (goesByVisit_onVisit _).bind fun _ =>
    (goesByVisit_reach _).bind fun _ => (goesByVisit_onVisit _).bind fun form =>
      (goesByVisit_reach _).bind fun _ => (goesByVisit_onVisit _).bind fun _ =>
        (goesByVisit_reach _).bind fun _ => (goesByVisit_onVisit _).bind fun page =>
          (goesByVisit_onVisit _).bind fun reason => ?_
  cases reason with
  | some reason => exact goesByVisit_throw _
  | none => exact goesByVisit_pure ()

/-- An attempt starts over, however far it got before. -/
theorem attemptLogin_of_state (indexer : Indexer Kind) (login : LoginBlock) (visit : Visit State)
    (state : LoginState) :
    indexer.attemptLogin login ⟨visit, state⟩ = indexer.attemptLogin login ⟨visit, .start⟩ := by
  obtain ⟨outcome, after, far, other, one, two⟩ :=
    (indexer.goesByVisit_loginSteps login).results visit state .start
  cases outcome with
  | ok value => rw [attemptLogin_of_ok one, attemptLogin_of_ok two]
  | error error => rw [attemptLogin_of_error one, attemptLogin_of_error two]

/-! ### Runs in a row -/

/-- A run of an attempt: the visit it is made on, and what comes of it. -/
structure AttemptRun (State : Type) where
  visit : Visit State
  result : EStateM.Result Error (Attempt State) Unit

namespace AttemptRun

/-- How far the attempt has got behind the run. -/
def reached (run : AttemptRun State) : LoginState :=
  (stateOf run.result).state

/-- The browser behind the run. -/
def browser (run : AttemptRun State) : State :=
  (stateOf run.result).visit.browser

end AttemptRun

/-- One attempt made again and again, each time on a visit of its own and from how far it got. -/
def attemptAgain (indexer : Indexer Kind) (login : LoginBlock) :
    LoginState → List (Visit State) → List (AttemptRun State)
  | _, [] => []
  | state, visit :: visits =>
    let run : AttemptRun State := ⟨visit, indexer.attemptLogin login ⟨visit, state⟩⟩
    run :: attemptAgain indexer login run.reached visits

/-- Once an attempt has failed it stays failed: a later run does not succeed, and sends
nothing. -/
def StaysFailed (earlier later : AttemptRun (Watched State)) : Prop :=
  earlier.reached = .failed →
    later.reached = .failed ∧ ¬ Succeeds later.result ∧
      later.browser.sent = later.visit.browser.sent

/-- Each run comes to what a first run comes to on its visit. -/
theorem attemptAgain_eq (indexer : Indexer Kind) (login : LoginBlock) (state : LoginState)
    (visits : List (Visit State)) :
    indexer.attemptAgain login state visits =
      visits.map fun visit => ⟨visit, indexer.attemptLogin login ⟨visit, .start⟩⟩ := by
  induction visits generalizing state with
  | nil => rfl
  | cons visit rest inductionHypothesis =>
    rw [attemptAgain, inductionHypothesis, attemptLogin_of_state, List.map_cons]

/-- An attempt sends nothing exactly if the path of the login page leads nowhere. -/
theorem Course.nil_iff {indexer : Indexer Kind} {login : LoginBlock} {state : State}
    {requests : List Request} (course : Course indexer login state requests) :
    requests = [] ↔
      ∃ error, indexer.addressFrom (Browser.page? state) login.path = .error error := by
  cases course with
  | unreached error lost => simp [lost]
  | unfilled url reached stopped => simp [reached]
  | sent url form reached opened filled => simp [reached]

/-- What a run does is what the course of an attempt on its visit says, whatever the runs before it
came to. -/
structure RunsAfresh (indexer : Indexer Kind) (login : LoginBlock)
    (run : AttemptRun (Watched State)) (requests : List Request) : Prop where
  course : Course indexer login run.visit.browser requests
  sent : run.browser.sent = run.visit.browser.sent ++ requests
  succeeds : Succeeds run.result ↔ Accepted indexer login run.visit.browser requests
  loggedIn : run.reached = .loggedIn ↔ Succeeds run.result
  failed : run.reached = .failed ↔ ¬ Succeeds run.result

/-- A run stays failed behind a failed one exactly if the path of the login page leads nowhere
from where its browser is. -/
theorem RunsAfresh.staysFailed_iff {indexer : Indexer Kind} {login : LoginBlock}
    {earlier later : AttemptRun (Watched State)} {requests : List Request}
    (afresh : RunsAfresh indexer login later requests) :
    StaysFailed earlier later ↔
      (earlier.reached = .failed → ∃ error,
        indexer.addressFrom (Browser.page? later.visit.browser) login.path = .error error) := by
  have silent : later.browser.sent = later.visit.browser.sent ↔ requests = [] := by
    rw [afresh.sent, List.append_right_eq_self]
  refine forall_congr' fun _ => ?_
  rw [silent, afresh.course.nil_iff.symm]
  refine ⟨fun stays => stays.2.2, fun nothing => ?_⟩
  have fails : ¬ Succeeds later.result := by
    rw [afresh.succeeds, nothing]
    rintro ⟨_, _, _, ⟨⟩, -⟩
  exact ⟨afresh.failed.mpr fails, fails, nothing⟩

/-- One attempt made again and again, on any visits. Each run comes to what the first run of an
attempt would come to on the same visit, and sends what that would send. So a failed attempt stays
failed, without another request, exactly if in no run behind a failed one the path of the login
page leads anywhere. -/
theorem attemptAgain_startsOver (indexer : Indexer Kind) (login : LoginBlock)
    (visits : List (Visit (Watched State))) :
    let runs := indexer.attemptAgain login .start visits
    runs.map AttemptRun.result =
        visits.map (fun visit => indexer.attemptLogin login ⟨visit, .start⟩) ∧
      (∀ run ∈ runs, ∃ requests, RunsAfresh indexer login run requests) ∧
      (runs.Pairwise StaysFailed ↔
        runs.Pairwise fun earlier later => earlier.reached = .failed → ∃ error,
          indexer.addressFrom (Browser.page? later.visit.browser) login.path = .error error) := by
  intro runs
  have whole : runs = visits.map _ := indexer.attemptAgain_eq login .start visits
  have each : ∀ run ∈ runs, ∃ requests, RunsAfresh indexer login run requests := by
    intro run member
    rw [whole] at member
    obtain ⟨visit, -, rfl⟩ := List.mem_map.mp member
    obtain ⟨requests, course, -, kept, succeeds, loggedIn, failed⟩ :=
      indexer.attemptLogin_course login visit
    refine ⟨requests, course, ?_, succeeds, loggedIn, failed⟩
    rw [AttemptRun.browser, kept, Watched.sendAll_eq]
  refine ⟨?_, each, List.Pairwise.iff_of_mem fun {earlier later} _ member => ?_⟩
  · rw [whole, List.map_map]
    rfl
  · obtain ⟨requests, afresh⟩ := each later member
    exact afresh.staysFailed_iff

/-! ### A failed attempt that logs in -/

/-- A visit whose browser finds nothing at any address. -/
def blankStart : Visit (Watched Mirror) := ⟨⟨⟨"", none⟩, []⟩, []⟩

/-- The login of `passwordSite`. -/
def passwordLogin : LoginBlock :=
  ⟨"/login.php", "form", [("password", "\x7b\x7b .Config.password \x7d\x7d")], []⟩

/-- A failed attempt does not stay failed: run again where there is a form, it sends the form and
logs in. -/
theorem attemptAgain_recovers :
    let runs := passwordSite.attemptAgain passwordLogin .start [blankStart, passwordStart]
    runs.map AttemptRun.reached = [.failed, .loggedIn] ∧
      runs.map (fun run => run.browser.sent.length) = [1, 2] ∧
      ¬ runs.Pairwise StaysFailed := by
  intro runs
  have reached : runs.map AttemptRun.reached = [.failed, .loggedIn] := by decide +kernel
  have sent : runs.map (fun run => run.browser.sent.length) = [1, 2] := by decide +kernel
  refine ⟨reached, sent, fun stays => ?_⟩
  obtain ⟨first, second, both⟩ : ∃ first second, runs = [first, second] := ⟨_, _, rfl⟩
  rw [both] at reached stays
  obtain ⟨failed, loggedIn⟩ : first.reached = .failed ∧ second.reached = .loggedIn := by
    simpa using reached
  have still := (List.rel_of_pairwise_cons stays List.mem_cons_self failed).1
  rw [loggedIn] at still
  cases still

end Metasearch.Indexer
