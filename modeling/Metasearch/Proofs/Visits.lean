/-
This file says what the smallest operations on a visit do, so that nothing else has to open
them: an outcome that is handed on, a request that is sent, the page that is shown, and an
address that a path leads to. What the browser is like afterwards is said by the requests that
it was sent, one after the other.
-/
import Metasearch.Indexer.Search

namespace Metasearch

/-! ### Requests in a row -/

namespace Browser

variable {State : Type} [Browser State]

/-- The browser behind requests in a row, whatever came of each. -/
def sendAll (requests : List Request) (state : State) : State :=
  requests.foldl (fun state request => (Browser.send request state).2) state

@[simp] theorem sendAll_nil (state : State) : sendAll [] state = state := rfl

@[simp] theorem sendAll_cons (request : Request) (requests : List Request) (state : State) :
    sendAll (request :: requests) state = sendAll requests (Browser.send request state).2 := rfl

theorem sendAll_append (first second : List Request) (state : State) :
    sendAll (first ++ second) state = sendAll second (sendAll first state) :=
  List.foldl_append

/-- The browser answers a request. -/
def Answers (request : Request) (state : State) : Prop :=
  (Browser.send request state).1 = none

theorem not_answers {request : Request} {state : State} {error : Browser.Error}
    (trouble : (Browser.send request state).1 = some error) : ¬ Answers request state := by
  simp [Answers, trouble]

end Browser

/-- A browser, and the requests that were sent since the record of them was begun. -/
structure Watched (State : Type) where
  browser : State
  sent : List Request

namespace Watched

variable {State : Type} [Browser State]

instance : Browser (Watched State) where
  send request watched :=
    let (trouble, browser) := Browser.send request watched.browser
    (trouble, ⟨browser, watched.sent ++ [request]⟩)
  page? watched := Browser.page? watched.browser

theorem sendAll_eq (requests : List Request) (watched : Watched State) :
    Browser.sendAll requests watched =
      ⟨Browser.sendAll requests watched.browser, watched.sent ++ requests⟩ := by
  induction requests generalizing watched with
  | nil => simp
  | cons request rest inductionHypothesis =>
    rw [Browser.sendAll_cons, inductionHypothesis]
    simp [Browser.send]

end Watched

namespace Indexer

variable {State : Type}

/-! ### Outcomes -/

/-- The state that an outcome leaves behind, whether it is a value or an error. -/
def stateOf {Cause State Value : Type} : EStateM.Result Cause State Value → State
  | .ok _ state => state
  | .error _ state => state

/-- What an operation comes to, whichever state it leaves behind. -/
def outcomeOf {Cause State Value : Type} : EStateM.Result Cause State Value → Except Cause Value
  | .ok value _ => .ok value
  | .error cause _ => .error cause

/-- The result of an operation that comes to an outcome and leaves a state behind. -/
def resultOf {Cause State Value : Type} (outcome : Except Cause Value) (state : State) :
    EStateM.Result Cause State Value :=
  match outcome with
  | .ok value => .ok value state
  | .error cause => .error cause state

@[simp] theorem stateOf_resultOf {Cause State Value : Type} (outcome : Except Cause Value)
    (state : State) : stateOf (resultOf outcome state) = state := by
  cases outcome <;> rfl

@[simp] theorem outcomeOf_resultOf {Cause State Value : Type} (outcome : Except Cause Value)
    (state : State) : outcomeOf (resultOf outcome state) = outcome := by
  cases outcome <;> rfl

theorem bind_apply {Cause State First Second : Type} (act : EStateM Cause State First)
    (next : First → EStateM Cause State Second) (state : State) :
    (act >>= next) state =
      match act state with
      | .ok value state => next value state
      | .error cause state => .error cause state := rfl

theorem bind_of_ok {Cause State First Second : Type} {act : EStateM Cause State First}
    {next : First → EStateM Cause State Second} {state after : State} {value : First}
    (done : act state = .ok value after) : (act >>= next) state = next value after := by
  rw [bind_apply, done]

theorem bind_of_error {Cause State First Second : Type} {act : EStateM Cause State First}
    {next : First → EStateM Cause State Second} {state after : State} {cause : Cause}
    (failed : act state = .error cause after) : (act >>= next) state = .error cause after := by
  rw [bind_apply, failed]

theorem get_bind {Cause State Value : Type} (next : State → EStateM Cause State Value)
    (state : State) : (get >>= next) state = next state state := rfl

@[simp] theorem lift_ok {Cause Value : Type} (wrap : Cause → Error) (value : Value)
    (visit : Visit State) : lift wrap (.ok value) visit = .ok value visit := rfl

@[simp] theorem lift_error {Cause Value : Type} (wrap : Cause → Error) (cause : Cause)
    (visit : Visit State) :
    lift wrap (.error cause : Except Cause Value) visit = .error (wrap cause) visit := rfl

/-- Outcomes one after the other are the outcome of both. -/
theorem lift_bind_lift {Cause First Second : Type} (wrap : Cause → Error)
    (outcome : Except Cause First) (next : First → Except Error Second) :
    (lift wrap outcome >>= fun value => lift id (next value) : Act State Second) =
      lift id (outcome.mapError wrap >>= next) := by
  cases outcome <;> rfl

/-! ### What operations keep -/

/-- An operation keeps its state steady, and nothing goes wrong in it but what is allowed to. -/
def Upholds {Cause State Value : Type} (steady : State → Prop) (allowed : Cause → Prop)
    (act : EStateM Cause State Value) : Prop :=
  ∀ state, steady state → steady (stateOf (act state)) ∧
    ∀ cause after, act state = .error cause after → allowed cause

section Upholds

variable {Cause First Second : Type} {steady : State → Prop} {allowed : Cause → Prop}

theorem upholds_pure (value : First) :
    Upholds steady allowed (pure value : EStateM Cause State First) :=
  fun _ holds => ⟨holds, by rintro cause after ⟨⟩⟩

theorem upholds_throw {cause : Cause} (fine : allowed cause) :
    Upholds steady allowed (throw cause : EStateM Cause State First) :=
  fun _ holds => ⟨holds, by rintro _ _ ⟨⟩; exact fine⟩

theorem Upholds.bind {act : EStateM Cause State First}
    {next : First → EStateM Cause State Second} (before : Upholds steady allowed act)
    (behind : ∀ value, Upholds steady allowed (next value)) :
    Upholds steady allowed (act >>= next) := by
  intro state holds
  obtain ⟨kept, fine⟩ := before state holds
  rw [bind_apply]
  cases done : act state with
  | ok value after =>
    rw [done] at kept
    exact behind value after kept
  | error cause after =>
    rw [done] at kept
    exact ⟨kept, by rintro _ _ ⟨⟩; exact fine cause after done⟩

theorem upholds_forM {Item : Type} {act : Item → EStateM Cause State Unit}
    (each : ∀ item, Upholds steady allowed (act item)) (list : List Item) :
    Upholds steady allowed (list.forM act) := by
  induction list with
  | nil => exact upholds_pure ()
  | cons head rest inductionHypothesis => exact (each head).bind fun _ => inductionHypothesis

end Upholds

variable [Browser State]

/-! ### Requests and pages -/

theorem send_of_answers {request : Request} {visit : Visit State}
    (answered : Browser.Answers request visit.browser) :
    send request visit =
      .ok () { visit with browser := (Browser.send request visit.browser).2 } := by
  have sent : Browser.send request visit.browser =
      (none, (Browser.send request visit.browser).2) := Prod.ext answered rfl
  rw [send, get_bind, sent]
  rfl

theorem send_of_trouble {request : Request} {visit : Visit State} {error : Browser.Error}
    (trouble : (Browser.send request visit.browser).1 = some error) :
    send request visit = .error (.browser error)
      { visit with browser := (Browser.send request visit.browser).2 } := by
  have sent : Browser.send request visit.browser =
      (some error, (Browser.send request visit.browser).2) := Prod.ext trouble rfl
  rw [send, get_bind, sent]
  rfl

/-- The page that a browser shows, or the error of an operation that needs one. -/
def shownPage (state : State) : Except Browser.Error Page :=
  match Browser.page? state with
  | some page => .ok page
  | none => .error .noPage

theorem currentPage_apply (visit : Visit State) :
    currentPage visit = lift .browser (shownPage visit.browser) visit := by
  rw [currentPage, get_bind, shownPage]
  cases Browser.page? visit.browser <;> rfl

/-! ### Addresses -/

variable {Kind : Type} [Settings.Keeper Kind]

/-- Where a visit is whose browser shows some page, or none. -/
def placeOn (indexer : Indexer Kind) (page : Option Page) : Except Error Url :=
  match page with
  | some page => .ok page.url
  | none => indexer.startUrl

/-- The address that a path leads to from some page, or from none. -/
def addressFrom (indexer : Indexer Kind) (page : Option Page) (path : String) :
    Except Error Url := do
  let base ← indexer.placeOn page
  (base.join path).mapError (.badUrl path)

theorem currentUrl_apply (indexer : Indexer Kind) (visit : Visit State) :
    indexer.currentUrl visit =
      lift id (indexer.placeOn (Browser.page? visit.browser)) visit := by
  rw [currentUrl, get_bind]
  cases Browser.page? visit.browser <;> rfl

theorem resolvePath_apply (indexer : Indexer Kind) (path : String) (visit : Visit State) :
    indexer.resolvePath path visit =
      lift id (indexer.addressFrom (Browser.page? visit.browser) path) visit := by
  rw [resolvePath, bind_apply, currentUrl_apply, addressFrom]
  cases indexer.placeOn (Browser.page? visit.browser) with
  | error error => rfl
  | ok base =>
    show lift (.badUrl path) (base.join path) visit =
      lift id ((base.join path).mapError (.badUrl path)) visit
    cases base.join path <;> rfl

theorem resolvePath_of_ok {indexer : Indexer Kind} {path : String} {visit : Visit State} {url : Url}
    (reached : indexer.addressFrom (Browser.page? visit.browser) path = .ok url) :
    indexer.resolvePath path visit = .ok url visit := by
  rw [resolvePath_apply, reached, lift_ok]

theorem resolvePath_of_error {indexer : Indexer Kind} {path : String} {visit : Visit State}
    {error : Error}
    (lost : indexer.addressFrom (Browser.page? visit.browser) path = .error error) :
    indexer.resolvePath path visit = .error error visit := by
  rw [resolvePath_apply, lost, lift_error, id]

end Indexer

end Metasearch
