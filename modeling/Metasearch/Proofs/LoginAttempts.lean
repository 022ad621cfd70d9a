/-
This file settles what one attempt to log in does, whatever the browser answers. It sends no more
than two requests: the login page is opened, and the form on it is sent, filled in, if the page
was opened and everything that is to be filled in is there. The attempt is successful exactly if
both are answered and the page that comes back shows no sign of failure; how far it got says in
the end whether it was.

The form that is sent is the one on the page, field for field: only the first field of each name
that is filled in has another value.
-/
import Mathlib
import Metasearch.Proofs.Outcomes
import Metasearch.Proofs.Visits

namespace Metasearch.Indexer

open Browser (Answers sendAll)

/-! ### Filling in a form -/

/-- The value of a name, the last if it has several. -/
def lastValue? (values : List (String × String)) (name : String) : Option String :=
  values.reverse.lookup name

/-- Fields behind those of some names, each first one of its name with the value that the name is
given, if it is given one. -/
def filledFields (values : List (String × String)) (before : List String) :
    List (String × String) → List (String × String)
  | [] => []
  | (name, old) :: rest =>
    (name, if before.contains name then old else (lastValue? values name).getD old) ::
      filledFields values (name :: before) rest

theorem lastValue?_cons_self (values : List (String × String)) (name value : String) :
    lastValue? ((name, value) :: values) name = some ((lastValue? values name).getD value) := by
  unfold lastValue?
  rw [List.reverse_cons, List.lookup_append, List.lookup_cons_self]
  cases values.reverse.lookup name <;> rfl

theorem lastValue?_cons_of_ne {name other : String} (different : other ≠ name)
    (values : List (String × String)) (value : String) :
    lastValue? ((name, value) :: values) other = lastValue? values other := by
  unfold lastValue?
  rw [List.reverse_cons, List.lookup_append]
  have none : List.lookup other [(name, value)] = none := by
    rw [List.lookup_cons, beq_false_of_ne different]
    rfl
  rw [none, Option.or_none]

theorem filledFields_nil (before : List String) (fields : List (String × String)) :
    filledFields [] before fields = fields := by
  induction fields generalizing before with
  | nil => rfl
  | cons head rest inductionHypothesis =>
    obtain ⟨name, old⟩ := head
    rw [filledFields, inductionHypothesis]
    simp [lastValue?]

/-- A value for a name that a field in front has is for that field. -/
theorem filledFields_cons_of_mem {name : String} {before : List String}
    (member : name ∈ before) (value : String) (values fields : List (String × String)) :
    filledFields ((name, value) :: values) before fields = filledFields values before fields := by
  induction fields generalizing before with
  | nil => rfl
  | cons head rest inductionHypothesis =>
    obtain ⟨other, old⟩ := head
    rw [filledFields, filledFields, inductionHypothesis (List.mem_cons_of_mem _ member)]
    by_cases same : other = name
    · subst same
      simp [member]
    · rw [lastValue?_cons_of_ne same]

/-- The first value is put in, and then the others. -/
theorem filledFields_cons {name value : String} {before : List String}
    {fields changed : List (String × String)} (fresh : name ∉ before)
    (put : Form.setFirst? name value fields = some changed) (values : List (String × String)) :
    filledFields ((name, value) :: values) before fields =
      filledFields values before changed := by
  induction fields generalizing before changed with
  | nil => cases put
  | cons head rest inductionHypothesis =>
    obtain ⟨other, old⟩ := head
    rw [Form.setFirst?] at put
    by_cases same : other = name
    · subst same
      rw [if_pos (beq_self_eq_true other)] at put
      cases put
      rw [filledFields, filledFields, filledFields_cons_of_mem List.mem_cons_self,
        lastValue?_cons_self]
      simp [fresh]
    · rw [if_neg (by simpa using same)] at put
      obtain ⟨later, putLater, rfl⟩ := Option.map_eq_some_iff.mp put
      have freshLater : name ∉ other :: before := by
        simp [fresh, Ne.symm same]
      rw [filledFields, filledFields, inductionHypothesis freshLater putLater,
        lastValue?_cons_of_ne same]

/-- The names of the fields stay as they are. -/
theorem setFirst?_names {name value : String} {fields changed : List (String × String)}
    (put : Form.setFirst? name value fields = some changed) :
    changed.map Prod.fst = fields.map Prod.fst := by
  induction fields generalizing changed with
  | nil => cases put
  | cons head rest inductionHypothesis =>
    obtain ⟨other, old⟩ := head
    rw [Form.setFirst?] at put
    split at put
    · cases put
      rfl
    · obtain ⟨later, putLater, rfl⟩ := Option.map_eq_some_iff.mp put
      simp [inductionHypothesis putLater]

theorem setFirst?_isSome {name value : String} {fields : List (String × String)} :
    (Form.setFirst? name value fields).isSome ↔ name ∈ fields.map Prod.fst := by
  induction fields with
  | nil => simp [Form.setFirst?]
  | cons head rest inductionHypothesis =>
    obtain ⟨other, old⟩ := head
    rw [Form.setFirst?]
    by_cases same : other = name
    · simp [same]
    · rw [if_neg (by simpa using same), Option.isSome_map, inductionHypothesis]
      simp [Ne.symm same]

theorem set_eq_ok {form changed : Form} {name value : String} :
    form.set name value = .ok changed ↔
      ∃ fields, Form.setFirst? name value form.fields = some fields ∧
        { form with fields } = changed := by
  unfold Form.set
  cases Form.setFirst? name value form.fields <;> simp

/-- A form with the first field of each name given the value for that name; action, method, the
other fields and the order of all are as they were. -/
def withValues (values : List (String × String)) (form : Form) : Form :=
  { form with fields := filledFields values [] form.fields }

/-- What the template of an input comes to, going by the keys and values of a section. -/
def inputValue (keys : List (String × String)) (template : String) :
    Except Template.Error String :=
  Template.resolve "login_inputs" template
    (.map [("Config", .map (keys.map fun (key, value) => (key, Template.Value.text value)))])

/-- A form can be filled in exactly if the template of every input comes to a value and every
input is a field; then these fields have the values, and all else is as it was. -/
theorem fillFields_eq_ok {keys : List (String × String)} {form filled : Form}
    {inputs : List (String × String)} :
    fillFields keys form inputs = .ok filled ↔
      ∃ values, List.Forall₂ (fun input value => inputValue keys input.2 = .ok value)
          inputs values ∧
        (∀ input ∈ inputs, input.1 ∈ form.fields.map Prod.fst) ∧
        filled = withValues ((inputs.map Prod.fst).zip values) form := by
  induction inputs generalizing form filled with
  | nil =>
    constructor
    · intro done
      obtain rfl := Except.ok.inj done
      exact ⟨[], .nil, by simp, by simp [withValues, filledFields_nil]⟩
    · rintro ⟨values, each, -, rfl⟩
      cases each
      simp [fillFields, withValues, filledFields_nil]
  | cons head rest inductionHypothesis =>
    obtain ⟨name, template⟩ := head
    -- The head is put in first, so that the rest fills in a form with other values in its fields.
    have step : ∀ {value : String} {fields : List (String × String)},
        Form.setFirst? name value form.fields = some fields → ∀ values,
        withValues ((((name, template) :: rest).map Prod.fst).zip (value :: values)) form =
          withValues ((rest.map Prod.fst).zip values) { form with fields } := by
      intro value fields put values
      simp only [withValues, List.map_cons, List.zip_cons_cons,
        filledFields_cons List.not_mem_nil put]
    constructor
    · intro done
      obtain ⟨value, resolved, done⟩ := except_of_bind done
      obtain ⟨changed, set, done⟩ := except_of_bind done
      obtain ⟨fields, put, rfl⟩ := set_eq_ok.mp (mapError_eq_ok.mp set)
      obtain ⟨values, each, named, rfl⟩ := inductionHypothesis.mp done
      have names := setFirst?_names put
      refine ⟨value :: values, .cons (mapError_eq_ok.mp resolved) each,
        List.forall_mem_cons.mpr
          ⟨setFirst?_isSome.mp (Option.isSome_of_mem put), fun input member => ?_⟩,
        (step put values).symm⟩
      exact names ▸ named input member
    · rintro ⟨_, all, named, rfl⟩
      obtain ⟨value, values, resolved, each, rfl⟩ := List.forall₂_cons_left_iff.mp all
      obtain ⟨here, later⟩ := List.forall_mem_cons.mp named
      have isField : (Form.setFirst? name value form.fields).isSome := setFirst?_isSome.mpr here
      obtain ⟨fields, put⟩ := Option.isSome_iff_exists.mp isField
      have namedLater : ∀ input ∈ rest, input.1 ∈ fields.map Prod.fst :=
        fun input member => setFirst?_names put ▸ later input member
      rw [step put]
      show ((inputValue keys template).mapError Error.template >>= fun value =>
        (form.set name value).mapError Error.browser >>= fun form =>
          fillFields keys form rest) = _
      rw [resolved]
      show ((form.set name value).mapError Error.browser >>= fun form =>
        fillFields keys form rest) = _
      rw [set_eq_ok.mpr ⟨fields, put, rfl⟩]
      exact inductionHypothesis.mpr ⟨values, each, namedLater, rfl⟩

/-- Of two fields with one name, only the first takes the value. -/
example : withValues [("user", "me")] ⟨Filter.anyBase, .post, [("user", ""), ("user", "you")]⟩ =
    ⟨Filter.anyBase, .post, [("user", "me"), ("user", "you")]⟩ := by decide

/-! ### Steps -/

variable {State : Type}

theorem onVisit_ok {Value : Type} {act : Act State Value} {attempt : Attempt State}
    {value : Value} {visit : Visit State} (done : act attempt.visit = .ok value visit) :
    onVisit act attempt = .ok value { attempt with visit } := by
  simp only [onVisit, done]

theorem onVisit_error {Value : Type} {act : Act State Value} {attempt : Attempt State}
    {error : Error} {visit : Visit State} (done : act attempt.visit = .error error visit) :
    onVisit act attempt = .error error { attempt with visit } := by
  simp only [onVisit, done]

theorem reach_bind {Value : Type} (further : LoginState) (next : Unit → AttemptStep State Value)
    (attempt : Attempt State) :
    (reach further >>= next) attempt = next () { attempt with state := further } := rfl

/-- What an operation on the visit keeps, it keeps as a step. -/
theorem upholds_onVisit {Value : Type} {steady : Visit State → Prop} {allowed : Error → Prop}
    {act : Act State Value} (upholds : Upholds steady allowed act) :
    Upholds (fun attempt => steady attempt.visit) allowed (onVisit act) := by
  intro attempt holds
  obtain ⟨kept, fine⟩ := upholds attempt.visit holds
  cases done : act attempt.visit with
  | ok value visit =>
    rw [done] at kept
    rw [onVisit_ok done]
    exact ⟨kept, by rintro _ _ ⟨⟩⟩
  | error error visit =>
    rw [done] at kept
    rw [onVisit_error done]
    exact ⟨kept, by rintro _ _ ⟨⟩; exact fine error visit done⟩

theorem upholds_reach (steady : Visit State → Prop) {allowed : Error → Prop} (state : LoginState) :
    Upholds (fun attempt => steady attempt.visit) allowed
      (reach state : AttemptStep State Unit) :=
  fun _ holds => ⟨holds, by rintro _ _ ⟨⟩⟩

variable {Kind : Type} [Browser State]

/-- There is a value. -/
def Succeeds {Cause State Value : Type} (result : EStateM.Result Cause State Value) : Prop :=
  ∃ value after, result = .ok value after

@[simp] theorem not_succeeds_error {Cause State Value : Type} (cause : Cause) (state : State) :
    ¬ Succeeds (.error cause state : EStateM.Result Cause State Value) := by
  rintro ⟨_, _, ⟨⟩⟩

@[simp] theorem succeeds_ok {Cause State Value : Type} (value : Value) (state : State) :
    Succeeds (.ok value state : EStateM.Result Cause State Value) :=
  ⟨value, state, rfl⟩

theorem succeeds_of_outcome {Cause State Value : Type} {result : EStateM.Result Cause State Value}
    {value : Value} (came : outcomeOf result = .ok value) : Succeeds result := by
  cases result with
  | ok value after => exact succeeds_ok value after
  | error cause after => cases came

/-- The end of an attempt, once the form is sent: the page that comes back is looked at. -/
def judge (indexer : Indexer Kind) (login : LoginBlock) : AttemptStep State Unit := do
  let page ← onVisit currentPage
  match ← onVisit (lift .ofExtraction (failureOn indexer.context login.errors page)) with
  | some reason => throw (.login reason)
  | none => pure ()

theorem judge_course (indexer : Indexer Kind) (login : LoginBlock) (attempt : Attempt State) :
    (stateOf (indexer.judge login attempt)).visit.browser = attempt.visit.browser ∧
      (Succeeds (indexer.judge login attempt) ↔
        ∃ page, shownPage attempt.visit.browser = .ok page ∧
          failureOn indexer.context login.errors page = .ok none) := by
  unfold judge
  cases shown : shownPage attempt.visit.browser with
  | error error =>
    have opened : currentPage attempt.visit = .error (.browser error) attempt.visit := by
      rw [currentPage_apply, shown, lift_error]
    rw [bind_of_error (onVisit_error opened)]
    exact ⟨rfl, by simp⟩
  | ok page =>
    have opened : currentPage attempt.visit = .ok page attempt.visit := by
      rw [currentPage_apply, shown, lift_ok]
    rw [bind_of_ok (onVisit_ok opened)]
    cases judged : failureOn indexer.context login.errors page with
    | error error =>
      rw [bind_of_error (onVisit_error (lift_error _ _ _))]
      exact ⟨rfl, by simp [judged]⟩
    | ok reason =>
      rw [bind_of_ok (onVisit_ok (lift_ok _ _ _))]
      cases reason with
      | some reason =>
        exact ⟨rfl, iff_of_false (not_succeeds_error _ _) (by simp [judged])⟩
      | none => exact ⟨rfl, iff_of_true (succeeds_ok _ _) ⟨page, rfl, judged⟩⟩

/-- The steps of an attempt from the filled in form on. -/
def submitAndJudge (indexer : Indexer Kind) (login : LoginBlock) (form : Form) :
    AttemptStep State Unit := do
  onVisit (send (.ofForm form))
  reach .submitted
  indexer.judge login

theorem submitAndJudge_course (indexer : Indexer Kind) (login : LoginBlock) (form : Form)
    (attempt : Attempt State) :
    (stateOf (indexer.submitAndJudge login form attempt)).visit.browser =
        sendAll [.ofForm form] attempt.visit.browser ∧
      (Succeeds (indexer.submitAndJudge login form attempt) ↔
        Answers (.ofForm form) attempt.visit.browser ∧
          ∃ page, shownPage (sendAll [.ofForm form] attempt.visit.browser) = .ok page ∧
            failureOn indexer.context login.errors page = .ok none) := by
  unfold submitAndJudge
  cases sent : (Browser.send (.ofForm form) attempt.visit.browser).1 with
  | some error =>
    rw [bind_of_error (onVisit_error (send_of_trouble sent))]
    exact ⟨rfl, iff_of_false (not_succeeds_error _ _) fun both =>
      Browser.not_answers sent both.1⟩
  | none =>
    rw [bind_of_ok (onVisit_ok (send_of_answers sent)), reach_bind]
    obtain ⟨kept, succeeds⟩ := indexer.judge_course login
      ⟨{ attempt.visit with browser := (Browser.send (.ofForm form) attempt.visit.browser).2 },
        .submitted⟩
    exact ⟨kept, succeeds.trans (and_iff_right sent).symm⟩

variable [Settings.Keeper Kind]

/-! ### The form that is sent -/

/-- A form is the one on the page that a browser shows, filled in: there is a page with a form
that the selector fits, the settings can be asked, the template of each input comes to a value
and each input is a field of the form. -/
def FillsIn (indexer : Indexer Kind) (login : LoginBlock) (state : State) (form : Form) : Prop :=
  ∃ page original keys values,
    shownPage state = .ok page ∧
      Form.ofPage page login.formSelector = .ok original ∧
      Settings.Keeper.keys indexer.store indexer.definition.site = .ok keys ∧
      List.Forall₂ (fun input value => inputValue keys input.2 = .ok value) login.inputs values ∧
      (∀ input ∈ login.inputs, input.1 ∈ original.fields.map Prod.fst) ∧
      form = withValues ((login.inputs.map Prod.fst).zip values) original

/-- The form on the page that a browser shows, filled in, if that can be done. -/
def formOn (indexer : Indexer Kind) (login : LoginBlock) (state : State) : Except Error Form := do
  let page ← (shownPage state).mapError .browser
  let form ← (Form.ofPage page login.formSelector).mapError .browser
  let keys ← (Settings.Keeper.keys indexer.store indexer.definition.site).mapError .settings
  fillFields keys form login.inputs

theorem filledForm_apply (indexer : Indexer Kind) (login : LoginBlock) (visit : Visit State) :
    indexer.filledForm login visit = lift id (indexer.formOn login visit.browser) visit := by
  unfold filledForm formOn
  rw [bind_apply, currentPage_apply]
  cases shownPage visit.browser with
  | error error => rfl
  | ok page =>
    show (lift .browser (Form.ofPage page login.formSelector) >>= fun form =>
      lift .settings (Settings.Keeper.keys indexer.store indexer.definition.site) >>= fun keys =>
        lift id (fillFields keys form login.inputs)) visit = _
    simp only [lift_bind_lift]
    rfl

theorem formOn_eq_ok {indexer : Indexer Kind} {login : LoginBlock} {state : State}
    {form : Form} : indexer.formOn login state = .ok form ↔ indexer.FillsIn login state form := by
  constructor
  · intro done
    obtain ⟨page, shown, done⟩ := except_of_bind done
    obtain ⟨original, read, done⟩ := except_of_bind done
    obtain ⟨keys, asked, done⟩ := except_of_bind done
    obtain ⟨values, each, named, filled⟩ := fillFields_eq_ok.mp done
    exact ⟨page, original, keys, values, mapError_eq_ok.mp shown, mapError_eq_ok.mp read,
      mapError_eq_ok.mp asked, each, named, filled⟩
  · rintro ⟨page, original, keys, values, shown, read, asked, each, named, filled⟩
    unfold formOn
    rw [shown, asked]
    show ((Form.ofPage page login.formSelector).mapError Error.browser >>= fun form =>
      fillFields keys form login.inputs) = _
    rw [read]
    exact fillFields_eq_ok.mpr ⟨values, each, named, filled⟩

/-! ### The requests of an attempt -/

/-- The requests of an attempt that starts in some state of the browser. -/
inductive Course (indexer : Indexer Kind) (login : LoginBlock) (state : State) :
    List Request → Prop
  /-- The path leads nowhere. -/
  | unreached (error : Error)
      (lost : indexer.addressFrom (Browser.page? state) login.path = .error error) :
      Course indexer login state []
  /-- The login page is not answered, or its form cannot be filled in. -/
  | unfilled (url : Url)
      (reached : indexer.addressFrom (Browser.page? state) login.path = .ok url)
      (stopped : Answers (.view url) state →
        ∀ form, ¬ indexer.FillsIn login (sendAll [.view url] state) form) :
      Course indexer login state [.view url]
  /-- The form is sent. -/
  | sent (url : Url) (form : Form)
      (reached : indexer.addressFrom (Browser.page? state) login.path = .ok url)
      (opened : Answers (.view url) state)
      (filled : indexer.FillsIn login (sendAll [.view url] state) form) :
      Course indexer login state [.view url, .ofForm form]

/-- All requests of an attempt were answered, the form among them, and the page that came back
shows no sign of failure. -/
def Accepted (indexer : Indexer Kind) (login : LoginBlock) (state : State)
    (requests : List Request) : Prop :=
  ∃ url form page, requests = [.view url, .ofForm form] ∧ Answers (.view url) state ∧
    Answers (.ofForm form) (sendAll [.view url] state) ∧
    shownPage (sendAll requests state) = .ok page ∧
    failureOn indexer.context login.errors page = .ok none

/-- The steps of an attempt send the requests of its course, and come through exactly if it is
accepted. -/
theorem loginSteps_course (indexer : Indexer Kind) (login : LoginBlock) (attempt : Attempt State) :
    ∃ requests, Course indexer login attempt.visit.browser requests ∧
      (stateOf (indexer.loginSteps login attempt)).visit.browser =
        sendAll requests attempt.visit.browser ∧
      (Succeeds (indexer.loginSteps login attempt) ↔
        Accepted indexer login attempt.visit.browser requests) := by
  have steps : indexer.loginSteps login =
      (onVisit (indexer.resolvePath login.path) >>= fun url =>
        onVisit (send (.view url)) >>= fun _ => reach .pageOpened >>= fun _ =>
          onVisit (indexer.filledForm login) >>= fun form => reach .formFilled >>= fun _ =>
            indexer.submitAndJudge login form : AttemptStep State Unit) := rfl
  rw [steps]
  -- A step that fails ends the attempt, and what was sent before it is all that is sent.
  cases reached : indexer.addressFrom (Browser.page? attempt.visit.browser) login.path with
  | error error =>
    rw [bind_of_error (onVisit_error (resolvePath_of_error reached))]
    refine ⟨[], .unreached error reached, rfl, iff_of_false (not_succeeds_error _ _) ?_⟩
    rintro ⟨_, _, _, ⟨⟩, -⟩
  | ok url =>
    rw [bind_of_ok (onVisit_ok (resolvePath_of_ok reached))]
    cases viewed : (Browser.send (.view url) attempt.visit.browser).1 with
    | some error =>
      rw [bind_of_error (onVisit_error (send_of_trouble viewed))]
      refine ⟨[.view url], .unfilled url reached fun opened => ?_, rfl,
        iff_of_false (not_succeeds_error _ _) ?_⟩
      · exact absurd opened (Browser.not_answers viewed)
      · rintro ⟨_, _, _, ⟨⟩, -⟩
    | none =>
      rw [bind_of_ok (onVisit_ok (send_of_answers viewed)), reach_bind]
      have filled := indexer.filledForm_apply login
        { attempt.visit with browser := sendAll [.view url] attempt.visit.browser }
      cases made : indexer.formOn login (sendAll [.view url] attempt.visit.browser) with
      | error error =>
        rw [made, lift_error] at filled
        rw [bind_of_error (onVisit_error filled)]
        refine ⟨[.view url], .unfilled url reached fun _ form fills => ?_, rfl,
          iff_of_false (not_succeeds_error _ _) ?_⟩
        · cases made.symm.trans (formOn_eq_ok.mpr fills)
        · rintro ⟨_, _, _, ⟨⟩, -⟩
      | ok form =>
        rw [made, lift_ok] at filled
        rw [bind_of_ok (onVisit_ok filled), reach_bind]
        obtain ⟨kept, succeeds⟩ := indexer.submitAndJudge_course login form
          ⟨{ attempt.visit with browser := sendAll [.view url] attempt.visit.browser },
            .formFilled⟩
        refine ⟨[.view url, .ofForm form],
          .sent url form reached viewed (formOn_eq_ok.mp made), kept, succeeds.trans ?_⟩
        constructor
        · rintro ⟨answered, page, shown, judged⟩
          exact ⟨url, form, page, rfl, viewed, answered, shown, judged⟩
        · rintro ⟨_, other, page, same, -, answered, shown, judged⟩
          obtain ⟨views, forms⟩ := List.cons.inj same
          obtain ⟨forms, -⟩ := List.cons.inj forms
          rw [← views, ← forms] at answered
          exact ⟨answered, page, shown, judged⟩

theorem attemptLogin_of_ok {indexer : Indexer Kind} {login : LoginBlock}
    {attempt after : Attempt State} (done : indexer.loginSteps login attempt = .ok () after) :
    indexer.attemptLogin login attempt = .ok () ⟨{ after.visit with metrics :=
      ⟨.logins, [indexer.definition.site, "success"]⟩ :: after.visit.metrics }, .loggedIn⟩ := by
  simp only [attemptLogin, done]
  rfl

theorem attemptLogin_of_error {indexer : Indexer Kind} {login : LoginBlock}
    {attempt after : Attempt State} {error : Error}
    (failed : indexer.loginSteps login attempt = .error error after) :
    indexer.attemptLogin login attempt = .error error ⟨{ after.visit with metrics :=
      ⟨.logins, [indexer.definition.site, failureLabel error]⟩ :: after.visit.metrics },
      .failed⟩ := by
  simp only [attemptLogin, failed]
  rfl

/-- A login where the site wants one sends the requests of the course of an attempt, and comes
through exactly if that is accepted. -/
theorem login_course {indexer : Indexer Kind} {login : LoginBlock}
    (wanted : indexer.definition.login = some login) (visit : Visit State) :
    ∃ requests, Course indexer login visit.browser requests ∧
      (stateOf (indexer.login visit)).browser = sendAll requests visit.browser ∧
      (Succeeds (indexer.login visit) ↔ Accepted indexer login visit.browser requests) := by
  obtain ⟨requests, course, kept, succeeds⟩ := indexer.loginSteps_course login ⟨visit, .start⟩
  refine ⟨requests, course, ?_⟩
  cases done : indexer.loginSteps login ⟨visit, .start⟩ with
  | ok value after =>
    rw [done] at kept succeeds
    simp only [Indexer.login, wanted, attemptLogin_of_ok done]
    exact ⟨kept, iff_of_true (succeeds_ok _ _) (succeeds.mp (succeeds_ok _ _))⟩
  | error error after =>
    rw [done] at kept succeeds
    simp only [Indexer.login, wanted, attemptLogin_of_error done]
    exact ⟨kept,
      iff_of_false (not_succeeds_error _ _) (mt succeeds.mpr (not_succeeds_error _ _))⟩

/-- One attempt to log in, from any state of any browser. It takes one of the courses, which send
two requests at most; it succeeds exactly if it is accepted, and in the end it is known to have
logged in if it did and to have failed if it did not. That these are its requests, and no others,
is told by any browser that keeps a record of them. -/
theorem attemptLogin_course (indexer : Indexer Kind) (login : LoginBlock) (visit : Visit State) :
    let result := indexer.attemptLogin login ⟨visit, .start⟩
    ∃ requests, Course indexer login visit.browser requests ∧ requests.length ≤ 2 ∧
      (stateOf result).visit.browser = sendAll requests visit.browser ∧
      (Succeeds result ↔ Accepted indexer login visit.browser requests) ∧
      ((stateOf result).state = .loggedIn ↔ Succeeds result) ∧
      ((stateOf result).state = .failed ↔ ¬ Succeeds result) := by
  intro result
  obtain ⟨requests, course, kept, succeeds⟩ := indexer.loginSteps_course login ⟨visit, .start⟩
  have few : requests.length ≤ 2 := by cases course <;> simp
  refine ⟨requests, course, few, ?_⟩
  cases done : indexer.loginSteps login ⟨visit, .start⟩ with
  | ok value after =>
    have ended : result = _ := attemptLogin_of_ok done
    rw [done] at kept succeeds
    rw [ended]
    exact ⟨kept, iff_of_true (succeeds_ok _ _) (succeeds.mp (succeeds_ok _ _)),
      iff_of_true rfl (succeeds_ok _ _),
      iff_of_false (by simp [stateOf]) (not_not_intro (succeeds_ok _ _))⟩
  | error error after =>
    have ended : result = _ := attemptLogin_of_error done
    rw [done] at kept succeeds
    rw [ended]
    exact ⟨kept,
      iff_of_false (not_succeeds_error _ _) (mt succeeds.mpr (not_succeeds_error _ _)),
      iff_of_false (by simp [stateOf]) (not_succeeds_error _ _),
      iff_of_true rfl (not_succeeds_error _ _)⟩

end Metasearch.Indexer
