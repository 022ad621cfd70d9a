/-
Logging in. An attempt opens the login page, fills in the form on it, sends it, and looks at
the page that comes back for signs of failure. How far it got is kept with it.
-/
import Metasearch.Indexer.Basic

namespace Metasearch.Indexer

open Markup (Document Place)

/-! ### Signs of failure -/

/-- The element that holds the whole page. -/
def rootOf? (document : Document) : Option Place :=
  document.placesInPage.head?

/-- The text of an element, trimmed, if it contains what a rule looks for. -/
def matchedText? (contains : Option String) (text : String) : Option String :=
  if contains.all fun wanted => Text.occursIn wanted.toList text.toList then some text else none

/-- What a rule finds on a page: the text of the first element that fits, or without a selector
the text it looked for. -/
def matchedBy (rule : ErrorRule) (root : Place) : Except Extraction.Error (Option String) :=
  match rule.selector, rule.contains with
  | some selector, contains => do
    let selector ← Extraction.selectorOf selector
    return ((selector.selectBelow root).map Form.elementText).findSome? (matchedText? contains)
  | none, some contains =>
    .ok ((matchedText? (some contains) (Form.elementText root)).map fun _ => contains)
  | none, none => .ok none

/-- Says why a login failed: what the page says, or else what the rule found. -/
def reasonOf (message matched : String) : String :=
  if !message.isEmpty then message
  else if !matched.isEmpty then matched
  else "login error rule matched"

/-- Why a login failed, if some rule finds what it looks for; the first that does decides. -/
def findFailure (context : Filter.Context) (root : Place) :
    List ErrorRule → Except Extraction.Error (Option String)
  | [] => .ok none
  | rule :: rules => do
    match ← matchedBy rule root with
    | none => findFailure context root rules
    | some matched =>
      let message ← match rule.message with
        | some block => Extraction.blockValue context root block
        | none => pure ""
      return some (reasonOf message matched)

/-- Why a login failed, going by the page that came back. -/
def failureOn (context : Filter.Context) (rules : List ErrorRule) (page : Page) :
    Except Extraction.Error (Option String) :=
  match rootOf? page.document with
  | some root => findFailure context root rules
  | none => .ok none

/-! ### Attempts -/

/-- How far an attempt got. -/
inductive LoginState
  | start
  | pageOpened
  | formFilled
  | submitted
  | loggedIn
  | failed
  deriving DecidableEq, Repr

/-- An attempt to log in during a visit. -/
structure Attempt (State : Type) where
  visit : Visit State
  state : LoginState

/-- A step of an attempt. -/
abbrev AttemptStep (State : Type) := EStateM Error (Attempt State)

variable {State : Type}

/-- An operation on the visit as a step. -/
def onVisit {Value : Type} (act : Act State Value) : AttemptStep State Value := fun attempt =>
  match act attempt.visit with
  | .ok value visit => .ok value { attempt with visit }
  | .error error visit => .error error { attempt with visit }

/-- The attempt got further. -/
def reach (state : LoginState) : AttemptStep State Unit :=
  modify fun attempt => { attempt with state }

/-- Fills in fields of a form, in the order of their names. -/
def fillFields (keys : List (String × String)) (form : Form) :
    List (String × String) → Except Error Form
  | [] => .ok form
  | (name, template) :: rest => do
    let fields := keys.map fun (key, value) => (key, Template.Value.text value)
    let value ← (Template.resolve "login_inputs" template
      (.map [("Config", .map fields)])).mapError .template
    let form ← (form.set name value).mapError .browser
    fillFields keys form rest

variable [Browser State] {Kind : Type} [Settings.Keeper Kind]

/-- The form on the login page, filled in. -/
def filledForm (indexer : Indexer Kind) (login : LoginBlock) : Act State Form := do
  let page ← currentPage
  let form ← lift .browser (Form.ofPage page login.formSelector)
  let keys ← lift .settings (Settings.Keeper.keys indexer.store indexer.definition.site)
  lift id (fillFields keys form login.inputs)

/-- The steps of an attempt. -/
def loginSteps (indexer : Indexer Kind) (login : LoginBlock) : AttemptStep State Unit := do
  let url ← onVisit (indexer.resolvePath login.path)
  onVisit (send (.view url))
  reach .pageOpened
  let form ← onVisit (indexer.filledForm login)
  reach .formFilled
  onVisit (send (.ofForm form))
  reach .submitted
  let page ← onVisit currentPage
  match ← onVisit (lift .ofExtraction (failureOn indexer.context login.errors page)) with
  | some reason => throw (.login reason)
  | none => pure ()

/-- How a failed attempt is counted: as rejected if the site said no. -/
def failureLabel : Error → String
  | .login _ => "rejected"
  | _ => "failed"

/-- Makes an attempt. -/
def attemptLogin (indexer : Indexer Kind) (login : LoginBlock) : AttemptStep State Unit :=
  fun attempt =>
    let site := indexer.definition.site
    match loginSteps indexer login attempt with
    | .ok _ after => (do reach .loggedIn; onVisit (record .logins [site, "success"])) after
    | .error error after =>
      (do reach .failed; onVisit (record .logins [site, failureLabel error]); throw error) after

/-- Logs in, if the site wants it. -/
def login (indexer : Indexer Kind) : Act State Unit := fun visit =>
  match indexer.definition.login with
  | none => .ok () visit
  | some login =>
    match indexer.attemptLogin login ⟨visit, .start⟩ with
    | .ok _ attempt => .ok () attempt.visit
    | .error error attempt => .error error attempt.visit

end Metasearch.Indexer
