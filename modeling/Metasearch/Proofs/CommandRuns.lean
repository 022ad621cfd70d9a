/-
This file settles how a run of the command line can end. Whatever the words, the files and the
environment are, a run that does not end well prints nothing; its code is 2 if the words call for
nothing, and 1 if what they call for fails. A site that its settings disable is refused by every
command that loads its definition, before anything is asked of a site or written.

A part of a run that fails keeps what was printed before. So that nothing is, is shown part by part:
what can fail prints nothing, and what prints stands behind all that can fail and cannot fail
itself.
-/
import Metasearch.CommandLine.Run
import Metasearch.Files.Tree
import Metasearch.Offline
import Metasearch.Proofs.CommandLines

namespace Metasearch

namespace Settings

/-- The settings have a value for a site that says whether it is enabled, and it does not say so. -/
def Disable (settings : Settings) (site : String) : Prop :=
  ∃ value, ((settings.indexers.lookup site).bind fun keys => keys.lookup "enabled") = some value ∧
    value ≠ "true" ∧ value ≠ "ok"

theorem isEnabled_of_disable {settings : Settings} {site : String}
    (disable : settings.Disable site) : (Store.ofSettings settings).isEnabled site = false := by
  obtain ⟨value, kept, notTrue, notOk⟩ := disable
  have found : (Store.ofSettings settings).get site "enabled" = .ok (some value) := by
    obtain ⟨keys, sectionOf, key⟩ := Option.bind_eq_some_iff.mp kept
    simp only [Store.get, Store.ask, Store.ofSettings, Store.keysOf, sectionOf, Option.getD_some,
      key]
  rw [Store.isEnabled, found]
  simp [notTrue, notOk]

end Settings

namespace CommandLine

variable {World State : Type}

/-! ### Parts of a run in a world -/

/-- How a part of a run ends: with a value or a reason, with what is printed by then, and with the
world that it leaves behind. -/
def Task.endIn {Value : Type} (task : Task (StateM World) Value) (printed : String)
    (world : World) : (Except String Value × String) × World :=
  task.run.run printed world

section

variable {First Second : Type} {act : Task (StateM World) First}
  {next : First → Task (StateM World) Second} {printed : String} {world after : World}

theorem endIn_bind (act : Task (StateM World) First) (next : First → Task (StateM World) Second)
    (printed : String) (world : World) :
    (act >>= next).endIn printed world =
      match act.endIn printed world with
      | ((.ok value, printed), after) => (next value).endIn printed after
      | ((.error reason, printed), after) => ((.error reason, printed), after) := by
  change (match act.endIn printed world with
    | ((outcome, printed), after) => (ExceptT.bindCont next outcome) printed after) = _
  rcases act.endIn printed world with ⟨⟨reason | value, printed⟩, after⟩ <;> rfl

theorem endIn_bind_ok {value : First}
    (done : act.endIn printed world = ((.ok value, printed), after)) :
    (act >>= next).endIn printed world = (next value).endIn printed after := by
  rw [endIn_bind, done]

theorem endIn_bind_error {reason : String}
    (failed : act.endIn printed world = ((.error reason, printed), after)) :
    (act >>= next).endIn printed world = ((.error reason, printed), after) := by
  rw [endIn_bind, failed]

end

/-! ### Silence -/

section

variable {First Value : Type} {act : Task (StateM World) First}
  {next : First → Task (StateM World) Value} {task : Task (StateM World) Value}

/-- A part of a run prints nothing. -/
def IsSilent (task : Task (StateM World) Value) : Prop :=
  ∀ printed world, (task.endIn printed world).1.2 = printed

/-- A part of a run does not fail. -/
def NeverFails (task : Task (StateM World) Value) : Prop :=
  ∀ printed world, ∃ value, (task.endIn printed world).1.1 = .ok value

/-- A part of a run prints nothing if it fails. -/
def FailsSilently (task : Task (StateM World) Value) : Prop :=
  ∀ printed world reason,
    (task.endIn printed world).1.1 = .error reason → (task.endIn printed world).1.2 = printed

theorem IsSilent.failsSilently (silent : IsSilent task) : FailsSilently task :=
  fun printed world _ _ => silent printed world

theorem NeverFails.failsSilently (never : NeverFails task) : FailsSilently task := by
  intro printed world reason failed
  obtain ⟨value, done⟩ := never printed world
  cases done.symm.trans failed

/-- Behind a part that prints nothing, only what follows prints. -/
theorem IsSilent.endIn_bind_snd (silent : IsSilent act) (printed : String) (world : World) :
    ((act >>= next).endIn printed world).1.2 = printed ∨
      ∃ value after, (act >>= next).endIn printed world = (next value).endIn printed after := by
  have same := silent printed world
  rw [endIn_bind]
  rcases ended : act.endIn printed world with ⟨⟨reason | value, text⟩, after⟩
  · rw [ended] at same
    exact .inl same
  · rw [ended] at same
    obtain rfl : text = printed := same
    exact .inr ⟨value, after, rfl⟩

theorem IsSilent.bind (silent : IsSilent act) (behind : ∀ value, IsSilent (next value)) :
    IsSilent (act >>= next) := by
  intro printed world
  rcases silent.endIn_bind_snd printed world with same | ⟨value, after, goesOn⟩
  · exact same
  · rw [goesOn]
    exact behind value printed after

/-- Nothing that can fail stands behind what prints. -/
theorem IsSilent.bind_failsSilently (silent : IsSilent act)
    (behind : ∀ value, FailsSilently (next value)) : FailsSilently (act >>= next) := by
  intro printed world reason failed
  rcases silent.endIn_bind_snd printed world with same | ⟨value, after, goesOn⟩
  · exact same
  · rw [goesOn] at failed ⊢
    exact behind value printed after reason failed

theorem isSilent_pure (value : Value) : IsSilent (pure value : Task (StateM World) Value) :=
  fun _ _ => rfl

theorem isSilent_throw (reason : String) :
    IsSilent (throw reason : Task (StateM World) Value) :=
  fun _ _ => rfl

theorem isSilent_lift {Cause : Type} (wording : Cause → String) (outcome : Except Cause Value) :
    IsSilent (lift wording outcome : Task (StateM World) Value) :=
  fun _ _ => rfl

theorem isSilent_reach (act : StateM World Value) : IsSilent (reach act) :=
  fun _ _ => rfl

theorem neverFails_print (text : String) : NeverFails (print text : Task (StateM World) Unit) :=
  fun _ _ => ⟨(), rfl⟩

/-- What never fails for one item never fails for one item after the other. -/
theorem neverFails_forM {Item : Type} {one : Item → Task (StateM World) Unit}
    (never : ∀ item, NeverFails (one item)) (items : List Item) :
    NeverFails (items.forM one) := by
  induction items with
  | nil => exact fun _ _ => ⟨(), rfl⟩
  | cons item items inductionHypothesis =>
    intro printed world
    obtain ⟨value, done⟩ := never item printed world
    change ∃ value, ((one item >>= fun _ => items.forM one).endIn printed world).1.1 = .ok value
    rw [endIn_bind]
    rcases ended : (one item).endIn printed world with ⟨⟨reason | _, text⟩, after⟩
    · rw [ended] at done
      cases done
    · exact inductionHypothesis text after

end

section

variable (surroundings : Surroundings (StateM World) State) (settings : Settings)

theorem isSilent_loadDefinition (disk : Files.Disk (StateM World)) (name : String) :
    IsSilent (loadDefinition disk settings name) := by
  have path : IsSilent (definitionPath disk settings name) :=
    (isSilent_reach _).bind fun found => by split <;> exact isSilent_pure _
  exact path.bind fun _ => (isSilent_reach _).bind fun _ => (isSilent_lift _ _).bind fun _ =>
    (isSilent_lift _ _).bind fun _ => (isSilent_lift _ _).bind fun _ => isSilent_pure _

theorem isSilent_loadIndexer (name : String) :
    IsSilent (loadIndexer surroundings settings name) := by
  refine (isSilent_loadDefinition settings surroundings.disk name).bind fun definition => ?_
  dsimp only
  split
  · exact (isSilent_throw _).bind fun _ => isSilent_pure _
  · exact isSilent_pure _

theorem isSilent_visit {Value : Type} (act : Indexer.Act State Value) :
    IsSilent (visit surroundings settings act) := by
  refine (isSilent_lift _ _).bind fun browser => ?_
  split
  · exact isSilent_pure _
  · exact isSilent_throw _

theorem isSilent_loadSettings (path : String) : IsSilent (loadSettings surroundings path) := by
  refine (isSilent_reach _).bind fun loaded => ?_
  split
  · exact isSilent_pure _
  · exact isSilent_pure _
  · exact isSilent_throw _

variable [Browser State]

/-- A command that fails prints nothing: it prints at its end, if it prints. -/
theorem failsSilently_perform (command : Command) :
    FailsSilently (perform surroundings settings command) := by
  cases command with
  | list =>
    exact (isSilent_reach _).bind_failsSilently fun _ =>
      (isSilent_lift _ _).bind_failsSilently fun _ =>
        (neverFails_forM (fun name => neverFails_print _) _).failsSilently
  | caps name =>
    exact (isSilent_loadIndexer surroundings settings name).bind_failsSilently fun _ =>
      (neverFails_print _).failsSilently
  | search name params limit =>
    exact (isSilent_lift _ _).bind_failsSilently fun _ =>
      (isSilent_loadIndexer surroundings settings name).bind_failsSilently fun _ =>
        (isSilent_visit surroundings settings _).bind_failsSilently fun _ =>
          (neverFails_print _).failsSilently
  | test name =>
    exact ((isSilent_loadIndexer surroundings settings name).bind fun _ =>
      isSilent_visit surroundings settings _).failsSilently
  | download name link output =>
    exact ((isSilent_loadIndexer surroundings settings name).bind fun _ =>
      (isSilent_visit surroundings settings _).bind fun _ =>
        (isSilent_reach _).bind fun _ => isSilent_lift _ _).failsSilently

theorem failsSilently_carryOut (invocation : Invocation) :
    FailsSilently (carryOut surroundings invocation) :=
  (isSilent_loadSettings surroundings invocation.path).bind_failsSilently fun settings =>
    (isSilent_lift _ _).bind_failsSilently fun _ =>
      failsSilently_perform surroundings settings invocation.command

end

/-! ### Refused sites -/

/-- The definition that a command loads. -/
def Command.definition? : Command → Option String
  | .list => none
  | .caps definition | .search definition _ _ | .test definition | .download definition _ _ =>
    some definition

/-- What a command is refused for before it loads its definition. -/
def Command.flaw? : Command → Option String
  | .search _ params _ =>
    match Query.ofParams params with
    | .ok _ => none
    | .error error => some (during "Invalid query" error.message)
  | _ => none

/-- Why a site is refused that its settings disable. -/
def refusal (definition : Definition) : String :=
  "Indexer " ++ definition.site ++ " is disabled in configuration"

variable {surroundings : Surroundings (StateM World) State} {settings : Settings}
  {definition : Definition} {world after : World}

theorem loadIndexer_of_disable {name : String}
    (found : (loadDefinition surroundings.disk settings name).endIn "" world =
      ((.ok definition, ""), after))
    (disable : settings.Disable definition.site) :
    (loadIndexer surroundings settings name).endIn "" world =
      ((.error (refusal definition), ""), after) := by
  rw [loadIndexer, endIn_bind_ok found]
  simp only [Settings.isEnabled_of_disable disable]
  rfl

/-- A command that would load the definition of a disabled site fails with what is wrong with the
command, or else with the refusal of the site. -/
theorem perform_of_disable [Browser State] {command : Command} {name : String}
    (loads : command.definition? = some name)
    (found : (loadDefinition surroundings.disk settings name).endIn "" world =
      ((.ok definition, ""), after))
    (disable : settings.Disable definition.site) :
    (perform surroundings settings command).endIn "" world =
      match command.flaw? with
      | some flaw => ((.error flaw, ""), world)
      | none => ((.error (refusal definition), ""), after) := by
  cases command with
  | list => cases loads
  | caps name =>
    cases loads
    exact endIn_bind_error (loadIndexer_of_disable found disable)
  | test name =>
    cases loads
    exact endIn_bind_error (loadIndexer_of_disable found disable)
  | download name link output =>
    cases loads
    exact endIn_bind_error (loadIndexer_of_disable found disable)
  | search name params limit =>
    cases loads
    simp only [perform, search, Command.flaw?]
    cases Query.ofParams params with
    | error error => exact endIn_bind_error rfl
    | ok query =>
      exact (endIn_bind_ok rfl).trans (endIn_bind_error (loadIndexer_of_disable found disable))

/-! ### Runs -/

variable [Browser State] {words : List String} {invocation : Invocation}

/-- What is carried out is the command, if there are settings and they can be used. -/
theorem carryOut_of_settings {loaded : World}
    (settled : (loadSettings surroundings invocation.path).endIn "" world =
      ((.ok settings, ""), loaded)) :
    (carryOut surroundings invocation).endIn "" world =
      match settings.check with
      | .ok _ => (perform surroundings settings invocation.command).endIn "" loaded
      | .error error =>
        ((.error (during "Configuration validation failed" error.message), ""), loaded) := by
  rw [carryOut, endIn_bind_ok settled]
  cases settings.check with
  | ok _ => exact endIn_bind_ok rfl
  | error error => exact endIn_bind_error rfl

/-- How a run ends. -/
theorem run_apply (surroundings : Surroundings (StateM World) State) (words : List String)
    (world : World) :
    run surroundings words world =
      match read surroundings.environment words with
      | .error .misuse => (⟨2, "", none⟩, world)
      | .error (.help text) => (⟨0, text, none⟩, world)
      | .ok invocation =>
        match (carryOut surroundings invocation).endIn "" world with
        | ((.ok _, output), after) => (⟨0, output, none⟩, after)
        | ((.error reason, output), after) => (⟨1, output, some reason⟩, after) := by
  unfold run
  cases read surroundings.environment words with
  | error stop => cases stop <;> rfl
  | ok invocation =>
    have goesOn : ∀ next : Except String Unit × String → StateM World Outcome,
        ((carryOut surroundings invocation).run.run "" >>= next) world =
          let ended := (carryOut surroundings invocation).endIn "" world
          next ended.1 ended.2 := fun _ => rfl
    refine (goesOn _).trans ?_
    dsimp only
    rcases (carryOut surroundings invocation).endIn "" world with
      ⟨⟨reason | value, output⟩, after⟩ <;> rfl

/-- A run ends with code 2 exactly if the words call for nothing, and with code 1 exactly if they
call for something that fails; then it prints nothing. -/
theorem run_code (surroundings : Surroundings (StateM World) State) (words : List String)
    (world : World) :
    let outcome := (run surroundings words world).1
    (outcome.code ≠ 0 → outcome.output = "") ∧
      (outcome.code = 2 ↔
        (∀ invocation, ¬ Calls surroundings.environment words invocation) ∧
          ∀ text, ¬ CallsForHelp surroundings.environment words text) ∧
      (outcome.code ≠ 0 → outcome.code = 2 ∨ outcome.code = 1) ∧
      (outcome.code = 1 ↔ ∃ invocation reason, Calls surroundings.environment words invocation ∧
        ((carryOut surroundings invocation).endIn "" world).1.1 = .error reason) := by
  intro outcome
  rw [← read_eq_misuse]
  simp only [← read_eq_ok]
  have whole : outcome = (run surroundings words world).1 := rfl
  rw [run_apply] at whole
  cases isRead : read surroundings.environment words with
  | error stop =>
    rw [isRead] at whole
    cases stop <;> simp [whole]
  | ok invocation =>
    have silent := failsSilently_carryOut surroundings invocation "" world
    rw [isRead] at whole
    rcases ended : (carryOut surroundings invocation).endIn "" world with
      ⟨⟨reason | value, output⟩, after⟩
    · rw [ended] at silent
      have nothing : output = "" := silent reason rfl
      simp [whole, ended, nothing]
    · simp [whole, ended]

/-- A command gets to load the definition of a site that the settings disable: under these settings
it finds this definition, and leaves this world behind. -/
def MeetsDisabled (surroundings : Surroundings (StateM World) State) (invocation : Invocation)
    (world : World) (settings : Settings) (definition : Definition) (after : World) : Prop :=
  ∃ name loaded, invocation.command.definition? = some name ∧
    (loadSettings surroundings invocation.path).endIn "" world = ((.ok settings, ""), loaded) ∧
    (loadDefinition surroundings.disk settings name).endIn "" loaded =
      ((.ok definition, ""), after) ∧
    settings.Disable definition.site

theorem carryOut_of_meetsDisabled
    (meets : MeetsDisabled surroundings invocation world settings definition after) :
    (∃ reason, ((carryOut surroundings invocation).endIn "" world).1.1 = .error reason) ∧
      (settings.check = .ok () → invocation.command.flaw? = none →
        (carryOut surroundings invocation).endIn "" world =
          ((.error (refusal definition), ""), after)) := by
  obtain ⟨name, loaded, loads, settled, found, disable⟩ := meets
  rw [carryOut_of_settings settled]
  cases settings.check with
  | error error => exact ⟨⟨_, rfl⟩, nofun⟩
  | ok _ =>
    simp only [perform_of_disable loads found disable]
    cases invocation.command.flaw? with
    | some flaw => exact ⟨⟨flaw, rfl⟩, nofun⟩
    | none => exact ⟨⟨_, rfl⟩, fun _ _ => rfl⟩

/-- A run that does not end with code 0 prints nothing. It ends with code 2 exactly if the words
call for nothing, and else with code 1. With code 1 ends every command that gets to load the
definition of a disabled site; if nothing is wrong before that, the site is refused, and nothing
was done but loading the definition. -/
theorem run_fails_silently (surroundings : Surroundings (StateM World) State)
    (words : List String) (world : World) :
    let environment := surroundings.environment
    let outcome := (run surroundings words world).1
    (outcome.code ≠ 0 → outcome.output = "") ∧
      (outcome.code = 2 ↔
        (∀ invocation, ¬ Calls environment words invocation) ∧
          ∀ text, ¬ CallsForHelp environment words text) ∧
      (outcome.code ≠ 0 → outcome.code ≠ 2 → outcome.code = 1) ∧
      ∀ invocation settings definition after, Calls environment words invocation →
        MeetsDisabled surroundings invocation world settings definition after →
        outcome.code = 1 ∧
          (settings.check = .ok () → invocation.command.flaw? = none →
            run surroundings words world = (⟨1, "", some (refusal definition)⟩, after)) := by
  intro environment outcome
  obtain ⟨silent, misuse, codes, fails⟩ := run_code surroundings words world
  refine ⟨silent, misuse, fun bad understood => (codes bad).resolve_left understood, ?_⟩
  intro invocation settings definition after calls meets
  obtain ⟨⟨reason, failed⟩, refused⟩ := carryOut_of_meetsDisabled meets
  refine ⟨fails.mpr ⟨invocation, reason, calls, failed⟩, fun checked flawless => ?_⟩
  rw [run_apply, read_eq_ok.mpr calls]
  simp only [refused checked flawless]

/-! ### A disabled site -/

/-- A tree with a configuration that disables a site, and the definition of the site. -/
def disabledTree : Files.Tree :=
  .ofTexts
    [("trawler.toml", "[indexers.site]\nenabled = \"no\"\n"),
     ("definitions/site.json", "\x7b\"site\": \"site\", \"name\": \"Site\", " ++
      "\"links\": [\"http://site.example/\"], \"search\": \x7b\"path\": \"/\", " ++
      "\"rows\": \x7b\"selector\": \"li\"\x7d, \"fields\": \x7b\"title\": \x7b\x7d\x7d\x7d\x7d")]
    []

/-- A run on a tree, with nothing in the environment and nobody in reach. -/
def disabledSurroundings : Surroundings (StateM Files.Tree) Offline where
  disk := Files.Tree.disk
  environment := []
  now := ⟨0, 0⟩
  connect := Offline.ofSettings

/-- The settings in `disabledTree`. -/
def disabledSettings : Settings :=
  { Settings.usual with indexers := [("site", [("enabled", "no")])] }

theorem settled_disabledTree :
    (loadSettings disabledSurroundings "trawler.toml").endIn "" disabledTree =
      ((.ok disabledSettings, ""), disabledTree) := by
  decide +kernel

theorem found_disabledTree :
    ∃ definition,
      (loadDefinition disabledSurroundings.disk disabledSettings "site").endIn "" disabledTree =
        ((.ok definition, ""), disabledTree) ∧ definition.site = "site" := by
  have isFound :
      (match
        (loadDefinition disabledSurroundings.disk disabledSettings "site").endIn ""
          disabledTree with
        | ((.ok definition, printed), after) =>
          decide (printed = "" ∧ after = disabledTree ∧ definition.site = "site")
        | ((.error _, _), _) => false) = true := by decide +kernel
  split at isFound
  · next definition printed after found =>
    obtain ⟨rfl, rfl, site⟩ := of_decide_eq_true isFound
    exact ⟨definition, found, site⟩
  · cases isFound

/-- The site of `disabledTree` is refused. -/
theorem run_fails_silently_disabledTree :
    ∃ definition, MeetsDisabled disabledSurroundings ⟨"trawler.toml", .caps "site"⟩ disabledTree
        disabledSettings definition disabledTree ∧
      run disabledSurroundings ["caps", "site"] disabledTree =
        (⟨1, "", some "Indexer site is disabled in configuration"⟩, disabledTree) := by
  obtain ⟨definition, found, site⟩ := found_disabledTree
  have disable : disabledSettings.Disable definition.site := by
    rw [site]
    exact ⟨"no", by decide⟩
  have meets : MeetsDisabled disabledSurroundings ⟨"trawler.toml", .caps "site"⟩ disabledTree
      disabledSettings definition disabledTree :=
    ⟨"site", disabledTree, rfl, settled_disabledTree, found, disable⟩
  have isRead : read [] ["caps", "site"] = .ok ⟨"trawler.toml", .caps "site"⟩ := by
    decide +kernel
  obtain ⟨-, -, -, refuses⟩ :=
    run_fails_silently disabledSurroundings ["caps", "site"] disabledTree
  obtain ⟨-, refused⟩ := refuses _ _ definition disabledTree (read_eq_ok.mp isRead) meets
  refine ⟨definition, meets, ?_⟩
  rw [refused (by decide +kernel) rfl, refusal, site]
  rfl

end CommandLine

end Metasearch
