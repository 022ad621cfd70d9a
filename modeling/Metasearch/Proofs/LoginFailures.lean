/-
This file settles what the page that comes back from a login says about it. Its rules are gone
through in order. A rule passes if it can be read and finds nothing, and the first that does not
pass decides: it fails, because it cannot be read or because the place where the page should say why
cannot be, or it gives a reason, which is never empty. The rules behind it are never looked at.

A page always has an element that holds it all, so that there is always something to look at.
-/
import Metasearch.Indexer.Login
import Metasearch.Proofs.GivenValues
import Metasearch.Proofs.PageRoots

namespace Metasearch

open Markup (Place)

/-! ### Rules -/

namespace ErrorRule

/-- The text of an element contains what a rule looks for, if it looks for anything. -/
def Contains (rule : ErrorRule) (place : Place) : Prop :=
  ∀ wanted, rule.contains = some wanted →
    Text.occursIn wanted.toList (Form.elementText place).toList = true

/-- The text of an element, if it contains what a rule looks for. -/
def Shows (rule : ErrorRule) (place : Place) (text : String) : Prop :=
  rule.Contains place ∧ Form.elementText place = text

/-- What a rule finds on a page: the text of the first element below the root that its selector
fits and that contains what it looks for; or without a selector what it looks for, if the text of
the page contains that. -/
inductive Finds (rule : ErrorRule) (root : Place) : String → Prop
  | element {selector text : String} {compiled : Selector} (given : rule.selector = some selector)
      (compiles : Extraction.selectorOf selector = .ok compiled)
      (first : GivesFirst rule.Shows (compiled.selectBelow root) text) : Finds rule root text
  | text {wanted : String} (none : rule.selector = none) (looksFor : rule.contains = some wanted)
      (contains : rule.Contains root) : Finds rule root wanted

/-- A rule can be read and finds nothing. -/
structure Passes (rule : ErrorRule) (root : Place) : Prop where
  compiles : ∀ selector, rule.selector = some selector →
    ∃ compiled, Extraction.selectorOf selector = .ok compiled
  nothing : ∀ matched, ¬ rule.Finds root matched

/-- What the page says where a rule looks for the reason, if the rule does. -/
inductive Tells (rule : ErrorRule) (context : Filter.Context) (root : Place) : String → Prop
  | block {block : SelectorBlock} {message : String} (given : rule.message = some block)
      (value : Extraction.blockValue context root block = .ok message) :
      Tells rule context root message
  | nothing (none : rule.message = none) : Tells rule context root ""

/-- A rule cannot be read, or finds something but not the reason that it looks for. -/
inductive Fails (rule : ErrorRule) (context : Filter.Context) (root : Place) :
    Extraction.Error → Prop
  | selector {selector : String} {error : Extraction.Error}
      (given : rule.selector = some selector)
      (invalid : Extraction.selectorOf selector = .error error) : Fails rule context root error
  | message {matched : String} {block : SelectorBlock} {error : Extraction.Error}
      (finds : rule.Finds root matched) (given : rule.message = some block)
      (failed : Extraction.blockValue context root block = .error error) :
      Fails rule context root error

/-- The reason that is given: what the page says, or what the rule found, or a text that stands for
both if they are empty. -/
inductive Explains (message matched : String) : String → Prop
  | message (told : message ≠ "") : Explains message matched message
  | matched (silent : message = "") (found : matched ≠ "") : Explains message matched matched
  | neither (silent : message = "") (blank : matched = "") :
      Explains message matched "login error rule matched"

/-- A rule decides the outcome: it fails, or it finds something and a reason is given. -/
inductive Decides (rule : ErrorRule) (context : Filter.Context) (root : Place) :
    Except Extraction.Error (Option String) → Prop
  | fails {error : Extraction.Error} (fails : rule.Fails context root error) :
      Decides rule context root (.error error)
  | finds {matched message reason : String} (finds : rule.Finds root matched)
      (tells : rule.Tells context root message) (explains : Explains message matched reason) :
      Decides rule context root (.ok (some reason))

theorem Explains.ne_empty {message matched reason : String}
    (explains : Explains message matched reason) : reason ≠ "" := by
  cases explains with
  | message told => exact told
  | matched _ found => exact found
  | neither => decide

/-- A rule that passes does not decide. -/
theorem Passes.not_decides {rule : ErrorRule} {root : Place} (passes : rule.Passes root)
    {context : Filter.Context} {outcome : Except Extraction.Error (Option String)} :
    ¬ rule.Decides context root outcome := by
  rintro (⟨⟨given, invalid⟩ | ⟨finds, -, -⟩⟩ | ⟨finds, -, -⟩)
  · obtain ⟨compiled, compiles⟩ := passes.compiles _ given
    cases compiles.symm.trans invalid
  · exact passes.nothing _ finds
  · exact passes.nothing _ finds

end ErrorRule

namespace Indexer

open ErrorRule (Explains)

/-! ### Looking at a page -/

theorem explains_reasonOf (message matched : String) :
    Explains message matched (reasonOf message matched) := by
  unfold reasonOf
  split
  case isTrue told => exact .message (by simpa using told)
  case isFalse silent =>
    have silent : message = "" := by simpa using silent
    split
    case isTrue found => exact .matched silent (by simpa using found)
    case isFalse blank => exact .neither silent (by simpa using blank)

section

variable {root : Place} {rule : ErrorRule}

theorem matchedText?_eq_some_iff (place : Place) (text : String) :
    matchedText? rule.contains (Form.elementText place) = some text ↔ rule.Shows place text := by
  unfold matchedText? ErrorRule.Shows ErrorRule.Contains
  cases rule.contains <;> simp

/-- A rule with a selector finds what the selector leads to. -/
theorem finds_iff_of_selector {selector matched : String} {compiled : Selector}
    (given : rule.selector = some selector)
    (compiles : Extraction.selectorOf selector = .ok compiled) :
    rule.Finds root matched ↔ ((compiled.selectBelow root).findSome? fun place =>
      matchedText? rule.contains (Form.elementText place)) = some matched := by
  rw [findSome?_eq_some_iff_givesFirst matchedText?_eq_some_iff]
  constructor
  · rintro (⟨isGiven, isRead, first⟩ | ⟨none, -, -⟩)
    · obtain rfl := Option.some.inj (given.symm.trans isGiven)
      obtain rfl := Except.ok.inj (compiles.symm.trans isRead)
      exact first
    · cases given.symm.trans none
  · exact .element given compiles

/-- A rule without one finds what it looks for, if the text of the page contains it. -/
theorem finds_iff_of_none {matched : String} (none : rule.selector = none) :
    rule.Finds root matched ↔ (rule.contains.bind fun wanted =>
      (matchedText? (some wanted) (Form.elementText root)).map fun _ => wanted) = some matched := by
  simp only [Option.bind_eq_some_iff, Option.map_eq_some_iff]
  constructor
  · rintro (⟨isGiven, -, -⟩ | ⟨-, looksFor, contains⟩)
    · cases none.symm.trans isGiven
    · exact ⟨matched, looksFor, Form.elementText root,
        looksFor ▸ (matchedText?_eq_some_iff root _).mpr ⟨contains, rfl⟩, rfl⟩
  · rintro ⟨wanted, looksFor, text, found, rfl⟩
    exact .text none looksFor ((matchedText?_eq_some_iff root text).mp (looksFor ▸ found)).1

/-- Looking for what a rule finds fails if the rule cannot be read, and else comes to what it finds,
or to nothing if it passes. -/
theorem matchedBy_decided (root : Place) (rule : ErrorRule) :
    (∃ selector error, rule.selector = some selector ∧
      Extraction.selectorOf selector = .error error ∧ matchedBy rule root = .error error) ∨
    (∃ matched, rule.Finds root matched ∧ matchedBy rule root = .ok (some matched)) ∨
    rule.Passes root ∧ matchedBy rule root = .ok none := by
  have readable : ∀ {found : Option String}, matchedBy rule root = .ok found →
      (∀ selector, rule.selector = some selector →
        ∃ compiled, Extraction.selectorOf selector = .ok compiled) →
      (∀ matched, rule.Finds root matched ↔ found = some matched) →
      (∃ matched, rule.Finds root matched ∧ matchedBy rule root = .ok (some matched)) ∨
        rule.Passes root ∧ matchedBy rule root = .ok none := by
    intro found outcome compiles finds
    cases found with
    | some matched => exact .inl ⟨matched, (finds matched).mpr rfl, outcome⟩
    | none =>
      exact .inr ⟨⟨compiles, fun matched isFound => by cases (finds matched).mp isFound⟩, outcome⟩
  cases given : rule.selector with
  | some selector =>
    cases compiles : Extraction.selectorOf selector with
    | error error =>
      refine .inl ⟨selector, error, rfl, compiles, ?_⟩
      unfold matchedBy
      simp only [given, compiles]
      rfl
    | ok compiled =>
      refine .inr (readable ?_ (fun other isGiven => ?_) fun matched =>
        finds_iff_of_selector given compiles)
      · unfold matchedBy
        simp only [given, compiles, List.findSome?_map]
        rfl
      · exact ⟨compiled, Option.some.inj (given.symm.trans isGiven) ▸ compiles⟩
  | none =>
    refine .inr (readable ?_ (fun other isGiven => ?_) fun matched => finds_iff_of_none given)
    · unfold matchedBy
      simp only [given]
      cases rule.contains <;> rfl
    · cases given.symm.trans isGiven

/-! ### Lists of rules -/

/-- A rule that passes leaves the outcome to the rules behind it, and any other decides, whatever
rules there are behind it. -/
theorem findFailure_cons (context : Filter.Context) (root : Place) (rule : ErrorRule) :
    (rule.Passes root ∧ ∀ rules, findFailure context root (rule :: rules) =
      findFailure context root rules) ∨
    ∃ outcome, rule.Decides context root outcome ∧
      ∀ rules, findFailure context root (rule :: rules) = outcome := by
  rcases matchedBy_decided root rule with ⟨selector, error, given, invalid, outcome⟩ |
    ⟨matched, finds, outcome⟩ | ⟨passes, outcome⟩
  · exact .inr ⟨_, .fails (.selector given invalid), fun rules => by rw [findFailure, outcome]; rfl⟩
  · cases given : rule.message with
    | none =>
      refine .inr ⟨_, .finds finds (.nothing given) (explains_reasonOf "" matched), fun rules => ?_⟩
      rw [findFailure, outcome]
      simp only [given]
      rfl
    | some block =>
      cases value : Extraction.blockValue context root block with
      | error error =>
        refine .inr ⟨_, .fails (.message finds given value), fun rules => ?_⟩
        rw [findFailure, outcome]
        simp only [given, value]
        rfl
      | ok message =>
        refine .inr ⟨_, .finds finds (.block given value) (explains_reasonOf message matched),
          fun rules => ?_⟩
        rw [findFailure, outcome]
        simp only [given, value]
        rfl
  · exact .inl ⟨passes, fun rules => by rw [findFailure, outcome]; rfl⟩

end

/-- The first of some rules that does not pass decides, or else nothing is wrong. -/
theorem findFailure_decided (context : Filter.Context) (root : Place) (rules : List ErrorRule) :
    (∃ before rule behind outcome, rules = before ++ rule :: behind ∧
      (∀ earlier ∈ before, earlier.Passes root) ∧ rule.Decides context root outcome ∧
      ∀ others, findFailure context root (before ++ rule :: others) = outcome) ∨
    (∀ rule ∈ rules, rule.Passes root) ∧ findFailure context root rules = .ok none := by
  induction rules with
  | nil => exact .inr ⟨fun _ absent => absurd absent List.not_mem_nil, rfl⟩
  | cons rule rest inductionHypothesis =>
    rcases findFailure_cons context root rule with ⟨passes, same⟩ | ⟨outcome, decides, all⟩
    · rcases inductionHypothesis with
        ⟨before, deciding, behind, outcome, order, earlier, decides, all⟩ | ⟨others, none⟩
      · refine .inl ⟨rule :: before, deciding, behind, outcome, congrArg (rule :: ·) order,
          List.forall_mem_cons.mpr ⟨passes, earlier⟩, decides, fun others => ?_⟩
        exact (same _).trans (all others)
      · exact .inr ⟨List.forall_mem_cons.mpr ⟨passes, others⟩, (same rest).trans none⟩
    · exact .inl ⟨[], rule, rest, outcome, rfl, fun _ absent => absurd absent List.not_mem_nil,
        decides, all⟩

/-! ### Pages -/

/-- What the page that comes back from a login says about it. The first rule that does not pass
decides, whatever rules there are behind it: it fails, or it gives a reason, and the reason is not
empty. Nothing is wrong if every rule passes; and unless a rule fails, nothing is wrong just if no
rule finds anything. -/
theorem failureOn_decided (context : Filter.Context) (rules : List ErrorRule) (page : Page) :
    ∃ root, rootOf? page.document = some root ∧
      ((∃ before rule behind outcome, rules = before ++ rule :: behind ∧
        (∀ earlier ∈ before, earlier.Passes root) ∧ rule.Decides context root outcome ∧
        ∀ others, failureOn context (before ++ rule :: others) page = outcome) ∨
        (∀ rule ∈ rules, rule.Passes root) ∧ failureOn context rules page = .ok none) ∧
      (∀ reason, failureOn context rules page = .ok (some reason) → reason ≠ "") ∧
      (failureOn context rules page = .ok none ↔ ∀ rule ∈ rules, rule.Passes root) ∧
      ∀ found, failureOn context rules page = .ok found →
        (found = none ↔ ∀ rule ∈ rules, ∀ matched, ¬ rule.Finds root matched) := by
  obtain ⟨root, isRoot⟩ : ∃ root, rootOf? page.document = some root :=
    Option.isSome_iff_exists.mp
      (List.isSome_head?.mpr (Markup.Document.placesInPage_ne_nil page.text))
  have onRoot : ∀ rules, failureOn context rules page = findFailure context root rules := by
    intro rules
    simp only [failureOn, isRoot]
  simp only [onRoot]
  have decided := findFailure_decided context root rules
  refine ⟨root, isRoot, decided, ?_⟩
  rcases decided with ⟨before, rule, behind, outcome, rfl, earlier, decides, all⟩ | ⟨passes, none⟩
  · have isRule : rule ∈ before ++ rule :: behind := List.mem_append_right _ List.mem_cons_self
    rw [all]
    refine ⟨?_, ⟨?_, fun passes => absurd decides (passes rule isRule).not_decides⟩, ?_⟩
    · rintro reason rfl
      cases decides with
      | finds _ _ explains => exact explains.ne_empty
    · rintro rfl
      cases decides
    · rintro found rfl
      cases decides with
      | finds finds =>
        refine ⟨?_, fun nothing => absurd finds (nothing rule isRule _)⟩
        rintro ⟨⟩
  · rw [none]
    refine ⟨?_, ⟨fun _ => passes, fun _ => rfl⟩, ?_⟩
    · rintro reason same
      cases same
    rintro found same
    cases same
    exact ⟨fun _ rule member => (passes rule member).nothing, fun _ => rfl⟩

end Indexer

end Metasearch
