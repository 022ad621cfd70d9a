/-
This file settles which fields a form has that was read from a page. The controls inside the form
are gone through in document order, and each that has a name adds one field: an input that is no
button its value, if it is a box only when it is ticked; a choice the first option said to be
selected, or else its first; a text its own, trimmed.

Behind them stands the button that is pressed. Inputs are looked through for it before button
elements are: so it is the first of all that submit the form only if that is an input, or if no
input submits it.
-/
import Mathlib
import Metasearch.Page
import Metasearch.Proofs.GivenValues
import Metasearch.Proofs.Outcomes
import Metasearch.Proofs.TextBytes

namespace Metasearch

namespace Form

open Markup (Place)

/-! ### Controls -/

/-- The type of an input, in lower case; it is text if none is written. -/
def inputType (control : Place) : String :=
  ((control.attribute? "type").getD "text").map Char.toLower

/-- The types of inputs that are buttons. -/
def buttonTypes : List String := ["submit", "image", "button", "reset"]

/-- The types of inputs that are boxes to tick. -/
def boxTypes : List String := ["checkbox", "radio"]

/-- The value of a choice: the first option said to be selected, else the first. -/
inductive Chooses (choice : Place) : String → Prop
  | selected {before behind : List Place} {option : Place}
      (options : choice.descendants.filter (isNamed "option") = before ++ option :: behind)
      (isSelected : (option.attribute? "selected").isSome = true)
      (isFirst : ∀ earlier ∈ before, (earlier.attribute? "selected").isSome = false) :
      Chooses choice (optionValue option)
  | first {option : Place} {behind : List Place}
      (options : choice.descendants.filter (isNamed "option") = option :: behind)
      (none : ∀ other ∈ option :: behind, (other.attribute? "selected").isSome = false) :
      Chooses choice (optionValue option)
  | empty (options : choice.descendants.filter (isNamed "option") = []) : Chooses choice ""

/-- The field that a control adds to its form. -/
inductive Adds (control : Place) : String × String → Prop
  | text {name : String} (isText : isNamed "textarea" control = true)
      (named : fieldName? control = some name) : Adds control (name, elementText control)
  | choice {name value : String} (isChoice : isNamed "select" control = true)
      (named : fieldName? control = some name) (chosen : Chooses control value) :
      Adds control (name, value)
  | box {name : String} (isInput : isNamed "input" control = true)
      (named : fieldName? control = some name) (isBox : inputType control ∈ boxTypes)
      (ticked : (control.attribute? "checked").isSome = true) :
      Adds control (name, givenValue control)
  | input {name : String} (isInput : isNamed "input" control = true)
      (named : fieldName? control = some name) (noButton : inputType control ∉ buttonTypes)
      (noBox : inputType control ∉ boxTypes) : Adds control (name, givenValue control)

/-- An input submits its form, and sends a name and a value. -/
def InputSubmits (control : Place) (sent : String × String) : Prop :=
  isNamed "input" control = true ∧ inputType control ∈ ["submit", "image"] ∧
    fieldName? control = some sent.1 ∧ sent.2 = givenValue control

/-- A button element submits its form, and sends a name and a value. -/
def ButtonSubmits (control : Place) (sent : String × String) : Prop :=
  isNamed "button" control = true ∧
    ((control.attribute? "type").getD "submit").map Char.toLower = "submit" ∧
    fieldName? control = some sent.1 ∧ sent.2 = givenValue control

/-- A control submits its form, and sends a name and a value. -/
def Submits (control : Place) (sent : String × String) : Prop :=
  InputSubmits control sent ∨ ButtonSubmits control sent

theorem chooses_iff {choice : Place} {value : String} :
    choiceValue choice = value ↔ Chooses choice value := by
  unfold choiceValue
  constructor
  · rintro rfl
    cases found : (choice.descendants.filter (isNamed "option")).find? fun option =>
        (option.attribute? "selected").isSome with
    | some option =>
      obtain ⟨isSelected, before, behind, options, earlier⟩ :=
        List.find?_eq_some_iff_append.mp found
      simp only [found]
      exact .selected options isSelected fun other member => by simpa using earlier other member
    | none =>
      have unselected := List.find?_eq_none.mp found
      cases options : choice.descendants.filter (isNamed "option") with
      | nil => exact .empty options
      | cons option behind =>
        rw [options] at unselected found
        simp only [found]
        exact .first options fun other member => by simpa using unselected other member
  · rintro (⟨options, isSelected, isFirst⟩ | ⟨options, unselected⟩ | ⟨options⟩)
    · have found : (choice.descendants.filter (isNamed "option")).find? (fun option =>
          (option.attribute? "selected").isSome) = some _ := List.find?_eq_some_iff_append.mpr
        ⟨isSelected, _, _, options, fun other member => by simp [isFirst other member]⟩
      simp only [found]
      rfl
    · have found : (choice.descendants.filter (isNamed "option")).find? (fun option =>
          (option.attribute? "selected").isSome) = none := List.find?_eq_none.mpr
        fun other member => by simp [unselected other (options ▸ member)]
      simp only [options] at found ⊢
      simp only [found]
      rfl
    · simp only [options]
      rfl

/-! ### Passes over a form -/

/-- The field that a control is found to add. -/
def entry? (control : Place) : Option (String × String) :=
  if isField control then
    match partOf control with
    | .field name value => some (name, value)
    | _ => none
  else none

/-- What an input is found to send when it is pressed. -/
def inputButton? (control : Place) : Option (String × String) :=
  if isField control then
    match partOf control with
    | .button name value => some (name, value)
    | _ => none
  else none

/-- What a button element is found to send when it is pressed. -/
def elementButton? (control : Place) : Option (String × String) :=
  if isNamed "button" control then buttonOf control else none

theorem findSome?_filter {Item Value : Type} (keeps : Item → Bool) (give? : Item → Option Value)
    (list : List Item) :
    (list.filter keeps).findSome? give? =
      list.findSome? fun item => if keeps item then give? item else none := by
  rw [← List.head?_filterMap, List.filterMap_filter, List.head?_filterMap]

theorem fieldsOf_eq (form : Place) :
    fieldsOf form = form.descendants.filterMap entry? ++
      ((form.descendants.findSome? inputButton?).or
        (form.descendants.findSome? elementButton?)).toList := by
  unfold fieldsOf
  simp only [List.filterMap_map, List.findSome?_map, List.filterMap_filter, findSome?_filter]
  rfl

/-- A control has one name, and so is of one kind. -/
theorem isNamed_of_ne {control : Place} {name : String} (isName : isNamed name control = true)
    {other : String} (differs : name ≠ other) : isNamed other control = false := by
  unfold isNamed at isName ⊢
  rw [beq_iff_eq.mp isName]
  exact beq_false_of_ne differs

variable {control : Place} {name : String}

theorem partOf_text (isText : isNamed "textarea" control = true)
    (named : fieldName? control = some name) :
    partOf control = .field name (elementText control) := by
  simp only [partOf, named, isText, if_true]

theorem partOf_choice (isChoice : isNamed "select" control = true)
    (named : fieldName? control = some name) :
    partOf control = .field name (choiceValue control) := by
  have noText : isNamed "textarea" control = false := isNamed_of_ne isChoice (by decide)
  simp only [partOf, named, noText, isChoice, if_true, Bool.false_eq_true, if_false]

/-- What an input adds, going by its type. -/
theorem partOf_input (isInput : isNamed "input" control = true)
    (named : fieldName? control = some name) :
    partOf control =
      if inputType control ∈ ["submit", "image"] then .button name (givenValue control)
      else if inputType control ∈ buttonTypes then .nothing
      else if inputType control ∈ boxTypes then
        if (control.attribute? "checked").isSome then .field name (givenValue control)
        else .nothing
      else .field name (givenValue control) := by
  have noText : isNamed "textarea" control = false := isNamed_of_ne isInput (by decide)
  have noChoice : isNamed "select" control = false := isNamed_of_ne isInput (by decide)
  unfold partOf inputType
  simp only [named, noText, noChoice, Bool.false_eq_true, if_false]
  generalize ((control.attribute? "type").getD "text").map Char.toLower = kind
  split <;> simp_all [buttonTypes, boxTypes]

/-- An input that is no button does not submit its form. -/
theorem not_submits_of_noButton (noButton : inputType control ∉ buttonTypes) :
    inputType control ∉ ["submit", "image"] :=
  fun member => noButton (List.mem_append_left ["button", "reset"] member)

/-- Only a control with a name adds anything, and it is an input, a text or a choice. -/
theorem kind_of_part (isField : isField control = true)
    (adds : partOf control ≠ .nothing) :
    ∃ name, fieldName? control = some name ∧ (isNamed "input" control = true ∨
      isNamed "textarea" control = true ∨ isNamed "select" control = true) := by
  cases named : fieldName? control with
  | none => exact absurd (by simp only [partOf, named]) adds
  | some name =>
    refine ⟨name, rfl, ?_⟩
    simpa only [Form.isField, Bool.or_eq_true, or_assoc] using isField

theorem entry?_eq_some_iff (control : Place) (field : String × String) :
    entry? control = some field ↔ Adds control field := by
  obtain ⟨name, value⟩ := field
  have found : entry? control = some (name, value) ↔
      isField control = true ∧ partOf control = .field name value := by
    unfold entry?
    cases isField control <;> cases partOf control <;> simp
  rw [found]
  constructor
  · rintro ⟨isField, part⟩
    obtain ⟨known, named, isInput | isText | isChoice⟩ :=
      kind_of_part isField (by rw [part]; exact Part.noConfusion)
    · rw [partOf_input isInput named] at part
      split_ifs at part with submits isButton isBox ticked
      · obtain ⟨rfl, rfl⟩ := Part.field.inj part
        exact .box isInput named isBox ticked
      · obtain ⟨rfl, rfl⟩ := Part.field.inj part
        exact .input isInput named isButton isBox
    · obtain ⟨rfl, rfl⟩ := Part.field.inj ((partOf_text isText named).symm.trans part)
      exact .text isText named
    · obtain ⟨rfl, chosen⟩ := Part.field.inj ((partOf_choice isChoice named).symm.trans part)
      exact .choice isChoice named (chooses_iff.mp chosen)
  · rintro (⟨isText, named⟩ | ⟨isChoice, named, chosen⟩ | ⟨isInput, named, isBox, ticked⟩ |
      ⟨isInput, named, noButton, noBox⟩)
    · exact ⟨by simp [isField, isText], partOf_text isText named⟩
    · rw [← chooses_iff.mpr chosen]
      exact ⟨by simp [isField, isChoice], partOf_choice isChoice named⟩
    · have noButton : inputType control ∉ buttonTypes := by
        rcases List.mem_cons.mp isBox with same | same <;> simp_all [boxTypes, buttonTypes]
      exact ⟨by simp [isField, isInput], by
        rw [partOf_input isInput named, if_neg (not_submits_of_noButton noButton),
          if_neg noButton, if_pos isBox, if_pos ticked]⟩
    · exact ⟨by simp [isField, isInput], by
        rw [partOf_input isInput named, if_neg (not_submits_of_noButton noButton),
          if_neg noButton, if_neg noBox]⟩

theorem inputButton?_eq_some_iff (control : Place) (sent : String × String) :
    inputButton? control = some sent ↔ InputSubmits control sent := by
  obtain ⟨name, value⟩ := sent
  have found : inputButton? control = some (name, value) ↔
      isField control = true ∧ partOf control = .button name value := by
    unfold inputButton?
    cases isField control <;> cases partOf control <;> simp
  rw [found]
  constructor
  · rintro ⟨isField, part⟩
    obtain ⟨known, named, isInput | isText | isChoice⟩ :=
      kind_of_part isField (by rw [part]; exact Part.noConfusion)
    · rw [partOf_input isInput named] at part
      split_ifs at part with submits
      obtain ⟨rfl, rfl⟩ := Part.button.inj part
      exact ⟨isInput, submits, named, rfl⟩
    · cases (partOf_text isText named).symm.trans part
    · cases (partOf_choice isChoice named).symm.trans part
  · rintro ⟨isInput, submits, named, rfl⟩
    exact ⟨by simp [isField, isInput], by rw [partOf_input isInput named, if_pos submits]⟩

theorem elementButton?_eq_some_iff (control : Place) (sent : String × String) :
    elementButton? control = some sent ↔ ButtonSubmits control sent := by
  obtain ⟨name, value⟩ := sent
  have lower : "submit".map Char.toLower = "submit" := by cbv
  unfold elementButton? buttonOf ButtonSubmits sameWord
  simp only [lower, Option.ite_none_right_eq_some, Option.bind_eq_bind, Option.bind_eq_some_iff,
    beq_iff_eq, Option.some.injEq, Prod.mk.injEq]
  constructor
  · rintro ⟨isButton, known, named, submits, rfl, rfl⟩
    exact ⟨isButton, submits, named, rfl⟩
  · rintro ⟨isButton, submits, named, rfl⟩
    exact ⟨isButton, name, named, submits, rfl, rfl⟩

/-! ### Forms -/

/-- What a form sends for the button that is pressed: what the first input that submits the form
sends, or if none does what the first button element that submits it sends, or nothing. -/
inductive Presses (form : Place) : List (String × String) → Prop
  | input {sent : String × String} (first : GivesFirst InputSubmits form.descendants sent) :
      Presses form [sent]
  | element {sent : String × String}
      (noInput : ∀ control ∈ form.descendants, ∀ other, ¬ InputSubmits control other)
      (first : GivesFirst ButtonSubmits form.descendants sent) : Presses form [sent]
  | none (noInput : ∀ control ∈ form.descendants, ∀ other, ¬ InputSubmits control other)
      (noElement : ∀ control ∈ form.descendants, ∀ other, ¬ ButtonSubmits control other) :
      Presses form []

/-- No button element that submits the form stands before an input that does. -/
def InputsFirst (form : Place) : Prop :=
  ∀ before control behind, form.descendants = before ++ control :: behind →
    (∃ sent, InputSubmits control sent) → ∀ earlier ∈ before, ∀ sent, ¬ ButtonSubmits earlier sent

/-- The fields of a form: what its controls add, in document order, and behind that what the button
that is pressed sends. -/
theorem fieldsOf_parts (form : Place) :
    ∃ entries pressed, fieldsOf form = entries ++ pressed ∧
      GivesAll Adds form.descendants entries ∧ Presses form pressed := by
  refine ⟨_, _, fieldsOf_eq form, givesAll_filterMap entry?_eq_some_iff form.descendants, ?_⟩
  cases byInput : form.descendants.findSome? inputButton? with
  | some sent =>
    exact .input ((findSome?_eq_some_iff_givesFirst inputButton?_eq_some_iff).mp byInput)
  | none =>
    have noInput := (findSome?_eq_none_iff_gives_nothing inputButton?_eq_some_iff).mp byInput
    cases byElement : form.descendants.findSome? elementButton? with
    | some sent =>
      exact .element noInput
        ((findSome?_eq_some_iff_givesFirst elementButton?_eq_some_iff).mp byElement)
    | none =>
      exact .none noInput
        ((findSome?_eq_none_iff_gives_nothing elementButton?_eq_some_iff).mp byElement)

/-- If no button element stands in front of the inputs, then the button that is pressed is the
first control that submits the form. -/
theorem Presses.givesFirst {form : Place} {pressed : List (String × String)}
    (presses : Presses form pressed) (inputsFirst : InputsFirst form) :
    (∃ sent, pressed = [sent] ∧ GivesFirst Submits form.descendants sent) ∨
      pressed = [] ∧ ∀ control ∈ form.descendants, ∀ sent, ¬ Submits control sent := by
  cases presses with
  | input first =>
    obtain ⟨before, control, behind, order, submits, isFirst⟩ := first
    have noElement := inputsFirst before control behind order ⟨_, submits⟩
    exact .inl ⟨_, rfl, before, control, behind, order, .inl submits,
      fun earlier member other => not_or.mpr ⟨isFirst earlier member other,
        noElement earlier member other⟩⟩
  | element noInput first =>
    obtain ⟨before, control, behind, order, submits, isFirst⟩ := first
    have inForm : before ⊆ form.descendants := order ▸ List.subset_append_left _ _
    exact .inl ⟨_, rfl, before, control, behind, order, .inr submits,
      fun earlier member other => not_or.mpr ⟨noInput earlier (inForm member) other,
        isFirst earlier member other⟩⟩
  | none noInput noElement =>
    exact .inr ⟨rfl, fun control member sent =>
      not_or.mpr ⟨noInput control member sent, noElement control member sent⟩⟩

/-- The fields of the form that is read from a page are those of the first element that the selector
fits: what its controls add, in document order, and behind that what the button that is pressed
sends. That is the first control that submits the form, as long as no button element stands in
front of an input. -/
theorem ofPage_fields {page : Page} {selector : String} {form : Form}
    (read : ofPage page selector = .ok form) :
    ∃ compiled place entries pressed, compileSelector selector = .ok compiled ∧
      (compiled.selectIn page.document).head? = some place ∧
      form.fields = entries ++ pressed ∧ GivesAll Adds place.descendants entries ∧
      Presses place pressed ∧
      (InputsFirst place →
        (∃ sent, pressed = [sent] ∧ GivesFirst Submits place.descendants sent) ∨
          pressed = [] ∧ ∀ control ∈ place.descendants, ∀ sent, ¬ Submits control sent) := by
  unfold ofPage ofDocument at read
  obtain ⟨compiled, isCompiled, read⟩ := except_of_bind read
  cases found : (compiled.selectIn page.document).head? with
  | none => simp only [found] at read; cases read
  | some place =>
    simp only [found] at read
    obtain ⟨action, -, read⟩ := except_of_bind read
    cases read
    obtain ⟨entries, pressed, fields, collects, presses⟩ := fieldsOf_parts place
    exact ⟨compiled, place, entries, pressed, isCompiled, found, fields, collects, presses,
      presses.givesFirst⟩

/-- A page with a form in which a button element stands before an input; both submit the form. -/
def buttonPage : Page :=
  ⟨⟨"http", "", "", some (.named "site.example"), none, .segments [""], none, none⟩, 200, [],
    Text.encode ("<form><input name=q value=0><button name=a value=1></button>" ++
      "<input type=submit name=b value=2></form>").toList⟩

/-- What the page reads as. -/
def buttonDocument : Markup.Document :=
  let field : Markup.Node :=
    .element 5 ⟨.html, "input", [⟨"", "name", "q"⟩, ⟨"", "value", "0"⟩]⟩ []
  let button : Markup.Node :=
    .element 6 ⟨.html, "button", [⟨"", "name", "a"⟩, ⟨"", "value", "1"⟩]⟩ []
  let input : Markup.Node := .element 7 ⟨.html, "input",
    [⟨"", "type", "submit"⟩, ⟨"", "name", "b"⟩, ⟨"", "value", "2"⟩]⟩ []
  ⟨[.element 1 ⟨.html, "html", []⟩ [
      .element 2 ⟨.html, "head", []⟩ [],
      .element 3 ⟨.html, "body", []⟩ [.element 4 ⟨.html, "form", []⟩ [field, button, input]]]], []⟩

theorem document_buttonPage : buttonPage.document = buttonDocument := by
  rw [Page.document, Page.text, buttonPage, Text.decode_encode, String.ofList_toList]
  cbv

/-- What is read from the page: the field, and the input behind the button element. -/
def buttonForm : Form := ⟨buttonPage.url, .get, [("q", "0"), ("b", "2")]⟩

theorem ofPage_buttonPage : ofPage buttonPage "form" = .ok buttonForm := by
  rw [ofPage, document_buttonPage]
  cbv

/-- The place of the form in the page. -/
def buttonPlace : Place := buttonDocument.places[3]

theorem selectIn_buttonPage :
    compileSelector "form" = .ok ⟨[.single [.name "form"]]⟩ ∧
      (Selector.selectIn ⟨[.single [.name "form"]]⟩ buttonPage.document).head? =
        some buttonPlace := by
  refine ⟨by cbv, ?_⟩
  rw [document_buttonPage]
  cbv

/-- The last control of the form is an input that submits it. -/
theorem inputSubmits_buttonPlace :
    ∃ control ∈ buttonPlace.descendants, InputSubmits control ("b", "2") :=
  ⟨buttonPlace.descendants[2], List.getElem_mem _, by cbv, by decide +kernel, by cbv, by cbv⟩

/-- From the page, the input that adds a field is read, and the one that is pressed. -/
theorem ofPage_fields_buttonPage :
    ofPage buttonPage "form" = .ok buttonForm ∧
      (∃ compiled, compileSelector "form" = .ok compiled ∧
        (compiled.selectIn buttonPage.document).head? = some buttonPlace) ∧
      buttonForm.fields = [("q", "0")] ++ [("b", "2")] ∧
      GivesAll Adds buttonPlace.descendants [("q", "0")] ∧ Presses buttonPlace [("b", "2")] := by
  obtain ⟨compiled, place, entries, pressed, isCompiled, found, fields, adds, presses, -⟩ :=
    ofPage_fields ofPage_buttonPage
  obtain ⟨compiles, selects⟩ := selectIn_buttonPage
  obtain rfl := Except.ok.inj (isCompiled.symm.trans compiles)
  obtain rfl := Option.some.inj (found.symm.trans selects)
  -- One button is pressed, so all but the last of the fields were added.
  obtain ⟨sent, rfl⟩ : ∃ sent, pressed = [sent] := by
    cases presses with
    | input first => exact ⟨_, rfl⟩
    | element noInput first => exact ⟨_, rfl⟩
    | none noInput noElement =>
      obtain ⟨control, member, submits⟩ := inputSubmits_buttonPlace
      exact absurd submits (noInput control member _)
  obtain ⟨rfl, last⟩ := List.append_inj' (show [("q", "0")] ++ [("b", "2")] = _ from fields) rfl
  obtain rfl := List.head_eq_of_cons_eq last
  exact ⟨ofPage_buttonPage, ⟨_, compiles, selects⟩, rfl, adds, presses⟩

/-- The first control of a form that submits it is passed over for an input behind it. -/
theorem ofPage_passesButton :
    ofPage buttonPage "form" = .ok buttonForm ∧
      ∃ compiled place, compileSelector "form" = .ok compiled ∧
        (compiled.selectIn buttonPage.document).head? = some place ∧
        GivesFirst Submits place.descendants ("a", "1") ∧ ("a", "1") ∉ buttonForm.fields := by
  obtain ⟨compiles, selects⟩ := selectIn_buttonPage
  refine ⟨ofPage_buttonPage, _, buttonPlace, compiles, selects, ?_, by decide⟩
  refine ⟨[_], _, _, rfl, .inr ⟨by cbv, by cbv, by cbv, by cbv⟩, ?_⟩
  intro earlier member sent
  cases List.mem_singleton.mp member
  rintro (⟨-, submits, -⟩ | ⟨isButton, -⟩)
  · rw [show inputType _ = "text" by cbv] at submits
    exact absurd submits (by decide)
  · rw [show isNamed "button" _ = false by cbv] at isButton
    cases isButton

end Form

end Metasearch
