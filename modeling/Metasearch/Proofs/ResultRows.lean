/-
This file settles what a result page comes to. The rows that a selector fits are gone through in
the order in which their elements were made, up to as many wanted items as were asked for. The
first of these rows that fails or has no title decides for the whole page; if there is none, the
page comes to the wanted items and nothing else, and no row behind them has a say.

The order in which elements are made is that of the page, but for misplaced content: an element
that a table cannot hold is put in front of the table, and so stands before rows that were made
earlier. The two orders of the rows are the same exactly when the numbers of the rows ascend. What a
frameset replaces is no longer in the page, but its rows are found as well; in document order they
count as the last.
-/
import Mathlib
import Metasearch.Extraction
import Metasearch.Proofs.Outcomes

namespace Metasearch.Extraction

open Markup (Document Place Node)

/-! ### One row -/

/-- The item that a row alone comes to. Its number does not matter, since only warnings tell
it. -/
def itemOf (request : Request) (row : Place) : Except Error Item :=
  (rowItem request 1 row).map Prod.fst

/-- The row has an item of a category that was asked for. -/
def passes (request : Request) (row : Place) : Bool :=
  match itemOf request row with
  | .ok item => isWanted request.query item
  | .error _ => false

/-- The row decides for the page: it fails, or its item has no title. -/
def decides (request : Request) (row : Place) : Bool :=
  match itemOf request row with
  | .ok item => item.title.isEmpty
  | .error _ => true

theorem putValues_map_fst (base : Url) (number other : Nat) (item : Item)
    (values : List (String × String)) :
    (putValues base number item values).map Prod.fst =
      (putValues base other item values).map Prod.fst := by
  induction values generalizing item with
  | nil => rfl
  | cons head rest inductionHypothesis =>
    obtain ⟨name, value⟩ := head
    simp only [putValues]
    cases withValue? base item name value with
    | none => rfl
    | some put =>
      cases put with
      | ok next => exact inductionHypothesis next
      | error reason =>
        have same := inductionHypothesis item
        cases first : putValues base number item rest <;>
          cases second : putValues base other item rest <;>
          simp_all [Except.map, bind, Except.bind, pure, Except.pure]

/-- The item of a row is the same at every number. -/
theorem rowItem_map_fst (request : Request) (number : Nat) (row : Place) :
    (rowItem request number row).map Prod.fst = itemOf request row := by
  unfold itemOf rowItem
  cases rowValues request.context request.search.fields row with
  | error error => rfl
  | ok values =>
    have same := putValues_map_fst request.base number 1 (Item.ofSite request.site) values
    simp only [bind, Except.bind, buildItem]
    cases first : putValues request.base number (Item.ofSite request.site) values <;>
      cases second : putValues request.base 1 (Item.ofSite request.site) values <;>
      simp_all [Except.map, Except.mapError]

theorem itemOf_of_rowItem_ok {request : Request} {number : Nat} {row : Place} {item : Item}
    {warnings : List Warning} (found : rowItem request number row = .ok (item, warnings)) :
    itemOf request row = .ok item := by
  rw [← rowItem_map_fst request number, found]
  rfl

theorem itemOf_of_rowItem_error {request : Request} {number : Nat} {row : Place} {error : Error}
    (failed : rowItem request number row = .error error) : itemOf request row = .error error := by
  rw [← rowItem_map_fst request number, failed]
  rfl

/-! ### The rows that are gone through -/

/-- The rows gone through behind a count of wanted items: the shortest beginning of the rows with
which the limit is reached, or all rows if none reaches it. -/
def processedBehind (request : Request) (count : Nat) (rows : List Place) : List Place :=
  match request.query.limit with
  | none => rows
  | some limit =>
    (rows.inits.find? fun taken => limit ≤ count + taken.countP (passes request)).getD rows

/-- The rows that are gone through on a page. -/
def processed (request : Request) (rows : List Place) : List Place :=
  processedBehind request 0 rows

/-- There are as many wanted items among the rows as were asked for. -/
def ReachesLimit (request : Request) (rows : List Place) : Prop :=
  isFull request.query (rows.countP (passes request)) = true

theorem processedBehind_nil (request : Request) (count : Nat) :
    processedBehind request count [] = [] := by
  unfold processedBehind
  cases request.query.limit with
  | none => rfl
  | some limit =>
    simp only [List.inits, List.find?_cons, List.find?_nil]
    split <;> rfl

theorem processedBehind_of_full {request : Request} {count : Nat}
    (full : isFull request.query count = true) (rows : List Place) :
    processedBehind request count rows = [] := by
  unfold isFull at full
  unfold processedBehind
  cases limited : request.query.limit with
  | none => simp [limited] at full
  | some limit =>
    have reached : limit ≤ count := by simpa [limited] using full
    cases rows <;> simp [reached]

theorem processedBehind_cons {request : Request} {count : Nat}
    (room : isFull request.query count = false) (row : Place) (rows : List Place) :
    processedBehind request count (row :: rows) =
      row :: processedBehind request (count + [row].countP (passes request)) rows := by
  unfold isFull at room
  unfold processedBehind
  cases limited : request.query.limit with
  | none => rfl
  | some limit =>
    have missing : ¬ limit ≤ count := by simpa [limited] using room
    simp only [List.inits_cons, List.find?_cons, List.countP_nil, Nat.add_zero, missing,
      decide_false, List.find?_map]
    have shifted : ((fun taken => decide (limit ≤ count + List.countP (passes request) taken)) ∘
        fun taken => row :: taken) =
        fun taken => decide (limit ≤ count + List.countP (passes request) [row] +
          List.countP (passes request) taken) := by
      funext taken
      simp only [Function.comp_apply, List.countP_cons, List.countP_nil, decide_eq_decide]
      omega
    rw [shifted]
    cases List.find? _ rows.inits <;> rfl

/-- Where the limit is reached, the rows behind are not gone through, whatever they are. -/
theorem processed_append_of_reaches {request : Request} {rows : List Place}
    (reached : ReachesLimit request (processed request rows)) (later : List Place) :
    processed request (processed request rows ++ later) = processed request rows := by
  have general : ∀ (list : List Place) (count : Nat),
      isFull request.query
        (count + (processedBehind request count list).countP (passes request)) = true →
      processedBehind request count (processedBehind request count list ++ later) =
        processedBehind request count list := by
    intro list
    induction list with
    | nil =>
      intro count full
      rw [processedBehind_nil] at full ⊢
      exact processedBehind_of_full full _
    | cons row rest inductionHypothesis =>
      intro count full
      cases room : isFull request.query count with
      | true => rw [processedBehind_of_full room, processedBehind_of_full room]
      | false =>
        rw [processedBehind_cons room] at full ⊢
        rw [List.cons_append, processedBehind_cons room,
          inductionHypothesis (count + [row].countP (passes request))]
        rw [← full]
        congr 1
        simp only [List.countP_cons, List.countP_nil]
        omega
  exact general rows 0 (by rw [Nat.zero_add]; exact reached)

/-! ### What rows come to -/

/-- The items of those rows that pass, in the order of the rows. -/
def passingItems (request : Request) (rows : List Place) : List Item :=
  (rows.filter (passes request)).filterMap fun row => (itemOf request row).toOption

/-- What rows come to that are gone through: the first that decides for the page does so, with
its error or with an empty page; otherwise there are the items of the rows that pass. -/
def outcome (request : Request) (rows : List Place) : Except Error (List Item) :=
  match rows.find? (decides request) with
  | some row => (itemOf request row).map fun _ => []
  | none => .ok (passingItems request rows)

/-- What rows come to behind items already found. -/
def outcomeBehind (request : Request) (found : List Item) (rows : List Place) :
    Except Error (List Item) :=
  match rows.find? (decides request) with
  | some row => (itemOf request row).map fun _ => []
  | none => .ok (found ++ passingItems request rows)

theorem exists_item_of_not_decides {request : Request} {row : Place}
    (silent : decides request row = false) :
    ∃ item, itemOf request row = .ok item ∧ item.title.isEmpty = false := by
  unfold decides at silent
  cases made : itemOf request row with
  | error error => simp [made] at silent
  | ok item => exact ⟨item, rfl, by simpa [made] using silent⟩

/-- A wanted item is one more found. -/
theorem length_append_wanted {request : Request} {row : Place} {item : Item}
    (made : itemOf request row = .ok item) (found : List Item) :
    (found ++ if isWanted request.query item then [item] else []).length =
      found.length + [row].countP (passes request) := by
  have passing : passes request row = isWanted request.query item := by simp [passes, made]
  cases wanted : isWanted request.query item <;> simp [passing, wanted]

theorem outcomeBehind_of_decides {request : Request} {row : Place}
    (deciding : decides request row = true) (found : List Item) (rows : List Place) :
    outcomeBehind request found (row :: rows) = (itemOf request row).map fun _ => [] := by
  simp only [outcomeBehind, List.find?_cons, deciding]

theorem outcomeBehind_of_item {request : Request} {row : Place} {item : Item}
    (made : itemOf request row = .ok item) (titled : item.title.isEmpty = false)
    (found : List Item) (rows : List Place) :
    outcomeBehind request found (row :: rows) =
      outcomeBehind request (found ++ if isWanted request.query item then [item] else [])
        rows := by
  have silent : decides request row = false := by simp [decides, made, titled]
  have passing : passes request row = isWanted request.query item := by simp [passes, made]
  simp only [outcomeBehind, List.find?_cons, silent, passingItems, List.filter_cons, passing]
  cases isWanted request.query item <;> simp [made, Except.toOption]

/-- A row that decides, come to while there is room: no row behind it is gone through, and none is
counted but for its warnings. -/
theorem readRows_of_decides {request : Request} {row : Place}
    (deciding : decides request row = true) {found : List Item}
    (room : isFull request.query found.length = false) (number : Nat) (rows : List Place) :
    ∃ warnings : List String, readRows request found number (row :: rows) =
      (warnings.map Event.warned, (itemOf request row).map fun _ => []) := by
  simp only [readRows, room, Bool.false_eq_true, if_false]
  cases made : rowItem request number row with
  | error error => exact ⟨[], by rw [itemOf_of_rowItem_error made]; rfl⟩
  | ok result =>
    obtain ⟨item, warnings⟩ := result
    have alone := itemOf_of_rowItem_ok made
    have untitled : item.title.isEmpty = true := by simpa [decides, alone] using deciding
    refine ⟨warnings.map Warning.field, ?_⟩
    simp only [untitled, if_true, List.map_map, alone]
    rfl

/-- A row with an item, come to while there is room: it is counted as emitted or as filtered, and
taken up behind the items found if it is wanted. -/
theorem readRows_of_item {request : Request} {row : Place} {item : Item}
    (made : itemOf request row = .ok item) (titled : item.title.isEmpty = false)
    {found : List Item} (room : isFull request.query found.length = false) (number : Nat)
    (rows : List Place) :
    let kept := isWanted request.query item
    let later := readRows request (found ++ if kept then [item] else []) (number + 1) rows
    ∃ warnings : List String, readRows request found number (row :: rows) =
      (warnings.map Event.warned ++ (if kept then .emitted else .filtered) :: later.1, later.2) := by
  obtain ⟨⟨same, warnings⟩, here, rfl⟩ :=
    map_eq_ok.mp ((rowItem_map_fst request number row).trans made)
  refine ⟨warnings.map Warning.field, ?_⟩
  simp only [readRows, room, Bool.false_eq_true, if_false, here, titled, List.map_map]
  cases isWanted request.query same <;> simp [Function.comp_def]

/-- One row of the loop, and by induction all of them: what the loop gives is what the rows come
to that are gone through. -/
theorem readRows_snd (request : Request) (found : List Item) (number : Nat)
    (rows : List Place) :
    (readRows request found number rows).2 =
      outcomeBehind request found (processedBehind request found.length rows) := by
  induction rows generalizing found number with
  | nil => simp [readRows, processedBehind_nil, outcomeBehind, passingItems]
  | cons row rest inductionHypothesis =>
    cases room : isFull request.query found.length with
    | true =>
      rw [processedBehind_of_full room]
      simp [readRows, room, outcomeBehind, passingItems]
    | false =>
      rw [processedBehind_cons room]
      cases deciding : decides request row with
      | true =>
        obtain ⟨warnings, step⟩ := readRows_of_decides deciding room number rest
        rw [step, outcomeBehind_of_decides deciding]
      | false =>
        obtain ⟨item, made, titled⟩ := exists_item_of_not_decides deciding
        obtain ⟨warnings, step⟩ := readRows_of_item made titled room number rest
        rw [step, outcomeBehind_of_item made titled, inductionHypothesis,
          length_append_wanted made]

/-- What the loop gives on a page. -/
theorem readRows_start (request : Request) (rows : List Place) :
    (readRows request [] 1 rows).2 = outcome request (processed request rows) :=
  readRows_snd request [] 1 rows

/-! ### The order of the rows -/

/-- The elements that a selector fits: those in the page in document order, and behind them those in
what was taken out of it. -/
def rowsInOrder (selector : Selector) (document : Document) : List Place :=
  document.places.filter (selector.fitsIn none)

/-- The first place was made before the second, or is the same. -/
def MadeBefore (first second : Place) : Prop :=
  first.serial ≤ second.serial

theorem selectIn_perm (selector : Selector) (document : Document) :
    (selector.selectIn document).Perm (rowsInOrder selector document) :=
  List.mergeSort_perm _ _

theorem selectIn_pairwise (selector : Selector) (document : Document) :
    (selector.selectIn document).Pairwise MadeBefore := by
  have sorted : (selector.selectIn document).Pairwise fun left right =>
      decide (left.serial ≤ right.serial) = true :=
    List.pairwise_mergeSort (by simp only [decide_eq_true_eq]; omega)
      (by simp only [Bool.or_eq_true, decide_eq_true_eq]; omega) (rowsInOrder selector document)
  exact sorted.imp fun before => by simpa [MadeBefore] using before

/-- The rows come in document order exactly when their numbers ascend there. -/
theorem selectIn_eq_iff (selector : Selector) (document : Document) :
    selector.selectIn document = rowsInOrder selector document ↔
      (rowsInOrder selector document).Pairwise MadeBefore := by
  constructor
  · intro same
    rw [← same]
    exact selectIn_pairwise selector document
  · intro ascending
    exact List.mergeSort_of_pairwise
      (ascending.imp fun before => by simpa [MadeBefore] using before)

/-! ### What a page comes to -/

theorem readPage_of_compiles {request : Request} {selector : Selector}
    (compiles : selectorOf request.search.rows = .ok selector) (document : Document) :
    readPage request document = readRows request [] 1 (selector.selectIn document) := by
  simp only [readPage, compiles]

/-- A page comes to what those of its rows come to that are gone through, whatever rows stand
behind them. The rows are gone through in the order in which they were made, which is document
order exactly when their numbers ascend in document order; then, and with the same limit, the
page comes to what its rows in document order come to. -/
theorem readPage_decided {request : Request} {selector : Selector}
    (compiles : selectorOf request.search.rows = .ok selector) (document : Document) :
    let rows := selector.selectIn document
    let inOrder := rowsInOrder selector document
    (readPage request document).2 = outcome request (processed request rows) ∧
      (ReachesLimit request (processed request rows) → ∀ later : List Place,
        (readRows request [] 1 (processed request rows ++ later)).2 =
          (readPage request document).2) ∧
      rows.Perm inOrder ∧ rows.Pairwise MadeBefore ∧
      (rows = inOrder ↔ inOrder.Pairwise MadeBefore) ∧
      (inOrder.Pairwise MadeBefore →
        (readPage request document).2 = outcome request (processed request inOrder)) := by
  intro rows inOrder
  have whole : (readPage request document).2 = outcome request (processed request rows) := by
    rw [readPage_of_compiles compiles, readRows_start]
  refine ⟨whole, fun reached later => ?_, selectIn_perm selector document,
    selectIn_pairwise selector document, selectIn_eq_iff selector document, fun ascending => ?_⟩
  · rw [readRows_start, processed_append_of_reaches reached, whole]
  · rw [whole, show rows = inOrder from (selectIn_eq_iff selector document).mpr ascending]

/-! ### A misplaced row -/

/-- Asks for the titles of what stands in elements of the class `r`. -/
def titlesRequest : Request where
  site := "site"
  search := ⟨"/", [], ".r", [("title", .whole)]⟩
  query := .ofMode "search"
  base := Filter.anyBase
  context := ⟨.empty, ⟨0, 0⟩⟩

/-- What the selector of `titlesRequest` reads as. -/
def titlesSelector : Selector := ⟨[.single [.hasClass "r"]]⟩

theorem selectorOf_titlesRequest :
    selectorOf titlesRequest.search.rows = .ok titlesSelector := by cbv

/-- A table with a division in it, which cannot stand there. -/
def misplacedText : String :=
  "<table><tr class=r><td>A</td></tr><div class=r>B</div></table>"

/-- The page of `misplacedText`: the division stands in front of the table, but its number shows
that it was made after the row of the table. -/
def misplacedPage : Document :=
  let row : Markup.Element := ⟨.html, "tr", [⟨"", "class", "r"⟩]⟩
  let division : Markup.Element := ⟨.html, "div", [⟨"", "class", "r"⟩]⟩
  let plain (name : String) : Markup.Element := ⟨.html, name, []⟩
  ⟨[.element 1 (plain "html") [
      .element 2 (plain "head") [],
      .element 3 (plain "body") [
        .element 9 division [.text "B"],
        .element 4 (plain "table") [
          .element 5 (plain "tbody") [
            .element 6 row [.element 7 (plain "td") [.text "A"]]]]]]], []⟩

theorem read_misplacedText : Document.read misplacedText = misplacedPage := rfl

theorem selectIn_misplacedPage :
    titlesSelector.selectIn misplacedPage =
      (rowsInOrder titlesSelector misplacedPage).reverse := by cbv

/-- The titles of what rows come to. -/
def titlesOf (rows : List Place) : Option (List String) :=
  (outcome titlesRequest rows).toOption.map fun items => items.map Item.title

theorem readPage_decided_misplaced :
    selectorOf titlesRequest.search.rows = .ok titlesSelector ∧
      (readPage titlesRequest misplacedPage).2 =
        outcome titlesRequest
          (processed titlesRequest (rowsInOrder titlesSelector misplacedPage).reverse) := by
  refine ⟨selectorOf_titlesRequest, ?_⟩
  rw [← selectIn_misplacedPage]
  exact (readPage_decided selectorOf_titlesRequest misplacedPage).1

/-- Rows are not always gone through in document order: the division stands before the row of
the table and yet comes after it. -/
theorem readPage_ne_outcome_inOrder :
    (readPage titlesRequest (Document.read misplacedText)).2 ≠
      outcome titlesRequest (processed titlesRequest
        (rowsInOrder titlesSelector (Document.read misplacedText))) := by
  rw [read_misplacedText, readPage_of_compiles selectorOf_titlesRequest, readRows_start,
    selectIn_misplacedPage]
  intro same
  have first : titlesOf (processed titlesRequest
      (rowsInOrder titlesSelector misplacedPage).reverse) = some ["A", "B"] := by decide +kernel
  have second : titlesOf (processed titlesRequest
      (rowsInOrder titlesSelector misplacedPage)) = some ["B", "A"] := by decide +kernel
  have equal : titlesOf (processed titlesRequest
      (rowsInOrder titlesSelector misplacedPage).reverse) =
      titlesOf (processed titlesRequest (rowsInOrder titlesSelector misplacedPage)) := by
    rw [titlesOf, titlesOf, same]
  rw [first, second] at equal
  exact absurd equal (by decide)

end Metasearch.Extraction
