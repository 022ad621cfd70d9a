/-
This file settles what a block selects in a row. Of the elements that it matches, each gives the
text inside it, without the elements that are to be removed and all that is in them; an element
that is matched inside another gives its text once more. What is removed is told for all matched
elements together: an element is left out wherever it comes up, also when it was found to be
removed below another matched element. Only a matched element itself is not left out of its own
text.

Whether an element is removed is remembered by its number. On a page that was read this is the same
as remembering the element in its place, since no two elements have the same number. And leaving
out whole elements is the same as looking up from every single text for a removed element, as far
as the matched one.
-/
import Mathlib
import Metasearch.Extraction
import Metasearch.Proofs.Outcomes
import Metasearch.Proofs.PageTrees

namespace Metasearch

/-! ### Text without what is removed -/

namespace Markup

mutual

/-- The text of a node, but for the elements that are removed and all that is in them. -/
def keptOfNode (isRemoved : Place → Bool) (above : List Level) (inPage : Bool)
    (before after : List Node) : Node → List Char
  | .element serial element children =>
    let level : Level := ⟨serial, element, children, before, after⟩
    if isRemoved ⟨level, above, inPage⟩ then []
    else keptOfNodes isRemoved (level :: above) inPage [] children
  | .fragment children => keptOfNodes isRemoved [] false [] children
  | .text content => content.toList
  | _ => []

/-- The text of siblings, but for what is removed; `before` are the siblings already passed. -/
def keptOfNodes (isRemoved : Place → Bool) (above : List Level) (inPage : Bool)
    (before : List Node) : List Node → List Char
  | [] => []
  | node :: rest =>
    keptOfNode isRemoved above inPage before rest node ++
      keptOfNodes isRemoved above inPage (node :: before) rest

end

/-- The text inside an element, but for the elements in it that are removed. -/
def Place.keptText (isRemoved : Place → Bool) (place : Place) : List Char :=
  keptOfNodes isRemoved (place.level :: place.above) place.inPage [] place.level.children

/-- A text, and the elements around it as far as the one whose texts are listed, which is not among
them; the innermost comes first. -/
structure TextPlace where
  around : List Place
  content : String

mutual

/-- The texts of a node, in document order. -/
def textsOfNode (around : List Place) (above : List Level) (inPage : Bool)
    (before after : List Node) : Node → List TextPlace
  | .element serial element children =>
    let level : Level := ⟨serial, element, children, before, after⟩
    textsOfNodes (⟨level, above, inPage⟩ :: around) (level :: above) inPage [] children
  | .fragment children => textsOfNodes around [] false [] children
  | .text content => [⟨around, content⟩]
  | _ => []

/-- The texts of siblings, in document order. -/
def textsOfNodes (around : List Place) (above : List Level) (inPage : Bool)
    (before : List Node) : List Node → List TextPlace
  | [] => []
  | node :: rest =>
    textsOfNode around above inPage before rest node ++
      textsOfNodes around above inPage (node :: before) rest

end

/-- The texts inside an element, in document order. -/
def Place.texts (place : Place) : List TextPlace :=
  textsOfNodes [] (place.level :: place.above) place.inPage [] place.level.children

/-- No element around the text is removed. -/
def TextPlace.isKept (isRemoved : Place → Bool) (text : TextPlace) : Bool :=
  !text.around.any isRemoved

/-- The texts that are kept, one behind the other. -/
def keptOfTexts (isRemoved : Place → Bool) (texts : List TextPlace) : List Char :=
  (texts.filter (TextPlace.isKept isRemoved)).flatMap fun text => text.content.toList

theorem keptOfTexts_append (isRemoved : Place → Bool) (left right : List TextPlace) :
    keptOfTexts isRemoved (left ++ right) =
      keptOfTexts isRemoved left ++ keptOfTexts isRemoved right := by
  rw [keptOfTexts, List.filter_append, List.flatMap_append]
  rfl

/-! ### Looking up from every text -/

section

variable {isRemoved : Place → Bool}

mutual

/-- Below a removed element no text is kept. -/
theorem keptOfTexts_textsOfNode_of_removed {around : List Place}
    (removed : around.any isRemoved = true) (above : List Level) (inPage : Bool)
    (before after : List Node) :
    ∀ node, keptOfTexts isRemoved (textsOfNode around above inPage before after node) = []
  | .element serial element children => by
    rw [textsOfNode]
    exact keptOfTexts_textsOfNodes_of_removed (by simp [removed]) _ _ _ children
  | .fragment children => by
    rw [textsOfNode]
    exact keptOfTexts_textsOfNodes_of_removed removed _ _ _ children
  | .text content => by
    rw [textsOfNode, keptOfTexts, List.filter_cons_of_neg (by simp [TextPlace.isKept, removed])]
    rfl
  | .comment _ | .doctype => rfl

theorem keptOfTexts_textsOfNodes_of_removed {around : List Place}
    (removed : around.any isRemoved = true) (above : List Level) (inPage : Bool)
    (before : List Node) :
    ∀ nodes, keptOfTexts isRemoved (textsOfNodes around above inPage before nodes) = []
  | [] => rfl
  | node :: rest => by
    rw [textsOfNodes, keptOfTexts_append, keptOfTexts_textsOfNode_of_removed removed,
      keptOfTexts_textsOfNodes_of_removed removed, List.append_nil]

end

mutual

theorem keptOfTexts_textsOfNode {around : List Place} (kept : around.any isRemoved = false)
    (above : List Level) (inPage : Bool) (before after : List Node) :
    ∀ node, keptOfTexts isRemoved (textsOfNode around above inPage before after node) =
      keptOfNode isRemoved above inPage before after node
  | .element serial element children => by
    rw [textsOfNode, keptOfNode]
    split
    case isTrue removed => exact keptOfTexts_textsOfNodes_of_removed (by simp [removed]) _ _ _ _
    case isFalse stays => exact keptOfTexts_textsOfNodes (by simp [stays, kept]) _ _ _ _
  | .fragment children => by
    rw [textsOfNode, keptOfNode]
    exact keptOfTexts_textsOfNodes kept _ _ _ children
  | .text content => by
    rw [textsOfNode, keptOfNode, keptOfTexts,
      List.filter_cons_of_pos (by simp [TextPlace.isKept, kept]), List.filter_nil,
      List.flatMap_singleton]
  | .comment _ | .doctype => rfl

theorem keptOfTexts_textsOfNodes {around : List Place} (kept : around.any isRemoved = false)
    (above : List Level) (inPage : Bool) (before : List Node) :
    ∀ nodes, keptOfTexts isRemoved (textsOfNodes around above inPage before nodes) =
      keptOfNodes isRemoved above inPage before nodes
  | [] => rfl
  | node :: rest => by
    rw [textsOfNodes, keptOfNodes, keptOfTexts_append, keptOfTexts_textsOfNode kept,
      keptOfTexts_textsOfNodes kept]

end

/-- Leaving out elements is leaving out the texts that have one of them around. -/
theorem Place.keptText_eq (place : Place) :
    place.keptText isRemoved = keptOfTexts isRemoved place.texts :=
  (keptOfTexts_textsOfNodes rfl _ _ _ _).symm

end

/-! ### Elements of a page -/

mutual

/-- What is inside an element of a node is among the elements of the node. -/
theorem descendants_subset_placesOfNode {place : Place} (above : List Level) (inPage : Bool)
    (before after : List Node) :
    ∀ node, place ∈ placesOfNode above inPage before after node →
      place.descendants ⊆ placesOfNode above inPage before after node
  | .element serial element children => by
    rw [placesOfNode]
    intro member
    rcases List.mem_cons.mp member with rfl | inside
    · exact List.subset_cons_self _ _
    · exact List.subset_cons_of_subset _ (descendants_subset_placesOfNodes _ _ _ children inside)
  | .fragment children => by
    rw [placesOfNode]
    exact descendants_subset_placesOfNodes _ _ _ children
  | .text _ | .comment _ | .doctype => fun member => absurd member List.not_mem_nil

theorem descendants_subset_placesOfNodes {place : Place} (above : List Level) (inPage : Bool)
    (before : List Node) :
    ∀ nodes, place ∈ placesOfNodes above inPage before nodes →
      place.descendants ⊆ placesOfNodes above inPage before nodes
  | [] => fun member => absurd member List.not_mem_nil
  | node :: rest => by
    rw [placesOfNodes]
    intro member
    rcases List.mem_append.mp member with here | later
    · exact List.subset_append_of_subset_left _
        (descendants_subset_placesOfNode _ _ _ _ node here)
    · exact List.subset_append_of_subset_right _
        (descendants_subset_placesOfNodes _ _ _ rest later)

end

theorem descendants_subset_placesInside {place : Place} {node : Node}
    (inside : place ∈ placesInside node) : place.descendants ⊆ placesInside node := by
  cases node with
  | element | fragment => exact descendants_subset_placesOfNodes _ _ _ _ inside
  | text | comment | doctype => exact absurd inside List.not_mem_nil

theorem Document.descendants_subset {document : Document} {place : Place}
    (isPlace : place ∈ document.places) : place.descendants ⊆ document.places := by
  rcases List.mem_append.mp isPlace with inPage | outside
  · exact List.subset_append_of_subset_left _ (descendants_subset_placesOfNodes _ _ _ _ inPage)
  · obtain ⟨node, detached, inside⟩ := List.mem_flatMap.mp outside
    have among : placesInside node ⊆ document.detached.flatMap placesInside :=
      fun other isOther => List.mem_flatMap.mpr ⟨node, detached, isOther⟩
    exact List.subset_append_of_subset_right _
      (List.Subset.trans (descendants_subset_placesInside inside) among)

/-- On a page that was read, an element is told by its number. -/
theorem Document.eq_of_serial {text : String} {left right : Place}
    (isLeft : left ∈ (Document.read text).places) (isRight : right ∈ (Document.read text).places)
    (same : left.serial = right.serial) : left = right :=
  List.inj_on_of_nodup_map (Document.nodup_serials text) isLeft isRight same

end Markup

/-! ### Values -/

namespace Extraction

open Markup

mutual

/-- Elements may be told by their numbers, as far as those of the node go. -/
theorem textWithout_eq {isRemoved : Place → Bool} {removed : List Nat} (above : List Level)
    (inPage : Bool) (before after : List Node) :
    ∀ node, (∀ place ∈ placesOfNode above inPage before after node,
        isRemoved place = removed.contains place.serial) →
      textWithout removed node = keptOfNode isRemoved above inPage before after node
  | .element serial element children => by
    rw [placesOfNode, textWithout, keptOfNode]
    intro told
    obtain ⟨here, inside⟩ := List.forall_mem_cons.mp told
    simp only [here, Place.serial]
    split
    · rfl
    · exact textOfWithout_eq _ _ _ children inside
  | .fragment children => by
    rw [placesOfNode, textWithout, keptOfNode]
    exact textOfWithout_eq _ _ _ children
  | .text _ | .comment _ | .doctype => fun _ => rfl

theorem textOfWithout_eq {isRemoved : Place → Bool} {removed : List Nat} (above : List Level)
    (inPage : Bool) (before : List Node) :
    ∀ nodes, (∀ place ∈ placesOfNodes above inPage before nodes,
        isRemoved place = removed.contains place.serial) →
      textOfWithout removed nodes = keptOfNodes isRemoved above inPage before nodes
  | [] => fun _ => rfl
  | node :: rest => by
    rw [placesOfNodes, textOfWithout, keptOfNodes]
    intro told
    obtain ⟨here, later⟩ := List.forall_mem_append.mp told
    rw [textWithout_eq _ _ _ _ node here, textOfWithout_eq _ _ _ rest later]

end

/-- The elements that a block matches in a row: the row itself if the block has no selector, else
those inside the row that the selector fits, in document order. -/
def Matched (row : Place) (block : SelectorBlock) (found : List Place) : Prop :=
  if block.selector = "" then found = [row]
  else ∃ selector, selectorOf block.selector = .ok selector ∧
    found = row.descendants.filter (selector.fitsIn (some row.serial))

variable {row : Place} {block : SelectorBlock} {found : List Place}

theorem selection_of_matched (matched : Matched row block found) :
    selection row block = .ok found := by
  unfold Matched at matched
  unfold selection
  split at matched
  case isTrue empty => rw [empty, matched]; rfl
  case isFalse present =>
    obtain ⟨selector, compiles, rfl⟩ := matched
    rw [if_neg (by simpa using present), compiles]
    rfl

theorem mem_places_of_matched {document : Document} (isRow : row ∈ document.places)
    (matched : Matched row block found) : found ⊆ document.places := by
  unfold Matched at matched
  split at matched
  case isTrue => rw [matched]; exact List.cons_subset.mpr ⟨isRow, List.nil_subset _⟩
  case isFalse =>
    obtain ⟨selector, -, rfl⟩ := matched
    exact List.Subset.trans (List.filter_subset_self _) (Document.descendants_subset isRow)

/-- A block with an attribute: what is to be removed does not matter. -/
theorem selectValue_of_attribute {name : String} (matched : Matched row block found)
    (isAttribute : block.attributeName = some name) :
    selectValue row block =
      match found.head?.bind fun place => place.attribute? name with
      | some value => .ok value
      | none => .error (.filter (.missingAttribute name)) := by
  unfold selectValue
  rw [selection_of_matched matched, isAttribute]
  change (match found.head?.bind fun place => place.attribute? name with
    | some value => return value
    | none => throw (Error.filter (.missingAttribute name))) = _
  split <;> rfl

/-- The numbers of the elements that a block removes, below any of those that it matched. -/
def RemovedSerials (block : SelectorBlock) (found : List Place) (removed : List Nat) : Prop :=
  match block.remove with
  | none => removed = []
  | some remove => ∃ selector, selectorOf remove = .ok selector ∧
    removed = found.flatMap fun element => (selector.selectBelow element).map Place.serial

theorem selectValue_of_removedSerials {removed : List Nat} (matched : Matched row block found)
    (noAttribute : block.attributeName = none) (told : RemovedSerials block found removed) :
    selectValue row block = .ok (String.ofList (Text.trim
      (found.flatMap fun place => textOfWithout removed place.level.children))) := by
  unfold RemovedSerials at told
  unfold selectValue
  rw [selection_of_matched matched, noAttribute]
  split at told
  case h_1 keeps =>
    rw [keeps, told]
    rfl
  case h_2 remove removes =>
    obtain ⟨selector, compiles, rfl⟩ := told
    rw [removes]
    change (selectorOf remove >>= _) = _
    rw [compiles]
    rfl

/-- Elements may be told by their numbers, as far as those in the matched elements go. -/
theorem flatMap_textOfWithout {isRemoved : Place → Bool} {removed : List Nat}
    (told : ∀ element ∈ found, ∀ place ∈ element.descendants,
      isRemoved place = removed.contains place.serial) :
    (found.flatMap fun place => textOfWithout removed place.level.children) =
      found.flatMap (Place.keptText isRemoved) :=
  List.flatMap_congr fun element isMatched => textOfWithout_eq _ _ _ _ (told element isMatched)

/-- A block removes an element: it is inside some matched element, and there the selector of what
is to be removed fits it. -/
def IsRemoved (block : SelectorBlock) (found : List Place) (place : Place) : Prop :=
  ∃ remove selector, block.remove = some remove ∧ selectorOf remove = .ok selector ∧
    ∃ element ∈ found, place ∈ element.descendants ∧
      selector.fitsIn (some element.serial) place = true

/-- An element that a block removes is told by its number, and only such an element. -/
theorem contains_removedSerials {text : String} {removed : List Nat}
    (isFound : found ⊆ (Document.read text).places) (told : RemovedSerials block found removed)
    {place : Place} (isPlace : place ∈ (Document.read text).places) :
    removed.contains place.serial = true ↔ IsRemoved block found place := by
  unfold RemovedSerials at told
  unfold IsRemoved
  split at told
  case h_1 keeps => simp [keeps, told]
  case h_2 remove removes =>
    obtain ⟨selector, compiles, rfl⟩ := told
    simp only [removes, Option.some.injEq, List.contains_iff_mem, List.mem_flatMap,
      List.mem_map, Selector.selectBelow, List.mem_filter]
    constructor
    · rintro ⟨element, isMatched, other, ⟨inside, fits⟩, same⟩
      have isOther := Document.descendants_subset (isFound isMatched) inside
      obtain rfl := Document.eq_of_serial isOther isPlace same
      exact ⟨remove, selector, rfl, compiles, element, isMatched, inside, fits⟩
    · rintro ⟨_, other, rfl, compilesTo, element, isMatched, inside, fits⟩
      obtain rfl := Except.ok.inj (compiles.symm.trans compilesTo)
      exact ⟨element, isMatched, place, ⟨inside, fits⟩, rfl⟩

/-- What a block selects in a row of a page. With an attribute, it is the attribute of the first
matched element, whatever is to be removed. Else it is the text of all matched elements, one behind
the other, without the elements that are removed and what is in them: the texts that have none of
these around, as far as the matched element. -/
theorem selectValue_decided {text : String} (isRow : row ∈ (Document.read text).places)
    (matched : Matched row block found) :
    (∀ name remove, block.attributeName = some name →
      selectValue row { block with remove } =
        match found.head?.bind fun place => place.attribute? name with
        | some value => .ok value
        | none => .error (.filter (.missingAttribute name))) ∧
    (block.attributeName = none →
      (∀ remove, block.remove = some remove → ∃ selector, selectorOf remove = .ok selector) →
      ∃ isRemoved : Place → Bool,
        (∀ place ∈ (Document.read text).places,
          isRemoved place = true ↔ IsRemoved block found place) ∧
        selectValue row block =
          .ok (String.ofList (Text.trim (found.flatMap (Place.keptText isRemoved)))) ∧
        (∀ element : Place, element.keptText isRemoved = keptOfTexts isRemoved element.texts) ∧
        ((∀ place, ¬ IsRemoved block found place) →
          selectValue row block = selectValue row { block with remove := none })) := by
  refine ⟨fun _ _ isAttribute => selectValue_of_attribute matched isAttribute, ?_⟩
  intro noAttribute compiles
  have isFound := mem_places_of_matched isRow matched
  obtain ⟨removed, told⟩ : ∃ removed, RemovedSerials block found removed := by
    unfold RemovedSerials
    split
    case h_1 => exact ⟨_, rfl⟩
    case h_2 remove removes =>
      obtain ⟨selector, compiles⟩ := compiles remove removes
      exact ⟨_, selector, compiles, rfl⟩
  have selects := selectValue_of_removedSerials matched noAttribute told
  refine ⟨fun place => removed.contains place.serial,
    fun place isPlace => contains_removedSerials isFound told isPlace, ?_,
    Place.keptText_eq, ?_⟩
  · rw [selects, flatMap_textOfWithout]
    exact fun _ _ _ _ => rfl
  · intro nothing
    have isKept : ∀ element ∈ found, ∀ place ∈ element.descendants,
        false = removed.contains place.serial := by
      intro element isMatched place inside
      have isPlace := Document.descendants_subset (isFound isMatched) inside
      have kept := mt (contains_removedSerials isFound told isPlace).mp (nothing place)
      exact (Bool.eq_false_iff.mpr kept).symm
    have keepsAll : selectValue row { block with remove := none } = _ :=
      selectValue_of_removedSerials matched noAttribute rfl
    have isWhole : ∀ element ∈ found, ∀ place ∈ element.descendants,
        false = ([] : List Nat).contains place.serial := fun _ _ _ _ => rfl
    rw [selects, keepsAll, flatMap_textOfWithout isKept, flatMap_textOfWithout isWhole]

/-- A page with a division in another. -/
def nestedPage : Document :=
  let bold : Markup.Node := .element 8 ⟨.html, "b", []⟩ [.text "3"]
  let inner : Markup.Node := .element 6 ⟨.html, "div", []⟩ [.text "2", bold]
  ⟨[.element 1 ⟨.html, "html", []⟩ [
      .element 2 ⟨.html, "head", []⟩ [],
      .element 3 ⟨.html, "body", []⟩ [.element 4 ⟨.html, "div", []⟩ [.text "1", inner]]]], []⟩

theorem read_nestedPage :
    Document.read "<div>1<div>2<b>3</b></div></div>" = nestedPage := rfl

/-- The whole of `nestedPage`, in the place of a row. -/
def nestedRow : Place := nestedPage.places.head (by decide)

/-- Selects both divisions, of which it removes the inner one from the text of the outer one. -/
def nestedBlock : SelectorBlock := ⟨"div", none, some "div > div, b", []⟩

/-- What the selector of `nestedBlock` reads as. -/
def nestedSelector : Selector := ⟨[.single [.name "div"]]⟩

/-- What the selector of what `nestedBlock` removes reads as. -/
def removedSelector : Selector :=
  ⟨[.linked [.name "div"] .child (.single [.name "div"]), .single [.name "b"]]⟩

/-- The two divisions of `nestedPage`. -/
def nestedFound : List Place :=
  nestedRow.descendants.filter (nestedSelector.fitsIn (some nestedRow.serial))

/-- The inner division is no part of the text of the outer one, but has its own text. -/
theorem selectValue_nestedRow : selectValue nestedRow nestedBlock = .ok "12" := by cbv

theorem selectValue_decided_nestedRow :
    nestedRow ∈ nestedPage.places ∧ Matched nestedRow nestedBlock nestedFound ∧
      selectorOf "div > div, b" = .ok removedSelector ∧
      ∃ isRemoved : Place → Bool,
        (∀ place ∈ nestedPage.places,
          isRemoved place = true ↔ IsRemoved nestedBlock nestedFound place) ∧
        "12" = String.ofList (Text.trim (nestedFound.flatMap (Place.keptText isRemoved))) := by
  have isRow : nestedRow ∈ nestedPage.places := List.head_mem _
  have matched : Matched nestedRow nestedBlock nestedFound :=
    ⟨nestedSelector, by cbv, rfl⟩
  have compiles : selectorOf "div > div, b" = .ok removedSelector := by cbv
  rw [← read_nestedPage] at isRow ⊢
  obtain ⟨isRemoved, told, selects, -⟩ := (selectValue_decided isRow matched).2 rfl
    fun remove removes => ⟨removedSelector, by rw [← Option.some.inj removes]; exact compiles⟩
  rw [selectValue_nestedRow] at selects
  exact ⟨isRow, matched, compiles, isRemoved, told, Except.ok.inj selects⟩

end Extraction

end Metasearch
