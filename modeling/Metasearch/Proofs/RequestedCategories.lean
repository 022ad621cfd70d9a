/-
This file settles what becomes of the rows of a category that was asked for. A search asks the
site for every local number that some entry of the table gives a wanted category. A local number
is read back by its first entry alone, so a row of that number is kept exactly when the category
of the first entry is wanted: with an entry for another category in front, the row is left out
although the site was asked for it.
-/
import Metasearch.Proofs.IntegerTexts
import Metasearch.Proofs.ResultRows
import Metasearch.Proofs.RowValues

namespace Metasearch

/-! ### Looking numbers up -/

namespace CategoryTable

theorem mem_addNew {seen : List Int} {item other : Int} :
    other ∈ addNew seen item ↔ other ∈ seen ∨ other = item := by
  unfold addNew
  split
  case isTrue known =>
    have known : item ∈ seen := List.contains_iff_mem.mp known
    exact ⟨.inl, fun member => member.elim id fun same => same ▸ known⟩
  case isFalse => rw [List.mem_append, List.mem_singleton]

theorem mem_foldl_addNew {entries : List CategoryEntry} {seen : List Int} {locally : Int} :
    locally ∈ entries.foldl (fun seen entry => addNew seen entry.locally) seen ↔
      locally ∈ seen ∨ ∃ entry ∈ entries, entry.locally = locally := by
  induction entries generalizing seen with
  | nil => simp
  | cons entry rest inductionHypothesis =>
    rw [List.foldl_cons, inductionHypothesis, mem_addNew, or_assoc]
    simp [eq_comm]

/-- A local number is asked for exactly if some entry gives it a wanted category. -/
theorem mem_localIds {table : CategoryTable} {canonical : List Int} {locally : Int} :
    locally ∈ table.localIds canonical ↔
      ∃ entry ∈ table.entries, entry.locally = locally ∧ entry.category.id ∈ canonical := by
  have behind : ∀ seen : List Int,
      locally ∈ canonical.foldl (fun seen id =>
        (table.entries.filter fun entry => entry.category.id == id).foldl
          (fun seen entry => addNew seen entry.locally) seen) seen ↔
        locally ∈ seen ∨
          ∃ entry ∈ table.entries, entry.locally = locally ∧ entry.category.id ∈ canonical := by
    induction canonical with
    | nil => simp
    | cons id rest inductionHypothesis =>
      intro seen
      rw [List.foldl_cons, inductionHypothesis, mem_foldl_addNew, or_assoc]
      simp only [List.mem_filter, beq_iff_eq, List.mem_cons]
      grind
  rw [localIds, behind]
  simp

/-- An entry is the first one of a local number. -/
def Leads (table : CategoryTable) (locally : Int) (entry : CategoryEntry) : Prop :=
  entry.locally = locally ∧
    ∃ earlier later, table.entries = earlier ++ entry :: later ∧
      ∀ other ∈ earlier, other.locally ≠ locally

theorem Leads.mem {table : CategoryTable} {locally : Int} {entry : CategoryEntry}
    (leads : table.Leads locally entry) : entry ∈ table.entries := by
  obtain ⟨-, earlier, later, entries, -⟩ := leads
  rw [entries]
  exact List.mem_append_right _ List.mem_cons_self

/-- A local number is read back by its first entry. -/
theorem resolve_of_leads {table : CategoryTable} {locally : Int} {entry : CategoryEntry}
    (leads : table.Leads locally entry) : table.resolve locally = some entry.category := by
  obtain ⟨here, earlier, later, entries, others⟩ := leads
  have found : (table.entries.find? fun entry => entry.locally == locally) = some entry :=
    List.find?_eq_some_iff_append.mpr
      ⟨by simp [here], earlier, later, entries, by simpa using others⟩
  rw [resolve, found]
  rfl

/-- A local number of some entry has a first one. -/
theorem exists_leads {table : CategoryTable} {entry : CategoryEntry}
    (member : entry ∈ table.entries) : ∃ first, table.Leads entry.locally first := by
  have some : (table.entries.find? fun other => other.locally == entry.locally).isSome :=
    List.find?_isSome.mpr ⟨entry, member, beq_self_eq_true _⟩
  obtain ⟨first, found⟩ := Option.isSome_iff_exists.mp some
  obtain ⟨here, earlier, later, entries, others⟩ := List.find?_eq_some_iff_append.mp found
  exact ⟨first, by simpa using here, earlier, later, entries, by simpa using others⟩

end CategoryTable

namespace Extraction

open Definition (resultFields)
open Markup (Document Place)

/-! ### The category of a row -/

/-- The category of a row is a local number, put through the table in the end. -/
def MapsCategory (request : Request) (row : Place) (locally : Int) : Prop :=
  ∃ (block : SelectorBlock) (before : List Filter) (text : String),
    ("category", { block with filters := before ++ [.mapCats] }) ∈ request.search.fields ∧
      blockValue request.context row { block with filters := before } = .ok text ∧
      Number.readSigned text.toList = .ok locally

/-- The category of such a row reads as that of the first entry of the number. -/
theorem blockValue_of_leads {context : Filter.Context} {row : Place} {block : SelectorBlock}
    {before : List Filter} {text : String} {locally : Int} {entry : CategoryEntry}
    (leads : context.categories.Leads locally entry)
    (selected : blockValue context row { block with filters := before } = .ok text)
    (read : Number.readSigned text.toList = .ok locally) :
    blockValue context row { block with filters := before ++ [.mapCats] } =
      .ok (toString entry.category.id) := by
  have mapped : Filter.mapCategory context.categories text = .ok (toString entry.category.id) := by
    unfold Filter.mapCategory
    rw [read]
    simp only [Except.mapError, bind, Except.bind, CategoryTable.resolve_of_leads leads]
    rfl
  rw [blockValue_append, selected]
  show (Filter.applyAll context [.mapCats] text).mapError Error.filter = _
  simp only [Filter.applyAll, List.foldlM_cons, List.foldlM_nil, Filter.apply, mapped]
  rfl

section

variable {request : Request} {row : Place} {locally : Int} {entry : CategoryEntry}

/-- A row has an item as soon as its values other than the category are there. -/
theorem exists_itemOf (leads : request.context.categories.Leads locally entry)
    (named : (request.search.fields.map Prod.fst).Nodup)
    (mapped : MapsCategory request row locally)
    (others : ∀ field ∈ request.search.fields, field.1 ∈ resultFields ∧
      (field.1 ≠ "category" → ∃ value, blockValue request.context row field.2 = .ok value)) :
    ∃ item, itemOf request row = .ok item := by
  obtain ⟨block, before, text, field, selected, read⟩ := mapped
  have each : ∀ other ∈ request.search.fields, ∃ value,
      ((blockValue request.context row other.2).map fun value => (other.1, value)) =
        .ok value := by
    intro other member
    by_cases category : other.1 = "category"
    · have same : other = ("category", { block with filters := before ++ [.mapCats] }) :=
        List.inj_on_of_nodup_map named member field category
      subst same
      rw [blockValue_of_leads leads selected read]
      exact ⟨_, rfl⟩
    · obtain ⟨value, found⟩ := (others other member).2 category
      rw [found]
      exact ⟨_, rfl⟩
  obtain ⟨values, found⟩ := exists_mapM_eq_ok each
  have names := rowValues_names found
  have allowed : ∀ value ∈ values, value.1 ∈ resultFields := by
    intro value member
    have name : value.1 ∈ request.search.fields.map Prod.fst :=
      names ▸ List.mem_map_of_mem member
    obtain ⟨field, member, same⟩ := List.mem_map.mp name
    exact same ▸ (others field member).1
  obtain ⟨⟨item, warnings⟩, made⟩ :=
    putValues_ok request.base 1 (Item.ofSite request.site) allowed
  refine ⟨item, ?_⟩
  have whole : rowItem request 1 row = .ok (item, warnings) := by
    unfold rowItem buildItem
    rw [show rowValues request.context request.search.fields row = .ok values from found]
    show (putValues request.base 1 (Item.ofSite request.site) values).mapError _ = _
    rw [made]
    rfl
  exact itemOf_of_rowItem_ok whole

/-- The item of the row has the category of the first entry. -/
theorem category_of_leads (leads : request.context.categories.Leads locally entry)
    (sized : Number.isWithin Number.maxSigned entry.category.id = true)
    (named : (request.search.fields.map Prod.fst).Nodup)
    (mapped : MapsCategory request row locally) {item : Item}
    (made : itemOf request row = .ok item) : item.category = entry.category.id := by
  obtain ⟨block, before, text, field, selected, read⟩ := mapped
  obtain ⟨⟨item, warnings⟩, whole, rfl⟩ := map_eq_ok.mp made
  obtain ⟨values, found, put⟩ := except_of_bind whole
  obtain ⟨value, here, member⟩ := mem_rowValues found field
  rw [blockValue_of_leads leads selected read] at here
  obtain rfl := Except.ok.inj here
  exact putValues_category (rowValues_names found ▸ named) member
    (Number.readSigned_toString sized) (mapError_eq_ok.mp put)

end

/-! ### The row on a page -/

/-- What becomes of a row whose category is a local number that the site was asked for. The
number has a first entry; the row has an item as soon as its other values are there and the names
of all are known, and the category of that item is the one of the first entry. So the row is kept
exactly if that category was asked for, wherever on a page the row is come to; and it is, if no
entry gives the number a category that was not asked for. -/
theorem readRows_requested {request : Request} {row : Place} {locally : Int}
    (named : (request.search.fields.map Prod.fst).Nodup)
    (sized : ∀ entry ∈ request.context.categories.entries,
      Number.isWithin Number.maxSigned entry.category.id = true)
    (asked : locally ∈ request.context.categories.localIds request.query.categories)
    (mapped : MapsCategory request row locally) :
    ∃ entry, request.context.categories.Leads locally entry ∧
      ((∀ field ∈ request.search.fields, field.1 ∈ resultFields ∧
          (field.1 ≠ "category" → ∃ value, blockValue request.context row field.2 = .ok value)) →
        ∃ item, itemOf request row = .ok item) ∧
      (∀ item, itemOf request row = .ok item →
        item.category = entry.category.id ∧
          (item.title.isEmpty = false → ∀ found number rows,
            isFull request.query found.length = false →
            (readRows request found number (row :: rows)).2 =
              (readRows request
                (found ++ if entry.category.id ∈ request.query.categories then [item] else [])
                (number + 1) rows).2)) ∧
      ((∀ other ∈ request.context.categories.entries, other.locally = locally →
          other.category.id ∈ request.query.categories) →
        entry.category.id ∈ request.query.categories) := by
  obtain ⟨other, otherMember, rfl, wanted⟩ := CategoryTable.mem_localIds.mp asked
  obtain ⟨entry, leads⟩ := CategoryTable.exists_leads otherMember
  have member : entry ∈ request.context.categories.entries := leads.mem
  refine ⟨entry, leads, exists_itemOf leads named mapped, fun item made => ?_,
    fun every => every entry member leads.1⟩
  have category := category_of_leads leads (sized entry member) named mapped made
  refine ⟨category, fun titled found number rows room => ?_⟩
  have some : request.query.categories.isEmpty = false :=
    List.isEmpty_eq_false_iff_exists_mem.mpr ⟨_, wanted⟩
  have decided : isWanted request.query item =
      decide (entry.category.id ∈ request.query.categories) := by
    rw [isWanted, some, category, Bool.false_or, List.contains_eq_mem]
  obtain ⟨warnings, step⟩ := readRows_of_item made titled room number rows
  rw [step, decided]
  by_cases kept : entry.category.id ∈ request.query.categories <;> simp [kept]

/-! ### A number of two categories -/

/-- A table that gives one local number two categories. -/
def sharedTable : CategoryTable := .ofPairs [(5030, 7), (5040, 7)]

/-- Asks for the second category of `sharedTable`, in list items that hold a local number. -/
def sharedRequest : Request where
  site := "site"
  search := ⟨"/", [], "li", [("category", ⟨"", none, none, [.mapCats]⟩), ("title", .whole)]⟩
  query := { Query.ofMode "search" with categories := [5040] }
  base := Filter.anyBase
  context := ⟨sharedTable, ⟨0, 0⟩⟩

/-- A page with one list item, which holds a local number. -/
def sharedPage : Document :=
  ⟨[.element 1 ⟨.html, "html", []⟩ [
      .element 2 ⟨.html, "head", []⟩ [],
      .element 3 ⟨.html, "body", []⟩ [.element 4 ⟨.html, "li", []⟩ [.text "7"]]]], []⟩

theorem read_sharedPage : Document.read "<li>7</li>" = sharedPage := rfl

/-- The list item of `sharedPage`. -/
def sharedRow : Place :=
  let item : Markup.Node := .element 4 ⟨.html, "li", []⟩ [.text "7"]
  let head : Markup.Node := .element 2 ⟨.html, "head", []⟩ []
  let body : Markup.Node := .element 3 ⟨.html, "body", []⟩ [item]
  ⟨⟨4, ⟨.html, "li", []⟩, [.text "7"], [], []⟩,
    [⟨3, ⟨.html, "body", []⟩, [item], [head], []⟩,
      ⟨1, ⟨.html, "html", []⟩, [head, body], [], []⟩], true⟩

theorem mapsCategory_sharedRow : MapsCategory sharedRequest sharedRow 7 :=
  ⟨.whole, [], "7", List.mem_cons_self, rfl, by decide⟩

theorem readRows_requested_sharedRow :
    7 ∈ sharedTable.localIds [5040] ∧ MapsCategory sharedRequest sharedRow 7 ∧
      ∃ entry, sharedTable.Leads 7 entry ∧
        ∀ item, itemOf sharedRequest sharedRow = .ok item →
          item.category = entry.category.id := by
  have asked : 7 ∈ sharedTable.localIds [5040] := by decide
  have named : (sharedRequest.search.fields.map Prod.fst).Nodup := by decide
  have sized : ∀ entry ∈ sharedTable.entries,
      Number.isWithin Number.maxSigned entry.category.id = true := by decide
  obtain ⟨entry, leads, -, category, -⟩ :=
    readRows_requested named sized asked mapsCategory_sharedRow
  exact ⟨asked, mapsCategory_sharedRow, entry, leads, fun item made => (category item made).1⟩

theorem selectIn_sharedPage :
    Selector.selectIn ⟨[.single [.name "li"]]⟩ sharedPage = [sharedRow] := by cbv

/-- The site is asked for a number, and yet the only row of that number is left out. -/
theorem readPage_requested_empty :
    7 ∈ sharedTable.localIds sharedRequest.query.categories ∧
      MapsCategory sharedRequest sharedRow 7 ∧
      (itemOf sharedRequest sharedRow).map (fun item => (item.title, item.category)) =
        .ok ("7", 5030) ∧
      (readPage sharedRequest (Document.read "<li>7</li>")).2 = .ok [] := by
  have compiles : selectorOf sharedRequest.search.rows = .ok ⟨[.single [.name "li"]]⟩ := rfl
  refine ⟨by decide, mapsCategory_sharedRow, by rfl, ?_⟩
  rw [read_sharedPage, readPage_of_compiles compiles, selectIn_sharedPage]
  rfl

end Extraction

end Metasearch
