/-
This file settles the two lists that a table of categories gives: the local numbers to ask the site
for, and the categories that the site has. Both are made by going through numbers one after the
other and keeping each that was not kept before. Such a listing has the numbers that were met, in
the order in which they were first met, and nothing else can be said of it: two listings of the
same numbers are equal.

What is gone through for local numbers is the table, once for each canonical number. A canonical
number without entries adds nothing to that, and one that comes again adds only numbers that were
met before.
-/
import Metasearch.Proofs.RequestedCategories

namespace Metasearch.CategoryTable

/-! ### Listings -/

/-- A list has the numbers that were met, in the order in which they were first met. -/
structure IsListing (met list : List Int) : Prop where
  mem_iff : ∀ item, item ∈ list ↔ item ∈ met
  ascends : list.Pairwise fun left right => met.idxOf left < met.idxOf right

theorem isListing_nil : IsListing [] [] :=
  ⟨fun _ => Iff.rfl, .nil⟩

theorem IsListing.nodup {met list : List Int} (listing : IsListing met list) : list.Nodup :=
  List.Pairwise.imp (fun earlier same => by simp [same] at earlier) listing.ascends

/-- A number that is met is put behind the others, unless it was met before. -/
theorem IsListing.addNew {met list : List Int} (listing : IsListing met list) (item : Int) :
    IsListing (met ++ [item]) (addNew list item) := by
  have kept : list.Pairwise fun left right =>
      (met ++ [item]).idxOf left < (met ++ [item]).idxOf right :=
    listing.ascends.imp_of_mem fun left right earlier => by
      rwa [List.idxOf_append_of_mem ((listing.mem_iff _).mp left),
        List.idxOf_append_of_mem ((listing.mem_iff _).mp right)]
  refine ⟨fun other => ?members, ?ascending⟩
  case members => rw [mem_addNew, List.mem_append, List.mem_singleton, listing.mem_iff]
  case ascending =>
    unfold CategoryTable.addNew
    split
    case isTrue known => exact kept
    case isFalse new =>
      have notMet : item ∉ met := fun isMet =>
        new (List.contains_iff_mem.mpr ((listing.mem_iff item).mpr isMet))
      refine List.pairwise_append.mpr ⟨kept, List.pairwise_singleton _ _, ?_⟩
      intro left member other last
      have isMet := (listing.mem_iff left).mp member
      rw [List.mem_singleton.mp last, List.idxOf_append_of_mem isMet,
        List.idxOf_append_of_notMem notMet]
      exact Nat.lt_add_right _ (List.idxOf_lt_length_of_mem isMet)

/-- So it is with all numbers that are met after others. -/
theorem IsListing.foldl {met list : List Int} (listing : IsListing met list) (items : List Int) :
    IsListing (met ++ items) (items.foldl CategoryTable.addNew list) := by
  induction items generalizing met list with
  | nil => rwa [List.append_nil]
  | cons item rest inductionHypothesis =>
    rw [List.foldl_cons, List.append_cons]
    exact inductionHypothesis (listing.addNew item)

/-- Numbers that were all met before add nothing. -/
theorem foldl_addNew_of_subset {list items : List Int} (known : items ⊆ list) :
    items.foldl addNew list = list := by
  induction items with
  | nil => rfl
  | cons item rest inductionHypothesis =>
    obtain ⟨here, later⟩ := List.cons_subset.mp known
    rw [List.foldl_cons, addNew, if_pos (List.contains_iff_mem.mpr here)]
    exact inductionHypothesis later

/-! ### Local numbers -/

/-- The local numbers of the entries for a canonical one. -/
def localsOf (table : CategoryTable) (id : Int) : List Int :=
  (table.entries.filter fun entry => entry.category.id == id).map CategoryEntry.locally

/-- The local numbers met when the table is gone through for one canonical number after the
other. -/
def visited (table : CategoryTable) (canonical : List Int) : List Int :=
  canonical.flatMap table.localsOf

variable {table : CategoryTable}

theorem localIds_eq (canonical : List Int) :
    table.localIds canonical = (table.visited canonical).foldl addNew [] := by
  simp only [localIds, visited, localsOf, List.foldl_flatMap, List.foldl_map]

theorem isListing_localIds (canonical : List Int) :
    IsListing (table.visited canonical) (table.localIds canonical) := by
  rw [localIds_eq]
  exact isListing_nil.foldl _

/-- A canonical number that comes again, or that has no entries, changes nothing. -/
theorem localIds_append_cons {left : List Int} {id : Int}
    (idle : id ∈ left ∨ ∀ entry ∈ table.entries, entry.category.id ≠ id) (right : List Int) :
    table.localIds (left ++ id :: right) = table.localIds (left ++ right) := by
  have known : table.localsOf id ⊆ table.localIds left := by
    intro locally met
    rw [(isListing_localIds left).mem_iff]
    rcases idle with before | none
    · exact List.mem_flatMap.mpr ⟨id, before, met⟩
    · obtain ⟨entry, member, -⟩ := List.mem_map.mp met
      obtain ⟨isEntry, same⟩ := List.mem_filter.mp member
      exact absurd (beq_iff_eq.mp same) (none entry isEntry)
  rw [localIds_eq] at known
  rw [localIds_eq, localIds_eq, visited, visited, List.flatMap_append, List.flatMap_append,
    List.flatMap_cons, List.foldl_append, List.foldl_append, List.foldl_append]
  exact congrArg (fun seen => List.foldl addNew seen _) (foldl_addNew_of_subset known)

/-! ### Categories -/

/-- The list with a category put behind it, unless it has one of that number. -/
def addCategory (seen : List Category) (new : Category) : List Category :=
  if seen.any fun category => category.id == new.id then seen else seen ++ [new]

theorem categories_eq :
    table.categories = (table.entries.map CategoryEntry.category).foldl addCategory [] := by
  rw [List.foldl_map]
  rfl

theorem map_id_addCategory (seen : List Category) (new : Category) :
    (addCategory seen new).map Category.id = addNew (seen.map Category.id) new.id := by
  have known : (seen.any fun category => category.id == new.id) =
      (seen.map Category.id).contains new.id := by
    rw [List.contains_eq_any_beq, List.any_map]
    exact congrArg (List.any seen) (funext fun category => Bool.beq_comm)
  rw [addCategory, addNew, known]
  split
  · rfl
  · rw [List.map_append, List.map_singleton]

theorem map_id_foldl_addCategory (seen items : List Category) :
    (items.foldl addCategory seen).map Category.id =
      (items.map Category.id).foldl addNew (seen.map Category.id) := by
  induction items generalizing seen with
  | nil => rfl
  | cons item rest inductionHypothesis =>
    rw [List.foldl_cons, inductionHypothesis, map_id_addCategory]
    rfl

/-- The categories are listed by their numbers. -/
theorem isListing_categories :
    IsListing (table.entries.map fun entry => entry.category.id)
      (table.categories.map Category.id) := by
  rw [categories_eq, map_id_foldl_addCategory, List.map_map]
  exact isListing_nil.foldl _

/-- Of the categories with one number the first is listed. -/
theorem find?_foldl_addCategory (seen items : List Category) (id : Int) :
    (items.foldl addCategory seen).find? (fun category => category.id == id) =
      (seen ++ items).find? fun category => category.id == id := by
  induction items generalizing seen with
  | nil => rw [List.append_nil, List.foldl_nil]
  | cons item rest inductionHypothesis =>
    rw [List.foldl_cons, inductionHypothesis, addCategory]
    split
    case isTrue known =>
      obtain ⟨other, member, same⟩ := List.any_eq_true.mp known
      rw [List.find?_append, List.find?_append, List.find?_cons]
      split
      case h_1 wanted =>
        -- an earlier category has the number of this one
        have found : (seen.find? fun category => category.id == id).isSome :=
          List.find?_isSome.mpr ⟨other, member, by rwa [beq_iff_eq.mp same]⟩
        obtain ⟨first, isFirst⟩ := Option.isSome_iff_exists.mp found
        rw [isFirst]
        rfl
      case h_2 => rfl
    case isFalse => rw [List.append_assoc, List.singleton_append]

/-! ### The two lists -/

/-- What a table lists: for canonical numbers the local ones, and its own categories. -/
theorem localIds_listed (table : CategoryTable) (canonical : List Int) :
    IsListing (table.visited canonical) (table.localIds canonical) ∧
      (table.localIds canonical).Nodup ∧
      (∀ locally, locally ∈ table.localIds canonical ↔
        ∃ entry ∈ table.entries, entry.locally = locally ∧ entry.category.id ∈ canonical) ∧
      (∀ left id right, canonical = left ++ id :: right →
        (id ∈ left ∨ ∀ entry ∈ table.entries, entry.category.id ≠ id) →
        table.localIds canonical = table.localIds (left ++ right)) ∧
      IsListing (table.entries.map fun entry => entry.category.id)
        (table.categories.map Category.id) ∧
      (table.categories.map Category.id).Nodup ∧
      (∀ id, (table.categories.find? fun category => category.id == id) =
        (table.entries.map CategoryEntry.category).find? fun category => category.id == id) ∧
      (table.localIds (table.categories.map Category.id)).Nodup ∧
      ∀ locally, locally ∈ table.localIds (table.categories.map Category.id) ↔
        ∃ entry ∈ table.entries, entry.locally = locally := by
  refine ⟨isListing_localIds canonical, (isListing_localIds canonical).nodup,
    fun locally => mem_localIds, ?idle, isListing_categories, isListing_categories.nodup, ?first,
    (isListing_localIds _).nodup, fun locally => ?all⟩
  case idle =>
    rintro left id right rfl idle
    exact localIds_append_cons idle right
  case first =>
    intro id
    rw [categories_eq]
    exact find?_foldl_addCategory [] _ id
  case all =>
    rw [mem_localIds]
    refine exists_congr fun entry => and_congr_right fun member => and_iff_left ?_
    exact (isListing_categories.mem_iff _).mpr (List.mem_map_of_mem member)

end Metasearch.CategoryTable
