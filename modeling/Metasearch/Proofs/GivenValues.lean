/-
Lists that are gone through for what their items give. Some items give a value and others none; the
values are wanted in the order of the items, or only the first of them.
-/
import Mathlib.Data.Option.Basic

namespace Metasearch

variable {Item Value : Type} {gives : Item → Value → Prop} {give? : Item → Option Value}
  {list : List Item} {value : Value}

/-- The value of the first item that gives one. -/
def GivesFirst (gives : Item → Value → Prop) (list : List Item) (value : Value) : Prop :=
  ∃ before item behind, list = before ++ item :: behind ∧ gives item value ∧
    ∀ earlier ∈ before, ∀ other, ¬ gives earlier other

/-- The values that items give, in the order of the items, one for each item that gives one. -/
inductive GivesAll (gives : Item → Value → Prop) : List Item → List Value → Prop
  | nil : GivesAll gives [] []
  | take {item : Item} {value : Value} {list : List Item} {values : List Value}
      (given : gives item value) (later : GivesAll gives list values) :
      GivesAll gives (item :: list) (value :: values)
  | skip {item : Item} {list : List Item} {values : List Value}
      (nothing : ∀ value, ¬ gives item value) (later : GivesAll gives list values) :
      GivesAll gives (item :: list) values

variable (same : ∀ item value, give? item = some value ↔ gives item value)

include same

theorem givesAll_filterMap (list : List Item) : GivesAll gives list (list.filterMap give?) := by
  induction list with
  | nil => exact .nil
  | cons item rest inductionHypothesis =>
    cases given : give? item with
    | none =>
      rw [List.filterMap_cons_none given]
      refine .skip (fun value gave => ?_) inductionHypothesis
      cases given.symm.trans ((same item value).mpr gave)
    | some value =>
      rw [List.filterMap_cons_some given]
      exact .take ((same item value).mp given) inductionHypothesis

theorem none_iff_gives_nothing (item : Item) : give? item = none ↔ ∀ value, ¬ gives item value := by
  simp only [← same]
  exact Option.eq_none_iff_forall_ne_some

theorem findSome?_eq_some_iff_givesFirst : list.findSome? give? = some value ↔
    GivesFirst gives list value := by
  simp only [List.findSome?_eq_some_iff, GivesFirst, same, none_iff_gives_nothing same]

theorem findSome?_eq_none_iff_gives_nothing : list.findSome? give? = none ↔
    ∀ item ∈ list, ∀ value, ¬ gives item value := by
  simp only [List.findSome?_eq_none_iff, none_iff_gives_nothing same]

end Metasearch
