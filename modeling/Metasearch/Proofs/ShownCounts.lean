/-
This file settles what a template shows of the limit and the offset of a search. A count that was
not given is a missing field. One that was given reaches the template in a signed number of 64
bits: it is shown in its digits up to the greatest such number, and beyond that as what it lacks to
the next power of two, behind a minus sign.
-/
import Metasearch.Proofs.RequestParameters
import Metasearch.Proofs.TemplateJoins

namespace Metasearch

namespace Number

theorem maxUnsigned_eq : maxUnsigned = 2 * maxSigned + 1 := by decide

/-- An unsigned number in a signed one of as many bits. -/
theorem wrapSigned_natCast {number : Nat} (within : number ≤ maxUnsigned) :
    wrapSigned number =
      if number ≤ maxSigned then (number : Int) else number - (maxUnsigned + 1) := by
  rw [maxUnsigned_eq] at within
  rw [wrapSigned, maxUnsigned_eq]
  generalize maxSigned = greatest at within ⊢
  have small : (number : Int) % ((2 * greatest + 1 + 1 : Nat) : Int) = number :=
    Int.emod_eq_of_lt (by omega) (by omega)
  rw [Int.bmod_def, small]
  split <;> split <;> omega

end Number

namespace Query

open Number (maxSigned maxUnsigned wrapSigned)
open Template (lookup resolve)

/-! ### The counts of a request -/

/-- The numbers of results that a request may ask for. -/
inductive Count
  | limit
  | offset

/-- The parameter that gives a count. -/
def Count.key : Count → String
  | .limit => "limit"
  | .offset => "offset"

/-- The field that templates find a count in. -/
def Count.field : Count → String
  | .limit => "Limit"
  | .offset => "Offset"

/-- A reference to that field. -/
def Count.reference : Count → String
  | .limit => "\x7b\x7b .Query.Limit \x7d\x7d"
  | .offset => "\x7b\x7b .Query.Offset \x7d\x7d"

/-- A count of a request. -/
def Count.of (query : Query) : Count → Option Nat
  | .limit => query.limit
  | .offset => query.offset

theorem IsGivenBy.count {last : String → Option String} {query : Query}
    (given : IsGivenBy last query) (count : Count) :
    Option.Rel IsCount (last count.key) (count.of query) := by
  cases count with
  | limit => exact given.limit
  | offset => exact given.offset

theorem readNodes_reference (count : Count) :
    Template.readNodes count.reference.toList = .ok [.field ["Query", count.field]] := by
  cases count with
  | limit => cbv
  | offset => cbv

theorem find?_fieldOf {Item : Type} (name other : String) (value : Item → Template.Value)
    (item : Option Item) : (fieldOf name value item).find? (fun field => field.1 == other) =
      if name = other then item.map fun item => (name, value item) else none := by
  cases item with
  | none => simp [fieldOf]
  | some item =>
    by_cases same : name = other <;> simp [fieldOf, same]

theorem field_count (query : Query) (count : Count) :
    query.toValue.field? count.field = (count.of query).map countValue := by
  cases count <;>
    simp [toValue, Template.Value.field?, List.find?_append, find?_fieldOf, Count.field, Count.of,
      Option.map_map, Function.comp_def]

theorem lookup_count (name : String) (query : Query) (ids : List Int) (count : Count) :
    lookup name ["Query", count.field] (query.searchContext ids) =
      match count.of query with
      | some number => .ok (countValue number)
      | none => .error (.missingField name ["Query", count.field]) := by
  have root : (query.searchContext ids).field? "Query" = some query.toValue := rfl
  simp only [lookup, List.foldlM_cons, List.foldlM_nil, root, bind, Except.bind, field_count]
  cases count.of query <;> rfl

/-! ### The text of a count -/

/-- The text of a count in a template. -/
def shown (number : Nat) : String :=
  if number ≤ maxSigned then toString number
  else "-" ++ toString (maxUnsigned + 1 - number)

theorem shown_of_le {number : Nat} (fits : number ≤ maxSigned) : shown number = toString number :=
  if_pos fits

theorem toText_countValue {number : Nat} (within : number ≤ maxUnsigned) :
    (countValue number).toText = shown number := by
  rw [countValue, Template.Value.toText, Number.wrapSigned_natCast within, shown]
  split
  case isTrue => rfl
  case isFalse =>
    obtain ⟨size, lacking, wrapped⟩ : ∃ size, maxUnsigned + 1 - number = size + 1 ∧
        (number : Int) - (maxUnsigned + 1) = Int.negSucc size :=
      ⟨maxUnsigned - number, by omega, by omega⟩
    rw [lacking, wrapped]
    rfl

/-- A count is shown in its own digits exactly up to the greatest signed number. -/
theorem shown_eq_toString_iff (number : Nat) :
    shown number = toString number ↔ number ≤ maxSigned := by
  refine ⟨fun same => ?_, shown_of_le⟩
  by_contra beyond
  rw [shown, if_neg beyond] at same
  obtain ⟨c, rest, text, digit⟩ := Number.toString_head number
  have starts := congrArg String.toList same
  rw [text, String.toList_append] at starts
  obtain rfl := (List.cons.inj starts).1
  exact absurd digit (by decide)

/-- A count of an accepted request is a missing field if no parameter gave it. Otherwise it is the
number that the last parameter of its key says, and that number is shown in its digits exactly if
it fits a signed number of 64 bits. -/
theorem resolve_count {params : List (String × String)} {query : Query}
    (read : ofParams params = .ok query) (count : Count) (name : String) (ids : List Int) :
    (lastOf params count.key = none →
      resolve name count.reference (query.searchContext ids) =
        .error (.missingField name ["Query", count.field])) ∧
    ∀ value, lastOf params count.key = some value →
      ∃ number, IsCount value number ∧ count.of query = some number ∧
        resolve name count.reference (query.searchContext ids) = .ok (shown number) ∧
        (resolve name count.reference (query.searchContext ids) = .ok (toString number) ↔
          number ≤ maxSigned) := by
  have given := (isGivenBy_of_ofParams read).count count
  rw [Template.resolve_reference (readNodes_reference count), lookup_count]
  generalize count.of query = asked, lastOf params count.key = last at given
  cases given with
  | none => exact ⟨fun _ => rfl, nofun⟩
  | @some value number isCount =>
    refine ⟨nofun, fun _ same => ?_⟩
    obtain rfl := Option.some.inj same
    refine ⟨number, isCount, rfl, ?_⟩
    dsimp only [Except.map]
    rw [toText_countValue isCount.2, Except.ok.injEq, Except.ok.injEq]
    exact ⟨rfl, shown_eq_toString_iff number⟩

/-- A limit of the usual size, and the least offset that is too wide. -/
def wideParams : List (String × String) :=
  [("limit", "25"), ("offset", "9223372036854775808")]

/-- What such parameters ask for. -/
def wideQuery : Query :=
  { ofMode "search" with limit := some 25, offset := some 9223372036854775808 }

theorem ofParams_wideParams : ofParams wideParams = .ok wideQuery := by
  rfl

/-- The limit is shown as it is, and the offset is not. -/
theorem resolve_count_wideParams :
    ofParams wideParams = .ok wideQuery ∧
      resolve "inputs" Count.limit.reference (wideQuery.searchContext []) = .ok (toString 25) ∧
      resolve "inputs" Count.offset.reference (wideQuery.searchContext []) ≠
        .ok (toString 9223372036854775808) := by
  have limit := (resolve_count ofParams_wideParams .limit "inputs" []).2 "25" rfl
  have offset :=
    (resolve_count ofParams_wideParams .offset "inputs" []).2 "9223372036854775808" rfl
  obtain ⟨number, -, isLimit, -, fits⟩ := limit
  obtain ⟨wide, -, isOffset, -, wideFits⟩ := offset
  obtain rfl := Option.some.inj isLimit
  obtain rfl := Option.some.inj isOffset
  exact ⟨ofParams_wideParams, fits.mpr (by decide), mt wideFits.mp (by decide)⟩

/-- The greatest limit that a request may ask for is shown as another number. -/
theorem resolve_greatestLimit :
    ∃ query, ofParams [("limit", "18446744073709551615")] = .ok query ∧
      query.limit = some 18446744073709551615 ∧
      resolve "inputs" Count.limit.reference (query.searchContext []) = .ok "-1" ∧
      "-1" ≠ toString 18446744073709551615 := by
  have read : ofParams [("limit", "18446744073709551615")] =
      .ok { ofMode "search" with limit := some 18446744073709551615 } := by
    rfl
  refine ⟨_, read, rfl, ?_, by decide⟩
  rw [Template.resolve_reference (readNodes_reference .limit), lookup_count]
  have within : 18446744073709551615 ≤ maxUnsigned := by decide
  exact congrArg Except.ok (toText_countValue within)

end Query

end Metasearch
