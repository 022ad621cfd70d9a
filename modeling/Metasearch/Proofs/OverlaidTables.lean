/-
Tables laid over one another. A value that is set behind keys stays set when other values are laid
over it that do not lie on its way, and when all of it is laid over another tree; and nothing else
is changed by it.
-/
import Metasearch.Proofs.ReadTables
import Metasearch.Settings.Environment

namespace Metasearch.Settings

open Json (valuesOf otherFields)

/-! ### Laying tables over one another -/

/-- A value with the one that another table has for it laid over, if there is one. -/
def overlaid (above : Option Json) (json : Json) : Json :=
  match above with
  | some other => overlay json other
  | none => json

theorem overlayFields_eq_map (fields others : List (String × Json)) :
    overlayFields fields others =
      fields.map fun field => (field.1, overlaid (others.lookup field.1) field.2) := by
  induction fields with
  | nil => rfl
  | cons field rest inductionHypothesis =>
    rw [overlayFields, inductionHypothesis]
    rfl

/-- The fields of a table with those of another laid over them. -/
def laidOver (fields others : List (String × Json)) : List (String × Json) :=
  overlayFields fields others ++ others.filter fun field => !(fields.map (·.1)).contains field.1

/-- The fields of a table; nothing else has fields. -/
def fieldsIn : Json → List (String × Json)
  | .object fields => fields
  | _ => []

theorem overlay_not_table {json other : Json} (noTable : ∀ fields, other ≠ .object fields) :
    overlay json other = other := by
  cases other with
  | object fields => exact absurd rfl (noTable fields)
  | _ => cases json <;> rfl

theorem valuesOf_eq_nil {Value : Type} {name : String} {fields : List (String × Value)} :
    valuesOf name fields = [] ↔ name ∉ fields.map Prod.fst := by
  simp only [List.eq_nil_iff_forall_not_mem, Json.mem_valuesOf, List.mem_map, not_exists, not_and]
  exact ⟨fun absent field member same => absent field.2 (same ▸ member),
    fun absent value member => absent _ member rfl⟩

theorem valuesOf_map (name : String) (fields : List (String × Json))
    (change : String → Json → Json) :
    valuesOf name (fields.map fun field => (field.1, change field.1 field.2)) =
      (valuesOf name fields).map (change name) := by
  induction fields with
  | nil => rfl
  | cons field rest inductionHypothesis =>
    rw [List.map_cons, Json.valuesOf_cons, Json.valuesOf_cons, inductionHypothesis]
    by_cases same : field.1 = name <;> simp [same]

theorem otherFields_map (name : String) (fields : List (String × Json))
    (change : String → Json → Json) :
    otherFields name (fields.map fun field => (field.1, change field.1 field.2)) =
      (otherFields name fields).map fun field => (field.1, change field.1 field.2) := by
  unfold otherFields
  rw [List.filter_map]
  rfl

/-- What a name has in tables laid over one another. -/
theorem valuesOf_laidOver (name : String) (fields others : List (String × Json)) :
    valuesOf name (laidOver fields others) =
      if valuesOf name fields = [] then valuesOf name others
      else (valuesOf name fields).map (overlaid (valuesOf name others).head?) := by
  have added : valuesOf name (others.filter fun field => !(fields.map (·.1)).contains field.1) =
      if valuesOf name fields = [] then valuesOf name others else [] := by
    by_cases absent : valuesOf name fields = []
    · have unnamed := valuesOf_eq_nil.mp absent
      rw [if_pos absent]
      unfold valuesOf
      rw [List.filter_filter]
      refine congrArg _ (List.filter_congr fun field _ => ?_)
      by_cases same : field.1 = name
      · simpa [same] using unnamed
      · simp [same]
    · have named : name ∈ fields.map Prod.fst := not_not.mp (mt valuesOf_eq_nil.mpr absent)
      rw [if_neg absent, valuesOf_eq_nil, List.mem_map]
      rintro ⟨field, member, rfl⟩
      obtain ⟨-, unnamed⟩ := List.mem_filter.mp member
      simp [named] at unnamed
  rw [laidOver, overlayFields_eq_map, Json.valuesOf_append, added,
    valuesOf_map name fields fun name json => overlaid (others.lookup name) json,
    Json.lookup_eq_head?]
  by_cases absent : valuesOf name fields = [] <;> simp [absent]

/-- The other names depend on what the other names have alone. -/
theorem otherFields_laidOver (name : String) (fields others : List (String × Json)) :
    otherFields name (laidOver fields others) =
      laidOver (otherFields name fields) (otherFields name others) := by
  have append : ∀ list rest : List (String × Json),
      otherFields name (list ++ rest) = otherFields name list ++ otherFields name rest :=
    fun list rest => List.filter_append list rest
  rw [laidOver, laidOver, append, overlayFields_eq_map, overlayFields_eq_map,
    otherFields_map name fields fun name json => overlaid (others.lookup name) json]
  congr 1
  · refine List.map_congr_left fun field member => ?_
    have different := (Json.mem_otherFields.mp member).2
    rw [Json.lookup_eq_head?, Json.lookup_eq_head?, Json.valuesOf_otherFields different]
  · unfold otherFields
    rw [List.filter_filter, List.filter_filter]
    refine List.filter_congr fun field _ => ?_
    by_cases same : field.1 = name
    · simp [same]
    · have kept : field.1 ∈ (fields.filter fun field => !(field.1 == name)).map Prod.fst ↔
          field.1 ∈ fields.map Prod.fst := by
        simp only [List.mem_map, List.mem_filter]
        constructor
        · rintro ⟨other, ⟨member, -⟩, named⟩
          exact ⟨other, member, named⟩
        · rintro ⟨other, member, named⟩
          exact ⟨other, ⟨member, by simpa [named] using same⟩, named⟩
      simp only [beq_false_of_ne same, Bool.not_false, Bool.true_and, Bool.and_true,
        List.contains_eq_mem, decide_eq_decide.mpr kept]

@[simp] theorem laidOver_nil (fields : List (String × Json)) : laidOver fields [] = fields := by
  simp [laidOver, overlayFields_eq_map, overlaid]

@[simp] theorem nil_laidOver (fields : List (String × Json)) : laidOver [] fields = fields := by
  simp [laidOver, overlayFields]

/-- Laying a table over something gives a table. -/
theorem overlay_table (json : Json) (others : List (String × Json)) :
    overlay json (.object others) = .object (laidOver (fieldsIn json) others) := by
  cases json with
  | object fields => rfl
  | _ => exact congrArg Json.object (nil_laidOver others).symm

theorem empty_overlay (json : Json) : overlay (.object []) json = json := by
  cases json with
  | object fields => rw [overlay_table]; exact congrArg Json.object (nil_laidOver fields)
  | _ => rfl

/-! ### Values set behind keys -/

/-- The values that a name has in a table, or an empty table if it has none. -/
def valuesOrTable (name : String) (fields : List (String × Json)) : List Json :=
  if valuesOf name fields = [] then [.object []] else valuesOf name fields

/-- A tree is another one with what some keys lead through changed into something that is allowed,
and nothing else. What is no table counts as an empty one, and so does what is not there. -/
def Changed (allowed : Json → Prop) : List String → Json → Json → Prop
  | [], _, after => allowed after
  | name :: names, before, after =>
    ∃ fields, after = .object fields ∧
      otherFields name fields = otherFields name (fieldsIn before) ∧
      List.Forall₂ (Changed allowed names) (valuesOrTable name (fieldsIn before))
        (valuesOf name fields)

/-- Whatever some keys lead through is a table. -/
def TablesAlong : List String → Json → Prop
  | [], _ => True
  | name :: names, json =>
    ∃ fields, json = .object fields ∧ ∀ value ∈ valuesOf name fields, TablesAlong names value

theorem valuesOrTable_ne_nil (name : String) (fields : List (String × Json)) :
    valuesOrTable name fields ≠ [] := by
  unfold valuesOrTable
  split
  · simp
  · assumption

theorem valuesOf_laidOver_single (name : String) (fields : List (String × Json)) (json : Json) :
    valuesOf name (laidOver fields [(name, json)]) =
      (valuesOrTable name fields).map fun below => overlay below json := by
  have single : valuesOf name [(name, json)] = [json] := by simp [valuesOf]
  rw [valuesOf_laidOver, single, valuesOrTable]
  by_cases absent : valuesOf name fields = []
  · rw [if_pos absent, if_pos absent, List.map_singleton, empty_overlay]
  · rw [if_neg absent, if_neg absent]
    rfl

theorem valuesOrTable_laidOver_single (name : String) (fields : List (String × Json))
    (json : Json) :
    valuesOrTable name (laidOver fields [(name, json)]) =
      (valuesOrTable name fields).map fun below => overlay below json := by
  rw [valuesOrTable, if_neg, valuesOf_laidOver_single]
  rw [valuesOf_laidOver_single]
  exact mt List.map_eq_nil_iff.mp (valuesOrTable_ne_nil name fields)

theorem valuesOf_laidOver_other {name head : String} (different : head ≠ name)
    (fields : List (String × Json)) (json : Json) :
    valuesOf name (laidOver fields [(head, json)]) = valuesOf name fields := by
  have none : valuesOf name [(head, json)] = [] := by simp [valuesOf, different]
  rw [valuesOf_laidOver, none]
  split
  · next absent => exact absent.symm
  · exact List.map_id _

variable {allowed : Json → Prop} {keys path : List String} {before after value : Json}

/-- A value that is laid over a tree behind keys is what the keys lead to then. -/
theorem changed_overlay_nested (allows : ∀ below, allowed (overlay below value)) (json : Json) :
    Changed allowed keys json (overlay json (nested keys value)) := by
  induction keys generalizing json with
  | nil => exact allows json
  | cons name names inductionHypothesis =>
    rw [nested, overlay_table]
    refine ⟨_, rfl, ?_, ?_⟩
    · rw [otherFields_laidOver]
      simp [otherFields]
    · rw [valuesOf_laidOver_single, List.forall₂_map_right_iff, List.forall₂_same]
      exact fun below _ => inductionHypothesis below

/-- It stays so when something is laid over the tree behind keys that do not meet these. -/
theorem Changed.overlay_apart (changed : Changed allowed keys before after)
    (notThrough : ¬ keys <+: path) (notInto : ¬ path <+: keys) (other : Json) :
    Changed allowed keys (overlay before (nested path other))
      (overlay after (nested path other)) := by
  induction keys generalizing path before after with
  | nil => exact absurd List.nil_prefix notThrough
  | cons name names inductionHypothesis =>
    cases path with
    | nil => exact absurd List.nil_prefix notInto
    | cons head rest =>
      obtain ⟨fields, rfl, same, each⟩ := changed
      rw [nested, overlay_table, overlay_table]
      change List.Forall₂ _ _ (valuesOf name fields) at each
      refine ⟨_, rfl, ?_, ?_⟩
      · rw [fieldsIn, fieldsIn, otherFields_laidOver, otherFields_laidOver, same]
      · by_cases here : head = name
        · subst here
          have apart : ∀ {before after}, Changed allowed names before after →
              Changed allowed names (overlay before (nested rest other))
                (overlay after (nested rest other)) := fun changed =>
            inductionHypothesis changed (fun through => notThrough (by simpa using through))
              fun into => notInto (by simpa using into)
          have present : valuesOrTable head fields = valuesOf head fields := by
            refine if_neg fun absent => valuesOrTable_ne_nil head (fieldsIn before) ?_
            exact List.forall₂_nil_right_iff.mp (absent ▸ each)
          rw [fieldsIn, fieldsIn, valuesOrTable_laidOver_single, valuesOf_laidOver_single, present,
            List.forall₂_map_left_iff, List.forall₂_map_right_iff]
          exact each.imp fun _ _ => apart
        · rw [fieldsIn, fieldsIn, valuesOrTable, valuesOf_laidOver_other here,
            valuesOf_laidOver_other here]
          exact each

/-- Laid over a tree in which the keys lead through tables, what changes an empty table changes
the tree. -/
theorem changed_of_empty
    (below : TablesAlong keys (overlay value (.object [])) →
      Changed allowed keys (overlay value (.object [])) (overlay value after))
    (allows : ∀ below json, allowed json → allowed (overlay below json))
    (changed : Changed allowed keys (.object []) after) (tables : TablesAlong keys value) :
    Changed allowed keys value (overlay value after) := by
  cases keys with
  | nil => exact allows value after changed
  | cons name names =>
    obtain ⟨fields, rfl, within⟩ := tables
    have same : overlay (.object fields) (.object []) = .object fields := by
      rw [overlay_table, fieldsIn, laidOver_nil]
    rw [same] at below
    exact below ⟨fields, rfl, within⟩

/-- It stays so when the tree is laid over another, in which the keys lead through tables. -/
theorem Changed.overlay_below (changed : Changed allowed keys before after)
    (allows : ∀ below json, allowed json → allowed (overlay below json)) (below : Json)
    (tables : TablesAlong keys (overlay below before)) :
    Changed allowed keys (overlay below before) (overlay below after) := by
  induction keys generalizing below before after with
  | nil => exact allows below after changed
  | cons name names inductionHypothesis =>
    obtain ⟨fields, rfl, same, each⟩ := changed
    obtain ⟨all, whole, within⟩ := tables
    obtain ⟨old, rfl⟩ : ∃ old, before = .object old := by
      by_contra noTable
      rw [overlay_not_table fun fields table => noTable ⟨fields, table⟩] at whole
      exact noTable ⟨all, whole⟩
    rw [overlay_table] at whole
    obtain rfl := Json.object.inj whole
    rw [overlay_table, overlay_table]
    refine ⟨_, rfl, ?_, ?_⟩
    · rw [fieldsIn, otherFields_laidOver, otherFields_laidOver, same, fieldsIn]
    · change List.Forall₂ _ (valuesOrTable name old) _ at each
      change List.Forall₂ _ (valuesOrTable name (laidOver (fieldsIn below) old)) _
      by_cases absent : valuesOf name (fieldsIn below) = []
      · rw [valuesOrTable, valuesOf_laidOver, valuesOf_laidOver, if_pos absent, if_pos absent]
        exact each
      · rw [valuesOf_laidOver, if_neg absent] at within
        rw [valuesOrTable, valuesOf_laidOver, valuesOf_laidOver, if_neg absent, if_neg absent,
          if_neg (by simpa using absent), List.forall₂_map_left_iff, List.forall₂_map_right_iff,
          List.forall₂_same]
        intro value member
        have table := within _ (List.mem_map_of_mem member)
        cases had : valuesOf name old with
        | cons first rest =>
          rw [valuesOrTable, had, if_neg (List.cons_ne_nil _ _)] at each
          obtain ⟨new, others, here, -, has⟩ := List.forall₂_cons_left_iff.mp each
          rw [had] at table
          rw [has]
          exact inductionHypothesis here value table
        | nil =>
          rw [valuesOrTable, if_pos had] at each
          obtain ⟨new, others, here, -, has⟩ := List.forall₂_cons_left_iff.mp each
          rw [had] at table
          rw [has]
          exact changed_of_empty (inductionHypothesis here value) allows here table

end Metasearch.Settings
