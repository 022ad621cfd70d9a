/-
What is read from a table, told from the values that each name has in it. A map takes the last value
of every name, and all values have to be read; the settings take the one value of each name that
they know. So a table with other values of one name is read as before but for that name.
-/
import Metasearch.Document.Settings
import Metasearch.Proofs.FieldOrder
import Metasearch.Proofs.Outcomes

namespace Metasearch.Json

variable {Value : Type}

/-! ### Values of a name -/

/-- The values that a name has in a table, in their order. -/
def valuesOf (name : String) (fields : List (String × Value)) : List Value :=
  (fields.filter fun field => field.1 == name).map Prod.snd

/-- The fields of a table that have other names. -/
def otherFields (name : String) (fields : List (String × Value)) : List (String × Value) :=
  fields.filter fun field => !(field.1 == name)

theorem valuesOf_cons (name : String) (field : String × Value) (fields : List (String × Value)) :
    valuesOf name (field :: fields) =
      if field.1 = name then field.2 :: valuesOf name fields else valuesOf name fields := by
  unfold valuesOf
  by_cases same : field.1 = name <;> simp [same]

theorem valuesOf_append (name : String) (fields others : List (String × Value)) :
    valuesOf name (fields ++ others) = valuesOf name fields ++ valuesOf name others := by
  simp [valuesOf]

theorem mem_valuesOf {name : String} {value : Value} {fields : List (String × Value)} :
    value ∈ valuesOf name fields ↔ (name, value) ∈ fields := by
  simp [valuesOf]

theorem mem_otherFields {name : String} {field : String × Value}
    {fields : List (String × Value)} :
    field ∈ otherFields name fields ↔ field ∈ fields ∧ field.1 ≠ name := by
  simp [otherFields]

/-- What other names have does not depend on the values of a name. -/
theorem valuesOf_otherFields {name other : String} (different : other ≠ name)
    (fields : List (String × Value)) :
    valuesOf other (otherFields name fields) = valuesOf other fields := by
  unfold valuesOf otherFields
  rw [List.filter_filter]
  congr 1
  refine List.filter_congr fun field _ => ?_
  by_cases same : field.1 = other <;> simp [same, different]

theorem lookup_cons_eq (name : String) (field : String × Value) (fields : List (String × Value)) :
    (field :: fields).lookup name = if name = field.1 then some field.2 else fields.lookup name := by
  rw [List.lookup_cons]
  by_cases same : name = field.1
  · rw [if_pos same, beq_iff_eq.mpr same]
  · rw [if_neg same, beq_false_of_ne same]

theorem lookup_eq_head? (name : String) (fields : List (String × Value)) :
    fields.lookup name = (valuesOf name fields).head? := by
  induction fields with
  | nil => rfl
  | cons field rest inductionHypothesis =>
    rw [valuesOf_cons, lookup_cons_eq, inductionHypothesis]
    by_cases same : field.1 = name
    · simp [same]
    · rw [if_neg same, if_neg (Ne.symm same)]

/-! ### Fields in the order of their names -/

/-- The names of fields ascend. -/
def Ascends (fields : List (String × Value)) : Prop :=
  fields.Pairwise fun before behind => before.1 < behind.1

/-- A field that is put at its place is the one of its name, and leaves all others. -/
theorem lookup_insertField (name other : String) (value : Value) (fields : List (String × Value)) :
    (insertField name value fields).lookup other =
      if other = name then some value else fields.lookup other := by
  induction fields with
  | nil => rw [insertField, lookup_cons_eq]
  | cons field rest inductionHypothesis =>
    obtain ⟨head, old⟩ := field
    simp only [insertField]
    split
    · next same =>
      obtain rfl := eq_of_beq same
      rw [lookup_cons_eq, lookup_cons_eq]
      split <;> rfl
    · next different =>
      have unlike : name ≠ head := fun same => different (beq_iff_eq.mpr same)
      split
      · rw [lookup_cons_eq]
      · rw [lookup_cons_eq, lookup_cons_eq, inductionHypothesis]
        by_cases this : other = head
        · rw [if_pos this, if_pos this, if_neg (this ▸ unlike.symm)]
        · rw [if_neg this, if_neg this]

theorem lookup_of_ascends {name : String} {value : Value} {fields : List (String × Value)}
    (ascends : Ascends fields) :
    fields.lookup name = some value ↔ (name, value) ∈ fields := by
  induction fields with
  | nil => simp
  | cons field rest inductionHypothesis =>
    obtain ⟨first, later⟩ := List.pairwise_cons.mp ascends
    rw [lookup_cons_eq, List.mem_cons]
    by_cases same : name = field.1
    · have absent : (name, value) ∉ rest := fun member =>
        absurd (first _ member) (by simp [same])
      rw [if_pos same, or_iff_left absent, Option.some.injEq, eq_comm, Prod.ext_iff]
      exact (and_iff_right same).symm
    · rw [if_neg same, inductionHypothesis later]
      refine (or_iff_right ?_).symm
      rintro rfl
      exact same rfl

/-- Fields in the order of their names are told by what the names have. -/
theorem eq_of_lookup_eq {fields others : List (String × Value)} (ascends : Ascends fields)
    (othersAscend : Ascends others) (same : ∀ name, fields.lookup name = others.lookup name) :
    fields = others := by
  have distinct : ∀ {list : List (String × Value)}, Ascends list → list.Nodup := fun ascends =>
    ascends.imp fun less same => absurd (same ▸ less) (lt_irrefl _)
  have perm : fields.Perm others :=
    (List.perm_ext_iff_of_nodup (distinct ascends) (distinct othersAscend)).mpr fun (name, value) => by
      rw [← lookup_of_ascends ascends, ← lookup_of_ascends othersAscend, same]
  exact List.Perm.eq_of_pairwise (fun _ _ _ _ less more => absurd (less.trans more) (lt_irrefl _))
    ascends othersAscend perm

/-! ### Maps -/

/-- What is put in one after the other. -/
theorem foldlM_insertField {reading : Reading Value} {fields : List (String × Json)}
    {start read : List (String × Value)}
    (success : fields.foldlM (fun read field => do
      let value ← reading field.2
      return insertField field.1 value read) start = .ok read) :
    (∀ field ∈ fields, ∃ value, reading field.2 = .ok value) ∧
      (Ascends start → Ascends read) ∧
      ∀ name, read.lookup name =
        match (valuesOf name fields).getLast? with
        | some json => (reading json).toOption
        | none => start.lookup name := by
  induction fields generalizing start with
  | nil =>
    obtain rfl := Except.ok.inj success
    exact ⟨nofun, id, fun _ => rfl⟩
  | cons field rest inductionHypothesis =>
    rw [List.foldlM_cons] at success
    obtain ⟨next, step, success⟩ := except_of_bind success
    obtain ⟨value, here, step⟩ := except_of_bind step
    obtain rfl := Except.ok.inj step
    obtain ⟨each, ascends, lookups⟩ := inductionHypothesis success
    refine ⟨List.forall_mem_cons.mpr ⟨⟨value, here⟩, each⟩,
      fun ascending => ascends (insertField_pairwise ascending), fun name => ?_⟩
    rw [lookups, valuesOf_cons, lookup_insertField]
    by_cases same : field.1 = name
    · rw [if_pos same, if_pos same.symm, List.getLast?_cons]
      cases (valuesOf name rest).getLast? with
      | none => simp [here, Except.toOption]
      | some json => rfl
    · rw [if_neg same, if_neg (Ne.symm same)]

theorem exists_foldlM_insertField {reading : Reading Value} {fields : List (String × Json)}
    (each : ∀ field ∈ fields, ∃ value, reading field.2 = .ok value)
    (start : List (String × Value)) :
    ∃ read, fields.foldlM (fun read field => do
      let value ← reading field.2
      return insertField field.1 value read) start = .ok read := by
  induction fields generalizing start with
  | nil => exact ⟨start, rfl⟩
  | cons field rest inductionHypothesis =>
    obtain ⟨⟨value, here⟩, later⟩ := List.forall_mem_cons.mp each
    obtain ⟨read, success⟩ := inductionHypothesis later (insertField field.1 value start)
    refine ⟨read, ?_⟩
    rw [List.foldlM_cons, here]
    exact success

/-- An object is read as a map exactly if all its values are read; a name has what is read from the
last of its values. -/
theorem asMap_object {reading : Reading Value} {fields : List (String × Json)}
    {read : List (String × Value)} :
    asMap reading (.object fields) = .ok read ↔
      (∀ field ∈ fields, ∃ value, reading field.2 = .ok value) ∧ Ascends read ∧
        ∀ name, read.lookup name =
          (valuesOf name fields).getLast?.bind fun json => (reading json).toOption := by
  have lookups : ∀ name (found : List (String × Value)),
      (found.lookup name = match (valuesOf name fields).getLast? with
        | some json => (reading json).toOption
        | none => ([] : List (String × Value)).lookup name) ↔
      found.lookup name =
        (valuesOf name fields).getLast?.bind fun json => (reading json).toOption := by
    intro name found
    cases (valuesOf name fields).getLast? <;> rfl
  have sound : ∀ {found}, asMap reading (.object fields) = .ok found →
      (∀ field ∈ fields, ∃ value, reading field.2 = .ok value) ∧ Ascends found ∧
        ∀ name, found.lookup name =
          (valuesOf name fields).getLast?.bind fun json => (reading json).toOption := by
    intro found success
    obtain ⟨each, ascends, has⟩ := foldlM_insertField success
    exact ⟨each, ascends .nil, fun name => (lookups name found).mp (has name)⟩
  refine ⟨sound, fun ⟨each, ascends, has⟩ => ?_⟩
  obtain ⟨found, success⟩ := exists_foldlM_insertField each []
  obtain ⟨-, foundAscends, foundHas⟩ := sound success
  rw [eq_of_lookup_eq ascends foundAscends fun name => (has name).trans (foundHas name).symm]
  exact success

/-- A map is read with another value of one name. -/
theorem asMap_replaced {reading : Reading Value} {fields others : List (String × Json)}
    {read : List (String × Value)} {name : String} {json : Json} {value : Value}
    (success : asMap reading (.object fields) = .ok read)
    (same : otherFields name others = otherFields name fields)
    (each : ∀ json ∈ valuesOf name others, ∃ value, reading json = .ok value)
    (last : (valuesOf name others).getLast? = some json) (here : reading json = .ok value) :
    asMap reading (.object others) = .ok (insertField name value read) := by
  obtain ⟨all, ascends, has⟩ := asMap_object.mp success
  refine asMap_object.mpr ⟨fun field member => ?_, insertField_pairwise ascends, fun other => ?_⟩
  · by_cases named : field.1 = name
    · exact each field.2 (mem_valuesOf.mpr (named ▸ member))
    · have kept : field ∈ otherFields name fields := same ▸ mem_otherFields.mpr ⟨member, named⟩
      exact all field (mem_otherFields.mp kept).1
  · rw [lookup_insertField]
    by_cases named : other = name
    · rw [if_pos named, named, last, Option.bind_some, here]
      rfl
    · rw [if_neg named, has, ← valuesOf_otherFields named fields, ← same, valuesOf_otherFields named]

/-- A map is not read if some value of a name is not. -/
theorem asMap_of_misfit {reading : Reading Value} {fields : List (String × Json)} {name : String}
    {json : Json} (member : json ∈ valuesOf name fields) (bad : ∀ value, reading json ≠ .ok value)
    (read : List (String × Value)) : asMap reading (.object fields) ≠ .ok read := by
  intro success
  obtain ⟨value, good⟩ := (asMap_object.mp success).1 _ (mem_valuesOf.mp member)
  exact bad value good

/-! ### Records -/

section Records

variable {Record : Type} {slots : List (Slot Record)}

/-- A slot takes a value, whatever the record is. -/
def Slot.Takes (slot : Slot Record) (json : Json) : Prop :=
  ∀ record, ∃ next, slot.put json record = .ok next

/-- Whether a slot takes a value does not depend on the record. -/
def Slot.IsSteady (slot : Slot Record) : Prop :=
  ∀ json record next, slot.put json record = .ok next → slot.Takes json

theorem Slot.of_takes {name : String} {presence : Presence} {reading : Reading Value}
    {set : Value → Record → Record} {json : Json} {value : Value}
    (read : reading json = .ok value) : (Slot.of name presence reading set).Takes json :=
  fun record => ⟨set value record, congrArg (Except.map fun value => set value record) read⟩

theorem Slot.of_isSteady (name : String) (presence : Presence) (reading : Reading Value)
    (set : Value → Record → Record) : (Slot.of name presence reading set).IsSteady := by
  intro json record next put
  obtain ⟨value, read, -⟩ := map_eq_ok.mp put
  exact Slot.of_takes read

/-- How often a name was there, in what was seen and in fields to come. -/
def times (name : String) (seen : List String) (fields : List (String × Json)) : Nat :=
  (if name ∈ seen then 1 else 0) + (valuesOf name fields).length

theorem times_cons_of_fresh {name : String} {seen : List String} {field : String × Json}
    (fresh : field.1 ∉ seen) (fields : List (String × Json)) :
    times name seen (field :: fields) = times name (field.1 :: seen) fields := by
  unfold times
  rw [valuesOf_cons]
  by_cases same : field.1 = name
  · subst same
    simp [fresh, Nat.add_comm]
  · simp [same, Ne.symm same]

theorem times_cons_of_ne {name : String} {field : String × Json} (different : name ≠ field.1)
    (seen : List String) (fields : List (String × Json)) :
    times name seen (field :: fields) = times name seen fields := by
  unfold times
  rw [valuesOf_cons, if_neg (Ne.symm different)]

/-- A slot sets a part of the record to what it reads. -/
def Slot.Sets {Part : Type} (get : Record → Part) (reading : Reading Part) (slot : Slot Record) :
    Prop :=
  ∀ json record next, slot.put json record = .ok next → reading json = .ok (get next)

/-- A slot leaves a part of the record as it is. -/
def Slot.Leaves {Part : Type} (get : Record → Part) (slot : Slot Record) : Prop :=
  ∀ json record next, slot.put json record = .ok next → get next = get record

theorem Slot.of_sets {get : Record → Value} {name : String} {presence : Presence}
    {reading : Reading Value} {set : Value → Record → Record}
    (gets : ∀ value record, get (set value record) = value) :
    (Slot.of name presence reading set).Sets get reading := by
  intro json record next put
  obtain ⟨value, read, rfl⟩ := map_eq_ok.mp put
  rw [gets, read]

theorem Slot.of_leaves {Part : Type} {get : Record → Part} {name : String} {presence : Presence}
    {reading : Reading Value} {set : Value → Record → Record}
    (leaves : ∀ value record, get (set value record) = get record) :
    (Slot.of name presence reading set).Leaves get := by
  intro json record next put
  obtain ⟨value, -, rfl⟩ := map_eq_ok.mp put
  exact leaves value record

/-- The fields of an object fit to slots: no slot gets two values, every slot takes its value, what
is passed over is not damaged, and nothing is missing. -/
structure Fit (slots : List (Slot Record)) (seen : List String) (fields : List (String × Json)) :
    Prop where
  once : ∀ slot ∈ slots, times slot.name seen fields ≤ 1
  present : ∀ slot ∈ slots, slot.presence = .required → 1 ≤ times slot.name seen fields
  sound : ∀ field ∈ fields, (∀ slot ∈ slots, slot.name ≠ field.1) → field.2.isSound = true
  taken : ∀ field ∈ fields, ∀ slot, slots.find? (·.name == field.1) = some slot →
    slot.Takes field.2

theorem fit_nil {seen : List String} : Fit slots seen [] ↔
    (slots.find? fun slot => slot.presence == .required && !seen.contains slot.name) = none := by
  rw [List.find?_eq_none]
  have count : ∀ slot : Slot Record, times slot.name seen [] = if slot.name ∈ seen then 1 else 0 :=
    fun slot => rfl
  constructor
  · intro fit slot member
    have present := fit.present slot member
    rw [count] at present
    by_cases again : slot.name ∈ seen
    · simp [again]
    · simp only [again, if_false] at present
      simpa using fun required => absurd (present required) (by simp)
  · intro none
    refine ⟨fun slot _ => ?_, fun slot member required => ?_, nofun, nofun⟩
    · rw [count]
      split <;> simp
    · have again : slot.name ∈ seen := by simpa [required] using none slot member
      rw [count, if_pos again]

theorem fit_cons_unknown {seen : List String} {field : String × Json}
    {fields : List (String × Json)} (unknown : slots.find? (·.name == field.1) = none) :
    Fit slots seen (field :: fields) ↔ field.2.isSound = true ∧ Fit slots seen fields := by
  have other : ∀ slot ∈ slots, slot.name ≠ field.1 := by
    simpa using List.find?_eq_none.mp unknown
  have same : ∀ slot ∈ slots, times slot.name seen (field :: fields) = times slot.name seen fields :=
    fun slot member => times_cons_of_ne (other slot member) seen fields
  constructor
  · intro fit
    exact ⟨fit.sound field List.mem_cons_self other,
      fun slot member => same slot member ▸ fit.once slot member,
      fun slot member => same slot member ▸ fit.present slot member,
      fun later member => fit.sound later (List.mem_cons_of_mem _ member),
      fun later member => fit.taken later (List.mem_cons_of_mem _ member)⟩
  · rintro ⟨sound, fit⟩
    refine ⟨fun slot member => (same slot member).symm ▸ fit.once slot member,
      fun slot member => (same slot member).symm ▸ fit.present slot member,
      List.forall_mem_cons.mpr ⟨fun _ => sound, fit.sound⟩,
      List.forall_mem_cons.mpr ⟨fun slot found => ?_, fit.taken⟩⟩
    cases unknown.symm.trans found

theorem fit_cons_known {seen : List String} {field : String × Json}
    {fields : List (String × Json)} {slot : Slot Record}
    (known : slots.find? (·.name == field.1) = some slot) :
    Fit slots seen (field :: fields) ↔
      field.1 ∉ seen ∧ slot.Takes field.2 ∧ Fit slots (field.1 :: seen) fields := by
  have member := List.mem_of_find?_eq_some known
  have named : slot.name = field.1 := by simpa using List.find?_some known
  constructor
  · intro fit
    have fresh : field.1 ∉ seen := by
      intro again
      have once := fit.once slot member
      unfold times at once
      rw [valuesOf_cons, if_pos named.symm, named, if_pos again, List.length_cons] at once
      omega
    exact ⟨fresh, fit.taken field List.mem_cons_self slot known,
      fun other among => times_cons_of_fresh fresh fields ▸ fit.once other among,
      fun other among => times_cons_of_fresh fresh fields ▸ fit.present other among,
      fun later among => fit.sound later (List.mem_cons_of_mem _ among),
      fun later among => fit.taken later (List.mem_cons_of_mem _ among)⟩
  · rintro ⟨fresh, takes, fit⟩
    refine ⟨fun other among => (times_cons_of_fresh fresh fields).symm ▸ fit.once other among,
      fun other among => (times_cons_of_fresh fresh fields).symm ▸ fit.present other among,
      List.forall_mem_cons.mpr ⟨fun other => absurd named (other slot member), fit.sound⟩,
      List.forall_mem_cons.mpr ⟨fun other found => ?_, fit.taken⟩⟩
    cases known.symm.trans found
    exact takes

/-- The fields of an object are read as a record exactly if they fit to its slots. -/
theorem exists_putFields {fields : List (String × Json)} {seen : List String} {start : Record}
    (steady : ∀ slot ∈ slots, slot.IsSteady) :
    (∃ read, putFields slots seen start fields = .ok read) ↔ Fit slots seen fields := by
  induction fields generalizing seen start with
  | nil =>
    rw [fit_nil, putFields]
    cases slots.find? fun slot => slot.presence == .required && !seen.contains slot.name <;> simp
  | cons field rest inductionHypothesis =>
    obtain ⟨name, json⟩ := field
    rw [putFields]
    cases known : slots.find? (·.name == name) with
    | none =>
      rw [fit_cons_unknown known, ← @inductionHypothesis seen start]
      cases json.isSound <;> simp
    | some slot =>
      rw [fit_cons_known known]
      by_cases again : name ∈ seen
      · simp [again]
      · simp only [again, not_false_eq_true, true_and, List.contains_iff_mem, if_false]
        constructor
        · rintro ⟨read, success⟩
          obtain ⟨next, put, success⟩ := except_of_bind success
          have takes := steady slot (List.mem_of_find?_eq_some known) json start next put
          exact ⟨takes, inductionHypothesis.mp ⟨read, success⟩⟩
        · rintro ⟨takes, fit⟩
          obtain ⟨next, put⟩ := takes start
          obtain ⟨read, success⟩ := (@inductionHypothesis _ next).mpr fit
          exact ⟨read, by rw [put]; exact success⟩

/-- The part of a record that a slot is for has what was read from its value, or is left. -/
theorem putFields_part {Part : Type} {get : Record → Part} {slot : Slot Record}
    {reading : Reading Part} (steady : ∀ slot ∈ slots, slot.IsSteady)
    (known : slots.find? (·.name == slot.name) = some slot)
    (sets : slot.Sets get reading)
    (leaves : ∀ other ∈ slots, other.name ≠ slot.name → other.Leaves get)
    {fields : List (String × Json)} {seen : List String} {start read : Record}
    (success : putFields slots seen start fields = .ok read) :
    match valuesOf slot.name fields with
    | [] => get read = get start
    | json :: _ => reading json = .ok (get read) := by
  induction fields generalizing seen start with
  | nil =>
    rw [putFields] at success
    split at success
    · cases success
    · obtain rfl := Except.ok.inj success
      rfl
  | cons field rest inductionHypothesis =>
    obtain ⟨name, json⟩ := field
    rw [valuesOf_cons]
    rw [putFields] at success
    by_cases same : name = slot.name
    · subst same
      rw [known] at success
      dsimp only at success
      split at success
      · cases success
      · obtain ⟨next, put, success⟩ := except_of_bind success
        have fit := (exists_putFields steady).mp ⟨read, success⟩
        have once := fit.once slot (List.mem_of_find?_eq_some known)
        have none : valuesOf slot.name rest = [] := by
          unfold times at once
          rw [if_pos List.mem_cons_self] at once
          exact List.eq_nil_of_length_eq_zero (by omega)
        have kept := inductionHypothesis success
        rw [none] at kept
        rw [if_pos rfl]
        exact kept ▸ sets json start next put
    · rw [if_neg same]
      split at success
      · split at success
        · exact inductionHypothesis success
        · cases success
      · next other found =>
        split at success
        · cases success
        · obtain ⟨next, put, success⟩ := except_of_bind success
          have named : other.name = name := by simpa using List.find?_some found
          have unchanged := leaves other (List.mem_of_find?_eq_some found) (named ▸ same) json
            start next put
          exact unchanged ▸ inductionHypothesis success

end Records

end Metasearch.Json

namespace Metasearch.Settings

open Json (Slot Reading Fit valuesOf otherFields)

/-! ### Settings -/

/-- The sections of the sites. -/
def readIndexers : Reading (List (String × List (String × String))) :=
  Json.asMap (Json.asMap Json.asText)

/-- How pages are asked for, as a part of the settings. -/
def browserSlot : Slot Settings :=
  .of "browser" .defaulted readBrowser fun browser settings => { settings with browser }

/-- Where definitions are kept, as a part of the settings. -/
def definitionsSlot : Slot Settings :=
  .of "definitions" .defaulted readDefinitions
    fun definitions settings => { settings with definitions }

/-- The sections of the sites, as a part of the settings. -/
def indexersSlot : Slot Settings :=
  .of "indexers" .defaulted readIndexers fun indexers settings => { settings with indexers }

/-- The parts of the settings. -/
def settingSlots : List (Slot Settings) :=
  [browserSlot, definitionsSlot, indexersSlot]

theorem ofJson_object (fields : List (String × Json)) :
    ofJson (.object fields) = Json.putFields settingSlots [] usual fields := rfl

theorem forall_settingSlots {property : Slot Settings → Prop} :
    (∀ slot ∈ settingSlots, property slot) ↔
      property browserSlot ∧ property definitionsSlot ∧ property indexersSlot := by
  simp [settingSlots]

theorem settingSlots_steady : ∀ slot ∈ settingSlots, slot.IsSteady :=
  forall_settingSlots.mpr
    ⟨Slot.of_isSteady _ _ _ _, Slot.of_isSteady _ _ _ _, Slot.of_isSteady _ _ _ _⟩

theorem exists_ofJson {fields : List (String × Json)} :
    (∃ settings, ofJson (.object fields) = .ok settings) ↔ Fit settingSlots [] fields :=
  Json.exists_putFields settingSlots_steady

/-- Each part of the settings is read from the first value of its name. -/
theorem parts_of_ofJson {fields : List (String × Json)} {settings : Settings}
    (loads : ofJson (.object fields) = .ok settings) :
    (match valuesOf "browser" fields with
      | [] => settings.browser = usual.browser
      | json :: _ => readBrowser json = .ok settings.browser) ∧
    (match valuesOf "definitions" fields with
      | [] => settings.definitions = usual.definitions
      | json :: _ => readDefinitions json = .ok settings.definitions) ∧
    (match valuesOf "indexers" fields with
      | [] => settings.indexers = []
      | json :: _ => readIndexers json = .ok settings.indexers) := by
  rw [ofJson_object] at loads
  have browser : ∀ slot ∈ settingSlots, slot.name ≠ "browser" →
      slot.Leaves fun settings : Settings => settings.browser :=
    forall_settingSlots.mpr ⟨fun other => absurd rfl other,
      fun _ => Slot.of_leaves fun _ _ => rfl, fun _ => Slot.of_leaves fun _ _ => rfl⟩
  have definitions : ∀ slot ∈ settingSlots, slot.name ≠ "definitions" →
      slot.Leaves fun settings : Settings => settings.definitions :=
    forall_settingSlots.mpr ⟨fun _ => Slot.of_leaves fun _ _ => rfl,
      fun other => absurd rfl other, fun _ => Slot.of_leaves fun _ _ => rfl⟩
  have indexers : ∀ slot ∈ settingSlots, slot.name ≠ "indexers" →
      slot.Leaves fun settings : Settings => settings.indexers :=
    forall_settingSlots.mpr ⟨fun _ => Slot.of_leaves fun _ _ => rfl,
      fun _ => Slot.of_leaves fun _ _ => rfl, fun other => absurd rfl other⟩
  exact ⟨@Json.putFields_part _ _ _ _ browserSlot _ settingSlots_steady rfl
      (Slot.of_sets fun _ _ => rfl) browser _ _ _ _ loads,
    @Json.putFields_part _ _ _ _ definitionsSlot _ settingSlots_steady rfl
      (Slot.of_sets fun _ _ => rfl) definitions _ _ _ _ loads,
    @Json.putFields_part _ _ _ _ indexersSlot _ settingSlots_steady rfl
      (Slot.of_sets fun _ _ => rfl) indexers _ _ _ _ loads⟩

section Replaced

variable {fields others : List (String × Json)} {settings : Settings} {json : Json}
  {sections : List (String × List (String × String))}

/-- Other names have the same values in tables that differ in one name. -/
theorem valuesOf_of_same {name replaced : String} (different : name ≠ replaced)
    (same : otherFields replaced others = otherFields replaced fields) :
    valuesOf name others = valuesOf name fields := by
  rw [← Json.valuesOf_otherFields different, same, Json.valuesOf_otherFields different]

/-- Fields that fit to the settings still fit with other sections of the sites. -/
theorem fit_replaced (fit : Fit settingSlots [] fields)
    (same : otherFields "indexers" others = otherFields "indexers" fields)
    (only : valuesOf "indexers" others = [json]) (read : readIndexers json = .ok sections) :
    Fit settingSlots [] others := by
  have kept : ∀ field ∈ others, field.1 ≠ "indexers" → field ∈ fields := fun field member named =>
    (Json.mem_otherFields.mp (same ▸ Json.mem_otherFields.mpr ⟨member, named⟩)).1
  refine ⟨fun slot member => ?_, fun slot member required => ?_, fun field member unknown => ?_,
    fun field member slot found => ?_⟩
  · by_cases named : slot.name = "indexers"
    · unfold Json.times
      rw [named, only]
      simp
    · have once := fit.once slot member
      unfold Json.times at once ⊢
      rwa [valuesOf_of_same named same]
  · simp only [settingSlots, List.mem_cons, List.not_mem_nil, or_false] at member
    rcases member with rfl | rfl | rfl <;> cases required
  · refine fit.sound field (kept field member fun named => ?_) unknown
    exact unknown indexersSlot (by simp [settingSlots]) named.symm
  · by_cases named : field.1 = "indexers"
    · have known : settingSlots.find? (·.name == "indexers") = some indexersSlot := rfl
      rw [named, known, Option.some.injEq] at found
      subst found
      have value : field.2 ∈ valuesOf "indexers" others := Json.mem_valuesOf.mpr (named ▸ member)
      rw [only, List.mem_singleton] at value
      rw [value]
      exact Slot.of_takes read
    · exact fit.taken field (kept field member named) slot found

/-- Settings are read with other sections of the sites. -/
theorem ofJson_replaced (loads : ofJson (.object fields) = .ok settings)
    (same : otherFields "indexers" others = otherFields "indexers" fields)
    (only : valuesOf "indexers" others = [json]) (read : readIndexers json = .ok sections) :
    ofJson (.object others) = .ok { settings with indexers := sections } := by
  obtain ⟨changed, loadsChanged⟩ :=
    exists_ofJson.mpr (fit_replaced (exists_ofJson.mp ⟨settings, loads⟩) same only read)
  obtain ⟨browser, definitions, -⟩ := parts_of_ofJson loads
  obtain ⟨changedBrowser, changedDefinitions, changedIndexers⟩ := parts_of_ofJson loadsChanged
  rw [valuesOf_of_same (by decide) same] at changedBrowser changedDefinitions
  rw [only] at changedIndexers
  have sameBrowser : changed.browser = settings.browser := by
    split at browser <;> simp_all
  have sameDefinitions : changed.definitions = settings.definitions := by
    split at definitions <;> simp_all
  have sameSections : changed.indexers = sections :=
    Except.ok.inj (changedIndexers.symm.trans read)
  rw [loadsChanged]
  obtain ⟨changedB, changedD, changedI⟩ := changed
  simp only at sameBrowser sameDefinitions sameSections
  rw [sameBrowser, sameDefinitions, sameSections]

end Replaced

/-- Settings are not read if some sections of the sites are not. -/
theorem ofJson_of_misfit {fields : List (String × Json)} {json : Json}
    (member : json ∈ valuesOf "indexers" fields) (bad : ∀ sections, readIndexers json ≠ .ok sections)
    (settings : Settings) : ofJson (.object fields) ≠ .ok settings := by
  intro loads
  have fit := exists_ofJson.mp ⟨settings, loads⟩
  have takes := fit.taken ("indexers", json) (Json.mem_valuesOf.mp member) indexersSlot rfl
  obtain ⟨next, put⟩ := takes usual
  obtain ⟨sections, read, -⟩ := map_eq_ok.mp put
  exact bad sections read

end Metasearch.Settings
