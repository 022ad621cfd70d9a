/-
The values of a row and the item that is made of them. There is a value for each field, under
its name; an item takes the values of the known names, and a value of one name does not touch
what another is put into.
-/
import Metasearch.Extraction
import Metasearch.Proofs.Outcomes

namespace Metasearch.Extraction

open Definition (resultFields)
open Markup (Place)

/-! ### Values -/

/-- The values of a row have the names of the fields. -/
theorem rowValues_names {context : Filter.Context} {fields : List (String × SelectorBlock)}
    {row : Place} {values : List (String × String)}
    (found : rowValues context fields row = .ok values) :
    values.map Prod.fst = fields.map Prod.fst := by
  have each := forall₂_of_mapM found
  clear found
  induction each with
  | nil => rfl
  | cons here _ inductionHypothesis =>
    obtain ⟨value, -, rfl⟩ := map_eq_ok.mp here
    simp [inductionHypothesis]

/-- There is a value for each field, the one that its block has in the row. -/
theorem mem_rowValues {context : Filter.Context} {fields : List (String × SelectorBlock)}
    {row : Place} {values : List (String × String)}
    (found : rowValues context fields row = .ok values) {name : String} {block : SelectorBlock}
    (field : (name, block) ∈ fields) :
    ∃ value, blockValue context row block = .ok value ∧ (name, value) ∈ values := by
  have each := forall₂_of_mapM found
  clear found
  induction each with
  | nil => cases field
  | cons here _ inductionHypothesis =>
    obtain ⟨value, selected, rfl⟩ := map_eq_ok.mp here
    rcases List.mem_cons.mp field with rfl | field
    · exact ⟨value, selected, List.mem_cons_self⟩
    · obtain ⟨value, selected, member⟩ := inductionHypothesis field
      exact ⟨value, selected, List.mem_cons_of_mem _ member⟩

/-- The filters of a block work one after the other. -/
theorem blockValue_append (context : Filter.Context) (row : Place) (block : SelectorBlock)
    (before after : List Filter) :
    blockValue context row { block with filters := before ++ after } =
      blockValue context row { block with filters := before } >>= fun value =>
        (Filter.applyAll context after value).mapError .filter := by
  show (selectValue row block >>= fun value =>
      (Filter.applyAll context (before ++ after) value).mapError .filter) =
    (selectValue row block >>= fun value =>
      (Filter.applyAll context before value).mapError .filter) >>= _
  cases selectValue row block with
  | error error => rfl
  | ok value =>
    show (Filter.applyAll context (before ++ after) value).mapError Error.filter =
      (Filter.applyAll context before value).mapError Error.filter >>= _
    rw [Filter.applyAll, Filter.applyAll, List.foldlM_append]
    cases before.foldlM (fun value filter => Filter.apply context filter value) value <;> rfl

/-! ### Items -/

/-- An item takes exactly the values with the names that a check lets pass. -/
theorem withValue?_isSome (base : Url) (item : Item) (name value : String) :
    (withValue? base item name value).isSome = resultFields.contains name := by
  unfold withValue?
  split <;> first | rfl | simp_all [resultFields]

theorem putValues_ok (base : Url) (row : Nat) (item : Item) {values : List (String × String)}
    (known : ∀ value ∈ values, value.1 ∈ resultFields) :
    ∃ made, putValues base row item values = .ok made := by
  induction values generalizing item with
  | nil => exact ⟨_, rfl⟩
  | cons head rest inductionHypothesis =>
    obtain ⟨name, value⟩ := head
    obtain ⟨here, later⟩ := List.forall_mem_cons.mp known
    obtain ⟨put, found⟩ := Option.isSome_iff_exists.mp
      ((withValue?_isSome base item name value).trans (List.contains_iff_mem.mpr here))
    simp only [putValues, found]
    cases put with
    | ok item => exact inductionHypothesis item later
    | error reason =>
      obtain ⟨made, put⟩ := inductionHypothesis item later
      exact ⟨_, by simp only [put]; rfl⟩

/-- What went wrong, if anything did. -/
def causeOf? {Cause Value : Type} : Except Cause Value → Option Cause
  | .ok _ => none
  | .error cause => some cause

/-- What putting in several values comes to, told from the first of them: its outcome leaves an item
for the others, the one before if it cannot take the value, and a warning in that case. -/
theorem putValues_cons_eq_ok {base : Url} {row : Nat} {item made : Item} {name value : String}
    {rest : List (String × String)} {warnings : List Warning}
    (put : putValues base row item ((name, value) :: rest) = .ok (made, warnings)) :
    ∃ outcome others, withValue? base item name value = some outcome ∧
      putValues base row (outcome.toOption.getD item) rest = .ok (made, others) ∧
      warnings = ((causeOf? outcome).map fun reason => ⟨row, name, value, reason⟩).toList ++
        others := by
  rw [putValues] at put
  split at put
  case h_1 => cases put
  case h_2 next taken => exact ⟨.ok next, warnings, taken, put, rfl⟩
  case h_3 reason refused =>
    obtain ⟨⟨result, others⟩, putLater, kept⟩ := except_of_bind put
    cases kept
    exact ⟨.error reason, others, refused, putLater, rfl⟩

/-- What holds of an item at the start, and is kept by each value that it takes, holds of the item
that is made of several. -/
theorem putValues_keeps {holds : Item → Prop} {base : Url}
    (each : ∀ item made name value, withValue? base item name value = some (.ok made) →
      holds item → holds made)
    {row : Nat} {item made : Item} {values : List (String × String)} {warnings : List Warning}
    (before : holds item) (put : putValues base row item values = .ok (made, warnings)) :
    holds made := by
  induction values generalizing item warnings with
  | nil =>
    cases put
    exact before
  | cons head rest inductionHypothesis =>
    obtain ⟨name, value⟩ := head
    obtain ⟨outcome, others, found, putLater, -⟩ := putValues_cons_eq_ok put
    refine inductionHypothesis ?_ putLater
    cases outcome with
    | ok next => exact each item next name value found before
    | error reason => exact before

/-! ### Parts of an item -/

/-- The address that a text leads to from the page. -/
def readAddress (base : Url) (value : String) : Except Reason String :=
  ((base.join value).mapError .url).map Url.write

/-- The number that a text is. -/
def readNumber (value : String) : Except Reason Int :=
  (Number.readSigned value.toList).mapError .integer

/-- The number of bytes that a text gives. -/
def readSize (value : String) : Except Reason Nat :=
  match ByteSize.read? value with
  | some size => .ok size
  | none => .error .byteSize

/-- The point in time that a text in the canonical form gives. -/
def readTime (value : String) : Except Reason Calendar.Timestamp :=
  match Calendar.readCanonical? value with
  | some time => .ok time
  | none => .error .timestamp

/-- A reading is got back from the item that it is put into. -/
theorem map_map_part {Part : Type} {part : Item → Part} {put : Part → Item}
    (kept : ∀ read, part (put read) = read) (reading : Except Reason Part) :
    (reading.map put).map part = reading := by
  cases reading with
  | error reason => rfl
  | ok read => exact congrArg Except.ok (kept read)

theorem withUrl_eq (base : Url) (value : String) (put : String → Item) :
    withUrl base value put = (readAddress base value).map put := by
  rw [withUrl, readAddress]
  cases base.join value <;> rfl

theorem withNumber_eq (value : String) (put : Int → Item) :
    withNumber value put = (readNumber value).map put := rfl

theorem withValue?_size (base : Url) (item : Item) (value : String) :
    withValue? base item "size" value =
      some ((readSize value).map fun size => { item with size }) := by
  show some _ = _
  unfold readSize
  cases ByteSize.read? value <;> rfl

theorem withValue?_date (base : Url) (item : Item) (value : String) :
    withValue? base item "date" value =
      some ((readTime value).map fun time => { item with publishDate := some time }) := by
  show some _ = _
  unfold readTime
  cases Calendar.readCanonical? value <;> rfl

/-- What a value of some name leaves of an item as it was: all parts that have another name, and
those that no value has. -/
structure LeavesOthers (name : String) (item made : Item) : Prop where
  site : made.site = item.site
  title : name ≠ "title" → made.title = item.title
  description : name ≠ "description" → made.description = item.description
  link : name ≠ "download" → made.link = item.link
  guid : name ≠ "details" → made.guid = item.guid
  comments : name ≠ "comments" → made.comments = item.comments
  category : name ≠ "category" → made.category = item.category
  size : name ≠ "size" → made.size = item.size
  seeders : name ≠ "seeders" → made.seeders = item.seeders
  peers : name ≠ "leechers" → name ≠ "seeders" → made.peers = item.peers
  publishDate : name ≠ "date" → made.publishDate = item.publishDate
  minimumRatio : made.minimumRatio = item.minimumRatio
  minimumSeedTime : made.minimumSeedTime = item.minimumSeedTime

theorem withValue?_leavesOthers {base : Url} {item made : Item} {name value : String}
    (put : withValue? base item name value = some (.ok made)) : LeavesOthers name item made := by
  unfold withValue? at put
  split at put <;> simp only [Option.some.injEq, reduceCtorEq] at put
  case h_4 | h_5 =>
    cases put
    constructor <;> simp
  case h_7 | h_10 =>
    split at put <;> cases put
    constructor <;> simp
  all_goals
    obtain ⟨_, _, rfl⟩ := map_eq_ok.mp put
    constructor <;> simp

/-- The values of a name are read into a part of an item, and no others are. -/
structure IsReadInto {Part : Type} (base : Url) (part : Item → Part) (name : String)
    (reading : String → Except Reason Part) : Prop where
  own : ∀ item value,
    (withValue? base item name value).map (Except.map part) = some (reading value)
  others : ∀ item made other value, other ≠ name →
    withValue? base item other value = some (.ok made) → part made = part item

section Parts

variable (base : Url)

theorem link_isReadInto : IsReadInto base Item.link "download" (readAddress base) where
  own item value := by
    show some ((withUrl base value fun link => { item with link }).map Item.link) = _
    rw [withUrl_eq, map_map_part fun _ => rfl]
  others _ _ _ _ other put := (withValue?_leavesOthers put).link other

theorem guid_isReadInto : IsReadInto base Item.guid "details" (readAddress base) where
  own item value := by
    show some ((withUrl base value fun guid => { item with guid }).map Item.guid) = _
    rw [withUrl_eq, map_map_part fun _ => rfl]
  others _ _ _ _ other put := (withValue?_leavesOthers put).guid other

theorem comments_isReadInto : IsReadInto base Item.comments "comments" (readAddress base) where
  own item value := by
    show some ((withUrl base value fun comments => { item with comments }).map Item.comments) = _
    rw [withUrl_eq, map_map_part fun _ => rfl]
  others _ _ _ _ other put := (withValue?_leavesOthers put).comments other

theorem title_isReadInto : IsReadInto base Item.title "title" .ok where
  own _ _ := rfl
  others _ _ _ _ other put := (withValue?_leavesOthers put).title other

theorem description_isReadInto : IsReadInto base Item.description "description" .ok where
  own _ _ := rfl
  others _ _ _ _ other put := (withValue?_leavesOthers put).description other

theorem category_isReadInto : IsReadInto base Item.category "category" readNumber where
  own item value := by
    show some ((withNumber value fun category => { item with category }).map Item.category) = _
    rw [withNumber_eq, map_map_part fun _ => rfl]
  others _ _ _ _ other put := (withValue?_leavesOthers put).category other

theorem seeders_isReadInto : IsReadInto base Item.seeders "seeders" readNumber where
  own item value := by
    show some ((withNumber value fun seeders =>
      { item with seeders, peers := addWithin item.peers seeders }).map Item.seeders) = _
    rw [withNumber_eq, map_map_part fun _ => rfl]
  others _ _ _ _ other put := (withValue?_leavesOthers put).seeders other

theorem size_isReadInto : IsReadInto base Item.size "size" readSize where
  own item value := by
    rw [withValue?_size, Option.map_some, map_map_part fun _ => rfl]
  others _ _ _ _ other put := (withValue?_leavesOthers put).size other

theorem publishDate_isReadInto :
    IsReadInto base Item.publishDate "date" (fun value => (readTime value).map some) where
  own item value := by
    rw [withValue?_date, Option.map_some]
    cases readTime value <;> rfl
  others _ _ _ _ other put := (withValue?_leavesOthers put).publishDate other

end Parts

/-- The value of a name among some values, if there is one and it can be read. -/
def fieldOf? {Part : Type} (values : List (String × String)) (name : String)
    (reading : String → Except Reason Part) : Option Part :=
  (values.lookup name).bind fun value => (reading value).toOption

theorem fieldOf?_cons_self {Part : Type} (name value : String) (values : List (String × String))
    (reading : String → Except Reason Part) :
    fieldOf? ((name, value) :: values) name reading = (reading value).toOption := by
  rw [fieldOf?, List.lookup_cons_self]
  rfl

theorem fieldOf?_cons_of_ne {Part : Type} {name other : String} (different : other ≠ name)
    (value : String) (values : List (String × String)) (reading : String → Except Reason Part) :
    fieldOf? ((other, value) :: values) name reading = fieldOf? values name reading := by
  rw [fieldOf?, List.lookup_cons, beq_false_of_ne (Ne.symm different)]
  rfl

theorem fieldOf?_of_absent {Part : Type} {name : String} {values : List (String × String)}
    (absent : name ∉ values.map Prod.fst) (reading : String → Except Reason Part) :
    fieldOf? values name reading = none := by
  have nothing : values.lookup name = none := by
    rw [List.lookup_eq_none_iff]
    intro value member
    rw [bne_iff_ne]
    rintro rfl
    exact absent (List.mem_map_of_mem member)
  rw [fieldOf?, nothing]
  rfl

variable {Part : Type} {part : Item → Part} {name : String} {reading : String → Except Reason Part}

/-- The value of its name decides a part of an item that is made of values with different names;
without such a value, or with one that cannot be read, the part stays as it was. -/
theorem putValues_part {base : Url} (into : IsReadInto base part name reading) {row : Nat}
    {item made : Item} {values : List (String × String)} {warnings : List Warning}
    (named : (values.map Prod.fst).Nodup)
    (put : putValues base row item values = .ok (made, warnings)) :
    part made = (fieldOf? values name reading).getD (part item) := by
  induction values generalizing item warnings with
  | nil =>
    cases put
    rfl
  | cons head rest inductionHypothesis =>
    obtain ⟨other, value⟩ := head
    rw [List.map_cons, List.nodup_cons] at named
    obtain ⟨here, later⟩ := named
    obtain ⟨outcome, others, found, putLater, -⟩ := putValues_cons_eq_ok put
    rw [inductionHypothesis later putLater]
    by_cases same : other = name
    · subst same
      have own := into.own item value
      rw [found, Option.map_some, Option.some.injEq] at own
      rw [fieldOf?_of_absent here, fieldOf?_cons_self, ← own]
      cases outcome <;> rfl
    · rw [fieldOf?_cons_of_ne same]
      cases outcome with
      | ok next =>
        have kept := into.others item next other value same found
        exact congrArg _ kept
      | error reason => rfl

theorem fieldOf?_of_mem {values : List (String × String)} (named : (values.map Prod.fst).Nodup)
    {value : String} (member : (name, value) ∈ values) :
    fieldOf? values name reading = (reading value).toOption := by
  induction values with
  | nil => cases member
  | cons head rest inductionHypothesis =>
    obtain ⟨other, text⟩ := head
    rw [List.map_cons, List.nodup_cons] at named
    rcases List.mem_cons.mp member with same | memberLater
    · cases same
      exact fieldOf?_cons_self name value rest reading
    · have different : other ≠ name := by
        rintro rfl
        exact named.1 (List.mem_map.mpr ⟨_, memberLater, rfl⟩)
      rw [fieldOf?_cons_of_ne different, inductionHypothesis named.2 memberLater]

/-- A number among values of different names is the category of the item made of them if it has
that name. -/
theorem putValues_category {base : Url} {row : Nat} {item made : Item}
    {values : List (String × String)} {warnings : List Warning} {value : String} {number : Int}
    (named : (values.map Prod.fst).Nodup) (member : ("category", value) ∈ values)
    (read : Number.readSigned value.toList = .ok number)
    (put : putValues base row item values = .ok (made, warnings)) :
    made.category = number := by
  rw [putValues_part (category_isReadInto base) named put, fieldOf?_of_mem named member, readNumber,
    read]
  rfl

/-- A timestamp in the canonical form among values of different names is the date of the item made
of them if it has that name. -/
theorem putValues_publishDate {base : Url} {row : Nat} {item made : Item}
    {values : List (String × String)} {warnings : List Warning} {value : String}
    {time : Calendar.Timestamp} (named : (values.map Prod.fst).Nodup)
    (member : ("date", value) ∈ values) (read : Calendar.readCanonical? value = some time)
    (put : putValues base row item values = .ok (made, warnings)) :
    made.publishDate = some time := by
  have found : readTime value = .ok time := by
    unfold readTime
    rw [read]
  rw [putValues_part (publishDate_isReadInto base) named put, fieldOf?_of_mem named member, found]
  rfl

/-- The link of an item is where the value of that name leads to from the page among values of
different names, and without a change if it leads nowhere. -/
theorem putValues_link {base : Url} {row : Nat} {item made : Item}
    {values : List (String × String)} {warnings : List Warning} {value : String}
    (named : (values.map Prod.fst).Nodup) (member : ("download", value) ∈ values)
    (put : putValues base row item values = .ok (made, warnings)) :
    made.link =
      match base.join value with
      | .ok url => url.write
      | .error _ => item.link := by
  rw [putValues_part (link_isReadInto base) named put, fieldOf?_of_mem named member, readAddress]
  cases base.join value <;> rfl

/-! ### Warnings -/

/-- Why an item cannot take a value of some name, if it knows the name and cannot. -/
def refusal? (base : Url) (name value : String) : Option Reason :=
  match name with
  | "download" | "details" | "comments" => causeOf? (readAddress base value)
  | "category" | "leechers" | "seeders" => causeOf? (readNumber value)
  | "size" => causeOf? (readSize value)
  | "date" => causeOf? (readTime value)
  | _ => none

theorem causeOf?_map {Part : Type} (reading : Except Reason Part) (put : Part → Item) :
    causeOf? (reading.map put) = causeOf? reading := by
  cases reading <;> rfl

/-- Whether an item takes a value does not depend on what it has taken before. -/
theorem causeOf?_withValue? (base : Url) (item : Item) (name value : String) :
    (withValue? base item name value).bind causeOf? = refusal? base name value := by
  unfold withValue?
  split
  case h_1 | h_2 | h_3 =>
    rw [withUrl_eq, Option.bind_some, causeOf?_map]
    rfl
  case h_4 | h_5 => rfl
  case h_6 | h_8 | h_9 =>
    rw [withNumber_eq, Option.bind_some, causeOf?_map]
    rfl
  case h_7 =>
    show (withValue? base item "size" value).bind causeOf? = causeOf? (readSize value)
    rw [withValue?_size, Option.bind_some, causeOf?_map]
  case h_10 =>
    show (withValue? base item "date" value).bind causeOf? = causeOf? (readTime value)
    rw [withValue?_date, Option.bind_some, causeOf?_map]
  case h_11 => unfold refusal?; split <;> simp_all

/-- The warning about a value under its name, if an item cannot take it. -/
def warningOf? (base : Url) (row : Nat) (field : String × String) : Option Warning :=
  (refusal? base field.1 field.2).map fun reason => ⟨row, field.1, field.2, reason⟩

/-- There is a warning about each value that an item cannot take, in their order, and no other. -/
theorem putValues_warnings {base : Url} {row : Nat} {item made : Item}
    {values : List (String × String)} {warnings : List Warning}
    (put : putValues base row item values = .ok (made, warnings)) :
    warnings = values.filterMap (warningOf? base row) := by
  induction values generalizing item warnings with
  | nil =>
    cases put
    rfl
  | cons head rest inductionHypothesis =>
    obtain ⟨name, value⟩ := head
    obtain ⟨outcome, others, found, putLater, told⟩ := putValues_cons_eq_ok put
    have cause := causeOf?_withValue? base item name value
    rw [found, Option.bind_some] at cause
    rw [told, inductionHypothesis putLater, cause]
    cases refused : refusal? base name value with
    | none =>
      rw [List.filterMap_cons_none (show warningOf? base row (name, value) = none by
        rw [warningOf?, refused]; rfl)]
      rfl
    | some reason =>
      rw [List.filterMap_cons_some (show warningOf? base row (name, value) =
        some ⟨row, name, value, reason⟩ by rw [warningOf?, refused]; rfl)]
      rfl

end Metasearch.Extraction
