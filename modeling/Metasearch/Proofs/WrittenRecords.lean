/-
This file settles that requests and items are read back from the JSON that is written for them, as
a value as well as a text. What is written of a record fills its fields in the order of their
declaration, and a field that is left out has the value that a record starts with.

A request has to fit: its counts and categories are numbers of 64 bits. An item that is made of the
values of a row always does, whatever the values are.
-/
import Metasearch.Document.Item
import Metasearch.Document.Query
import Metasearch.Proofs.JsonTexts
import Metasearch.Proofs.ReadTimestamps
import Metasearch.Proofs.RowValues
import Metasearch.Proofs.SizeTexts

namespace Metasearch

namespace Json

/-! ### Fields in the order of their declaration -/

section Fields

variable {Record Value : Type}

/-- The values of fields, put in one after the other, lead from one record to another; a field that
is not required may be left out. -/
inductive Fills : List (Slot Record) → List (String × Json) → Record → Record → Prop
  | done {record : Record} : Fills [] [] record record
  | put {slot : Slot Record} {slots : List (Slot Record)} {json : Json}
      {fields : List (String × Json)} {before between after : Record}
      (puts : slot.put json before = .ok between) (later : Fills slots fields between after) :
      Fills (slot :: slots) ((slot.name, json) :: fields) before after
  | leaveOut {slot : Slot Record} {slots : List (Slot Record)} {fields : List (String × Json)}
      {before after : Record} (free : slot.presence ≠ .required)
      (later : Fills slots fields before after) : Fills (slot :: slots) fields before after

/-- What has been read where some slots are dealt with: names of theirs alone, and those of the
required ones. -/
structure HasRead (front : List (Slot Record)) (seen : List String) : Prop where
  known : ∀ name ∈ seen, name ∈ front.map Slot.name
  settled : ∀ slot ∈ front, slot.presence = .required → slot.name ∈ seen

theorem hasRead_start : HasRead ([] : List (Slot Record)) [] := by
  constructor <;> rintro _ ⟨⟩

theorem HasRead.put {front : List (Slot Record)} {seen : List String}
    (read : HasRead front seen) (slot : Slot Record) :
    HasRead (front ++ [slot]) (slot.name :: seen) := by
  constructor
  · intro name member
    rw [List.map_append, List.mem_append]
    rcases List.mem_cons.mp member with rfl | before
    · exact .inr List.mem_cons_self
    · exact .inl (read.known name before)
  · intro other member required
    rcases List.mem_append.mp member with before | here
    · exact List.mem_cons_of_mem _ (read.settled other before required)
    · rw [List.mem_singleton.mp here]
      exact List.mem_cons_self

theorem HasRead.leaveOut {front : List (Slot Record)} {seen : List String}
    (read : HasRead front seen) {slot : Slot Record} (free : slot.presence ≠ .required) :
    HasRead (front ++ [slot]) seen := by
  constructor
  · intro name member
    rw [List.map_append, List.mem_append]
    exact .inl (read.known name member)
  · intro other member required
    rcases List.mem_append.mp member with before | here
    · exact read.settled other before required
    · rw [List.mem_singleton.mp here] at required
      exact absurd required free

/-- When every slot is dealt with, no required field is missing. -/
theorem HasRead.putFields_nil {slots : List (Slot Record)} {seen : List String}
    (read : HasRead slots seen) (record : Record) :
    putFields slots seen record [] = .ok record := by
  have nothing : slots.find? (fun slot : Slot Record =>
      slot.presence == .required && !seen.contains slot.name) = none := by
    rw [List.find?_eq_none]
    intro slot member missing
    simp only [Bool.and_eq_true, beq_iff_eq, Bool.not_eq_true', List.contains_eq_mem,
      decide_eq_false_iff_not] at missing
    exact missing.2 (read.settled slot member missing.1)
  rw [putFields, nothing]

/-- The field of the slot behind those that are dealt with is put in. -/
theorem HasRead.putFields_cons {front slots : List (Slot Record)} {seen : List String}
    (read : HasRead front seen) {slot : Slot Record}
    (distinct : ((front ++ slot :: slots).map Slot.name).Nodup) {json : Json}
    {before between : Record} (puts : slot.put json before = .ok between)
    (fields : List (String × Json)) :
    putFields (front ++ slot :: slots) seen before ((slot.name, json) :: fields) =
      putFields (front ++ slot :: slots) (slot.name :: seen) between fields := by
  have new : slot.name ∉ front.map Slot.name := by
    rw [List.map_append, List.nodup_append'] at distinct
    exact fun member => distinct.2.2 member List.mem_cons_self
  have none : front.find? (fun other => other.name == slot.name) = none := by
    rw [List.find?_eq_none]
    intro other member same
    exact new (List.mem_map.mpr ⟨other, member, eq_of_beq same⟩)
  have found : (front ++ slot :: slots).find? (fun other => other.name == slot.name) =
      some slot := by
    rw [List.find?_append, none, Option.none_or, List.find?_cons_of_pos (by simp)]
  have unseen : seen.contains slot.name = false := by
    simpa using fun member => new (read.known slot.name member)
  rw [putFields, found]
  simp only [unseen, puts]
  rfl

theorem putFields_behind {slots : List (Slot Record)} {fields : List (String × Json)}
    {before after : Record} (fills : Fills slots fields before after)
    {front : List (Slot Record)} {seen : List String} (read : HasRead front seen)
    (distinct : ((front ++ slots).map Slot.name).Nodup) :
    putFields (front ++ slots) seen before fields = .ok after := by
  -- Slot by slot the one at the seam goes to the front, and `HasRead` goes with it.
  induction fills generalizing front seen with
  | done =>
    rw [List.append_nil]
    exact read.putFields_nil _
  | @put slot slots json fields before between after puts later inductionHypothesis =>
    rw [read.putFields_cons distinct puts, List.append_cons]
    exact inductionHypothesis (read.put slot) (by rwa [← List.append_cons])
  | @leaveOut slot slots fields before after free later inductionHypothesis =>
    rw [List.append_cons]
    exact inductionHypothesis (read.leaveOut free) (by rwa [← List.append_cons])

/-- Fields that fill a record are read as that record. -/
theorem putFields_of_fills {slots : List (Slot Record)} {fields : List (String × Json)}
    {before after : Record} (fills : Fills slots fields before after)
    (distinct : (slots.map Slot.name).Nodup) :
    putFields slots [] before fields = .ok after :=
  putFields_behind fills hasRead_start distinct

theorem Fills.field {slots : List (Slot Record)} {fields : List (String × Json)} {name : String}
    {presence : Presence} {reading : Reading Value} {set : Value → Record → Record} {json : Json}
    {value : Value} {before after : Record} (reads : reading json = .ok value)
    (later : Fills slots fields (set value before) after) :
    Fills (.of name presence reading set :: slots) ((name, json) :: fields) before after := by
  refine .put ?_ later
  show (reading json).map (fun value => set value before) = _
  rw [reads]
  rfl

/-- A field may be left out where its value is the one that the record has already. -/
theorem Fills.unless {slots : List (Slot Record)} {fields : List (String × Json)} {name : String}
    {reading : Reading Value} {set : Value → Record → Record} {json : Json} {value : Value}
    {leftOut : Prop} [Decidable leftOut] {before after : Record}
    (reads : ¬ leftOut → reading json = .ok value) (start : leftOut → set value before = before)
    (later : Fills slots fields (set value before) after) :
    Fills (.of name .defaulted reading set :: slots)
      ((if leftOut then [] else [(name, json)]) ++ fields) before after := by
  by_cases out : leftOut
  · rw [if_pos out]
    rw [start out] at later
    exact .leaveOut (show Presence.defaulted ≠ .required by decide) later
  · rw [if_neg out]
    exact .field (reads out) later

theorem Fills.ifSome {slots : List (Slot Record)} {fields : List (String × Json)} {name : String}
    {reading : Reading (Option Value)} {set : Option Value → Record → Record}
    {write : Value → Json} {value : Option Value} {before after : Record}
    (reads : ∀ item ∈ value, reading (write item) = .ok (some item))
    (start : set none before = before) (later : Fills slots fields (set value before) after) :
    Fills (.of name .defaulted reading set :: slots)
      (Query.fieldIfSome name write value ++ fields) before after := by
  cases value with
  | none =>
    rw [start] at later
    exact .leaveOut (show Presence.defaulted ≠ .required by decide) later
  | some item => exact .field (reads item rfl) later

theorem Fills.ifNotEmpty {slots : List (Slot Record)} {fields : List (String × Json)}
    {name : String} {set : String → Record → Record} {text : String} {before after : Record}
    (start : set "" before = before) (later : Fills slots fields (set text before) after) :
    Fills (.of name .defaulted asText set :: slots)
      (Item.fieldIfNotEmpty name text ++ fields) before after := by
  refine .unless (fun _ => rfl) (fun empty => ?_) later
  rw [String.isEmpty_iff.mp empty, start]

end Fields

/-! ### Numbers -/

theorem fitsNumber_of_isWithin {value : Int}
    (within : Number.isWithin Number.maxSigned value = true) : fitsNumber value = true := by
  obtain ⟨low, high⟩ := (Bool.and_eq_true _ _).mp within
  have greater : (Number.maxSigned : Int) ≤ Number.maxUnsigned := by decide
  exact (Bool.and_eq_true _ _).mpr
    ⟨low, decide_eq_true (Int.le_trans (of_decide_eq_true high) greater)⟩

theorem fitsNumber_of_le {value : Nat} (within : value ≤ Number.maxUnsigned) :
    fitsNumber (value : Int) = true := by
  have low : -(Number.maxSigned : Int) - 1 ≤ 0 := by decide
  exact (Bool.and_eq_true _ _).mpr
    ⟨decide_eq_true (Int.le_trans low (Int.natCast_nonneg value)),
      decide_eq_true (Int.ofNat_le.mpr within)⟩

theorem asSigned_int {value : Int} (within : Number.isWithin Number.maxSigned value = true) :
    asSigned (.int value) = .ok value := by
  simp only [asSigned, within, if_true]

theorem asUnsigned_int (kind : String) (value : Nat) :
    asUnsigned kind (.int value) = .ok value := by
  simp [asUnsigned]

theorem asOptional_int (kind : String) (value : Nat) :
    asOptional (asUnsigned kind) (.int value) = .ok (some value) := by
  show (asUnsigned kind (.int value)).map some = _
  rw [asUnsigned_int]
  rfl

theorem asList_asSigned {values : List Int}
    (within : ∀ value ∈ values, Number.isWithin Number.maxSigned value = true) :
    asList asSigned (.list (values.map .int)) = .ok values := by
  show (values.map Json.int).mapM asSigned = .ok values
  induction values with
  | nil => rfl
  | cons value values inductionHypothesis =>
    obtain ⟨here, later⟩ := List.forall_mem_cons.mp within
    rw [List.map_cons, List.mapM_cons, asSigned_int here, inductionHypothesis later]
    rfl

/-! ### Records that are read back -/

/-- A record is read back from the JSON that is written for it: from the value, and from its text
on one line and over several. -/
structure ReadsBack {Record : Type} (ofJson : Origin → Reading Record) (json : Json)
    (record : Record) : Prop where
  value : ofJson .value json = .ok record
  line : (read? (write json)).map (ofJson .text) = some (.ok record)
  lines : (read? (writeSpread json)).map (ofJson .text) = some (.ok record)

theorem readsBack_of_isPlain {Record : Type} {ofJson : Origin → Reading Record} {json : Json}
    {record : Record} (plain : IsPlain json) (reads : ∀ origin, ofJson origin json = .ok record) :
    ReadsBack ofJson json record := by
  refine ⟨reads .value, ?_, ?_⟩
  · rw [read?_write plain, Option.map_some, reads]
  · rw [read?_writeSpread plain, Option.map_some, reads]

theorem isPlain_ifSome {Value : Type} {name : String} {write : Value → Json}
    {value : Option Value} (plain : ∀ item ∈ value, IsPlain (write item)) :
    ∀ field ∈ Query.fieldIfSome name write value, IsPlain field.2 := by
  cases value with
  | none => exact List.forall_mem_nil _
  | some item => exact List.forall_mem_singleton.mpr (plain item rfl)

theorem isPlain_ifNotEmpty (name text : String) :
    ∀ field ∈ Item.fieldIfNotEmpty name text, IsPlain field.2 := by
  unfold Item.fieldIfNotEmpty
  split
  · exact List.forall_mem_nil _
  · exact List.forall_mem_singleton.mpr (.text text)

end Json

open Json (IsPlain ReadsBack Fills)

/-! ### Requests -/

namespace Query

/-- The numbers of a request fit 64 bits. -/
structure IsHeld (query : Query) : Prop where
  categories : ∀ id ∈ query.categories, Number.isWithin Number.maxSigned id = true
  limit : ∀ count ∈ query.limit, count ≤ Number.maxUnsigned
  offset : ∀ count ∈ query.offset, count ≤ Number.maxUnsigned

variable {query : Query}

/-- The fields that are written of a request, one behind the other. -/
theorem toJson_eq (query : Query) :
    query.toJson = .object (("mode", .text query.mode) :: ("keywords", .text query.keywords) ::
      ((if query.categories.isEmpty then []
        else [("categories", .list (query.categories.map .int))]) ++
      (fieldIfSome "limit" (fun count : Nat => .int count) query.limit ++
      (fieldIfSome "offset" (fun count : Nat => .int count) query.offset ++
      (fieldIfSome "season" .text query.season ++ (fieldIfSome "episode" .text query.episode ++
      fieldIfSome "imdb_id" .text query.imdbId)))))) := by
  have counted : ∀ (name : String) (count : Option Nat),
      fieldIfSome name Json.int (count >>= fun count => pure (count : Int)) =
        fieldIfSome name (fun count : Nat => .int count) count := by
    intro name count
    cases count <;> rfl
  simp only [toJson, counted, List.append_assoc, List.cons_append, List.nil_append]

theorem IsHeld.isPlain_toJson (held : query.IsHeld) : IsPlain query.toJson := by
  rw [toJson_eq]
  refine .object ?_
  simp only [List.forall_mem_append, List.forall_mem_cons]
  refine ⟨.text _, .text _, ?_, ?_, ?_, ?_, ?_, ?_⟩
  · split
    · exact List.forall_mem_nil _
    · refine List.forall_mem_singleton.mpr (.list ?_)
      rintro _ member
      obtain ⟨id, among, rfl⟩ := List.mem_map.mp member
      exact .int (Json.fitsNumber_of_isWithin (held.categories id among))
  · exact Json.isPlain_ifSome fun count member =>
      .int (Json.fitsNumber_of_le (held.limit count member))
  · exact Json.isPlain_ifSome fun count member =>
      .int (Json.fitsNumber_of_le (held.offset count member))
  · exact Json.isPlain_ifSome fun text _ => .text text
  · exact Json.isPlain_ifSome fun text _ => .text text
  · exact Json.isPlain_ifSome fun text _ => .text text

theorem IsHeld.ofJson_toJson (held : query.IsHeld) (origin : Json.Origin) :
    ofJson origin query.toJson = .ok query := by
  rw [toJson_eq]
  refine Json.putFields_of_fills ?_ (by decide)
  refine .field rfl (.field rfl ?_)
  refine .unless (fun _ => Json.asList_asSigned held.categories) (fun none => ?_) ?_
  · rw [List.isEmpty_iff.mp none]
    rfl
  refine .ifSome (fun _ _ => Json.asOptional_int _ _) rfl
    (.ifSome (fun _ _ => Json.asOptional_int _ _) rfl ?_)
  refine .ifSome (fun _ _ => rfl) rfl (.ifSome (fun _ _ => rfl) rfl ?_)
  rw [← List.append_nil (fieldIfSome "imdb_id" _ _)]
  exact .ifSome (fun _ _ => rfl) rfl .done

end Query

/-! ### Items -/

namespace Item

/-- The numbers of an item fit 64 bits, its date is one that the canonical form gives, and its
ratio and seeding time are the usual ones. -/
structure IsHeld (item : Item) : Prop where
  category : Number.isWithin Number.maxSigned item.category = true
  size : item.size ≤ Number.maxUnsigned
  seeders : Number.isWithin Number.maxSigned item.seeders = true
  peers : Number.isWithin Number.maxSigned item.peers = true
  publishDate : ∀ time ∈ item.publishDate, ∃ text, Calendar.readCanonical? text = some time
  minimumRatio : item.minimumRatio = ⟨false, .ofNat 1⟩
  minimumSeedTime : item.minimumSeedTime = usualSeedTime

variable {item : Item}

/-- How a date is written. -/
def writtenDate (date : Option Calendar.Timestamp) : Json :=
  date.elim .null fun time => .text (Calendar.writeCanonical time)

/-- The fields that are written of an item, one behind the other. -/
theorem toJson_eq (item : Item) :
    item.toJson = .object (("site", .text item.site) :: ("title", .text item.title) ::
      (fieldIfNotEmpty "description" item.description ++
      ("link", .text item.link) :: ("guid", .text item.guid) ::
      (fieldIfNotEmpty "comments" item.comments ++
      [("category", .int item.category), ("size", .int item.size), ("seeders", .int item.seeders),
        ("peers", .int item.peers), ("publish_date", writtenDate item.publishDate),
        ("minimum_ratio", .real item.minimumRatio.negative item.minimumRatio.size),
        ("minimum_seed_time", .int item.minimumSeedTime)]))) := by
  simp only [toJson, List.append_assoc, List.cons_append, List.nil_append]
  cases item.publishDate <;> rfl

theorem isPlain_writtenDate (date : Option Calendar.Timestamp) : IsPlain (writtenDate date) := by
  cases date with
  | none => exact .null
  | some time => exact .text _

theorem IsHeld.isPlain_toJson (held : item.IsHeld) : IsPlain item.toJson := by
  have ratio : IsPlain (.real item.minimumRatio.negative item.minimumRatio.size) := by
    rw [held.minimumRatio]
    exact .real Json.isLeaf_one
  have seedTime : item.minimumSeedTime ≤ Number.maxUnsigned := by
    rw [held.minimumSeedTime]
    decide
  rw [toJson_eq]
  refine .object ?_
  simp only [List.forall_mem_append, List.forall_mem_cons]
  refine ⟨.text _, .text _, Json.isPlain_ifNotEmpty _ _, .text _, .text _,
    Json.isPlain_ifNotEmpty _ _, .int (Json.fitsNumber_of_isWithin held.category),
    .int (Json.fitsNumber_of_le held.size), .int (Json.fitsNumber_of_isWithin held.seeders),
    .int (Json.fitsNumber_of_isWithin held.peers), isPlain_writtenDate _, ratio,
    .int (Json.fitsNumber_of_le seedTime), ?_⟩
  exact List.forall_mem_nil _

/-- A date that the canonical form gives is read back. -/
theorem IsHeld.readDate_writtenDate (held : item.IsHeld) :
    readDate (writtenDate item.publishDate) = .ok item.publishDate := by
  cases found : item.publishDate with
  | none => rfl
  | some time =>
    obtain ⟨text, read⟩ := held.publishDate time found
    have asWritten : (Json.asOptional Json.asText) (.text (Calendar.writeCanonical time)) =
        .ok (some (Calendar.writeCanonical time)) := rfl
    show readDate (.text (Calendar.writeCanonical time)) = _
    simp only [readDate, Json.asChecked, asWritten, bind, Except.bind,
      Calendar.readCanonical?_rewritten read]
    rfl

theorem IsHeld.ofJson_toJson (held : item.IsHeld) (origin : Json.Origin) :
    ofJson origin item.toJson = .ok item := by
  rw [toJson_eq]
  refine Json.putFields_of_fills ?_ (by decide)
  refine .field rfl (.field rfl (.ifNotEmpty rfl (.field rfl (.field rfl (.ifNotEmpty rfl ?_)))))
  refine .field (Json.asSigned_int held.category) (.field (Json.asUnsigned_int _ _) ?_)
  refine .field (Json.asSigned_int held.seeders) (.field (Json.asSigned_int held.peers) ?_)
  refine .field held.readDate_writtenDate (.field rfl (.field (Json.asUnsigned_int _ _) ?_))
  exact .done

end Item

/-! ### Items of rows -/

namespace Extraction

theorem isHeld_ofSite (site : String) : (Item.ofSite site).IsHeld where
  category := show Number.isWithin Number.maxSigned 0 = true by decide
  size := Nat.zero_le _
  seeders := show Number.isWithin Number.maxSigned 0 = true by decide
  peers := show Number.isWithin Number.maxSigned 0 = true by decide
  publishDate := fun _ member => nomatch member
  minimumRatio := rfl
  minimumSeedTime := rfl

/-- A value that an item takes leaves it one whose numbers fit. -/
theorem isHeld_withValue? {base : Url} {item made : Item} {name value : String}
    (put : withValue? base item name value = some (.ok made)) (held : item.IsHeld) :
    made.IsHeld := by
  unfold withValue? at put
  split at put <;> simp only [Option.some.injEq, reduceCtorEq] at put
  case h_1 | h_2 | h_3 =>
    obtain ⟨_, _, rfl⟩ := map_eq_ok.mp put
    exact { held with }
  case h_4 | h_5 =>
    cases put
    exact { held with }
  case h_6 =>
    obtain ⟨category, read, rfl⟩ := map_eq_ok.mp put
    exact { held with category := Number.isWithin_readSigned (mapError_eq_ok.mp read) }
  case h_7 =>
    split at put
    · next size read =>
      cases put
      exact { held with size := ByteSize.le_of_read read }
    · cases put
  case h_8 =>
    obtain ⟨count, read, rfl⟩ := map_eq_ok.mp put
    exact { held with peers := Number.isWithin_clamp _ _ }
  case h_9 =>
    obtain ⟨seeders, read, rfl⟩ := map_eq_ok.mp put
    exact { held with
      seeders := Number.isWithin_readSigned (mapError_eq_ok.mp read)
      peers := Number.isWithin_clamp _ _ }
  case h_10 =>
    split at put
    · next time read =>
      cases put
      refine { held with publishDate := ?_ }
      rintro _ ⟨⟩
      exact ⟨value, read⟩
    · cases put

/-- Whatever the values of a row are, the numbers of the item made of them fit. -/
theorem isHeld_buildItem {site : String} {row : Nat} {values : List (String × String)} {base : Url}
    {item : Item} {warnings : List Warning}
    (built : buildItem site row values base = .ok (item, warnings)) : item.IsHeld :=
  putValues_keeps (fun _ _ _ _ => isHeld_withValue?) (isHeld_ofSite site) built

end Extraction

/-- Every request whose numbers fit 64 bits, and every item that is made of the values of a row, is
read back from the JSON that is written for it. -/
theorem records_readBack :
    (∀ query : Query, query.IsHeld → ReadsBack Query.ofJson query.toJson query) ∧
      ∀ (site : String) (row : Nat) (values : List (String × String)) (base : Url) (item : Item)
        (warnings : List Extraction.Warning),
        Extraction.buildItem site row values base = .ok (item, warnings) →
          ReadsBack Item.ofJson item.toJson item := by
  constructor
  · intro query held
    exact Json.readsBack_of_isPlain held.isPlain_toJson held.ofJson_toJson
  · intro site row values base item warnings built
    have held := Extraction.isHeld_buildItem built
    exact Json.readsBack_of_isPlain held.isPlain_toJson held.ofJson_toJson

/-- A request with numbers at both ends of their ranges. -/
def widestQuery : Query :=
  ⟨"search", "a \"b\"\n", [-9223372036854775808, 9223372036854775807],
    some 18446744073709551615, none, some "", none, some "tt0"⟩

theorem isHeld_widestQuery : widestQuery.IsHeld := by
  constructor <;> decide

/-- The values of a row, among them numbers beyond what an item takes and a leap second. -/
def widestRow : List (String × String) :=
  [("title", "Last second"), ("category", "-9223372036854775808"),
    ("seeders", "9223372036854775807"), ("leechers", "1"), ("size", "30000 PB"),
    ("date", "Sat, 31 Dec 2016 23:59:60 +0000")]

/-- The item that is made of the row. -/
def widestItem : Item :=
  { Item.ofSite "site" with
    title := "Last second", category := -9223372036854775808, size := 18446744073709551615,
    seeders := 9223372036854775807, peers := 9223372036854775807,
    publishDate := some ⟨⟨1483228799, 1000000000⟩, 0⟩ }

theorem buildItem_widestRow :
    Extraction.buildItem "site" 1 widestRow Filter.anyBase = .ok (widestItem, []) := by
  decide

theorem records_readBack_widest :
    widestQuery.IsHeld ∧ ReadsBack Query.ofJson widestQuery.toJson widestQuery ∧
      Extraction.buildItem "site" 1 widestRow Filter.anyBase = .ok (widestItem, []) ∧
      ReadsBack Item.ofJson widestItem.toJson widestItem := by
  obtain ⟨requests, items⟩ := records_readBack
  exact ⟨isHeld_widestQuery, requests widestQuery isHeld_widestQuery, buildItem_widestRow,
    items "site" 1 widestRow Filter.anyBase widestItem [] buildItem_widestRow⟩

end Metasearch
