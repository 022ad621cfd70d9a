/-
This file settles which item is made of the values of a row, whatever they are and however many of
them are malformed at once. Names that ascend are different ones, so that each part of an item is
told by the value of its own name. Only the peers are told by two: those who have the whole file
and those who do not are counted in the order of their names, from nothing, and the sum of two
numbers that can be read is cut off at most once.
-/
import Metasearch.Proofs.FieldOrder
import Metasearch.Proofs.IntegerTexts
import Metasearch.Proofs.RowValues

namespace Metasearch

/-! ### Names that ascend -/

theorem NamesAscend.nodup {Value : Type} {fields : List (String × Value)}
    (ascending : NamesAscend fields) : (fields.map Prod.fst).Nodup := by
  rw [List.Nodup, List.pairwise_map]
  refine ascending.imp fun before same => ?_
  rw [same] at before
  exact List.lt_irrefl _ before

/-- A name that does not come behind the first one is not among those behind it. -/
theorem NamesAscend.absent {Value : Type} {name : String} {value : Value}
    {fields : List (String × Value)} (ascending : NamesAscend ((name, value) :: fields))
    {other : String} (notBehind : ¬ Text.encode name.toList < Text.encode other.toList) :
    other ∉ fields.map Prod.fst := by
  intro member
  obtain ⟨field, present, rfl⟩ := List.mem_map.mp member
  exact notBehind ((List.pairwise_cons.mp ascending).1 field present)

namespace Extraction

open Definition (resultFields)

/-! ### Unknown names -/

/-- A name that no item knows, the first such name among some values by its bytes. -/
structure IsFirstUnknown (values : List (String × String)) (name : String) : Prop where
  among : name ∈ values.map Prod.fst
  unknown : name ∉ resultFields
  first : ∀ other ∈ values.map Prod.fst, other ∉ resultFields → other ≠ name →
    Text.encode name.toList < Text.encode other.toList

theorem isFirstUnknown_head {name value : String} {values : List (String × String)}
    (ascending : NamesAscend ((name, value) :: values)) (unknown : name ∉ resultFields) :
    IsFirstUnknown ((name, value) :: values) name where
  among := List.mem_cons_self
  unknown := unknown
  first := by
    intro other member _ different
    obtain ⟨field, present, rfl⟩ := List.mem_map.mp member
    rcases List.mem_cons.mp present with rfl | behind
    · exact absurd rfl different
    · exact (List.pairwise_cons.mp ascending).1 field behind

/-- A known name in front of others does not count. -/
theorem IsFirstUnknown.cons {head : String × String} {values : List (String × String)}
    {name : String} (first : IsFirstUnknown values name) (known : head.1 ∈ resultFields) :
    IsFirstUnknown (head :: values) name where
  among := List.mem_cons_of_mem _ first.among
  unknown := first.unknown
  first := by
    intro other member unknown different
    rcases List.mem_cons.mp member with rfl | behind
    · exact absurd known unknown
    · exact first.first other behind unknown different

theorem mem_resultFields_of_withValue? {base : Url} {item : Item} {name value : String}
    {outcome : Except Reason Item} (found : withValue? base item name value = some outcome) :
    name ∈ resultFields := by
  rw [← List.contains_iff_mem, ← withValue?_isSome base item name value, found]
  rfl

/-- Values that are put in have known names. -/
theorem putValues_known {base : Url} {row : Nat} {item made : Item}
    {values : List (String × String)} {warnings : List Warning}
    (put : putValues base row item values = .ok (made, warnings)) :
    ∀ field ∈ values, field.1 ∈ resultFields := by
  induction values generalizing item warnings with
  | nil => exact fun _ member => nomatch member
  | cons head rest inductionHypothesis =>
    obtain ⟨name, value⟩ := head
    obtain ⟨outcome, others, found, putLater, -⟩ := putValues_cons_eq_ok put
    exact List.forall_mem_cons.mpr
      ⟨mem_resultFields_of_withValue? found, inductionHypothesis putLater⟩

/-- Nothing but an unknown name keeps values from being put in, and it is the first one that is
told. -/
theorem putValues_error {base : Url} {row : Nat} {item : Item} {values : List (String × String)}
    {error : Definition.Error} (ascending : NamesAscend values)
    (put : putValues base row item values = .error error) :
    ∃ name, IsFirstUnknown values name ∧ error = .unknownField name := by
  induction values generalizing item with
  | nil => cases put
  | cons head rest inductionHypothesis =>
    obtain ⟨name, value⟩ := head
    have later : NamesAscend rest := (List.pairwise_cons.mp ascending).2
    rw [putValues] at put
    split at put
    case h_1 missing =>
      cases put
      have unknown : name ∉ resultFields := by
        rw [← List.contains_iff_mem, ← withValue?_isSome base item name value, missing]
        exact Bool.false_ne_true
      exact ⟨name, isFirstUnknown_head ascending unknown, rfl⟩
    case h_2 next taken =>
      obtain ⟨told, first, rfl⟩ := inductionHypothesis later put
      exact ⟨told, first.cons (mem_resultFields_of_withValue? taken), rfl⟩
    case h_3 reason refused =>
      rcases error_of_bind put with putLater | ⟨_, _, impossible⟩
      · obtain ⟨told, first, rfl⟩ := inductionHypothesis later putLater
        exact ⟨told, first.cons (mem_resultFields_of_withValue? refused), rfl⟩
      · cases impossible

/-! ### Peers -/

/-- A number of peers with a count added, if there is one. -/
def withCount (peers : Int) (count : Option Int) : Int :=
  count.elim peers (addWithin peers)

theorem peers_withNumber {item : Item} {put : Int → Item}
    (adds : ∀ count, (put count).peers = addWithin item.peers count) (value : String) :
    ((withNumber value put).toOption.getD item).peers =
      withCount item.peers (readNumber value).toOption := by
  rw [withNumber_eq]
  cases readNumber value with
  | error reason => rfl
  | ok count => exact adds count

/-- Both counts are added to the peers, in the order of their names. -/
theorem putValues_peers {base : Url} {row : Nat} {item made : Item}
    {values : List (String × String)} {warnings : List Warning} (ascending : NamesAscend values)
    (put : putValues base row item values = .ok (made, warnings)) :
    made.peers = withCount (withCount item.peers (fieldOf? values "leechers" readNumber))
      (fieldOf? values "seeders" readNumber) := by
  induction values generalizing item warnings with
  | nil =>
    cases put
    rfl
  | cons head rest inductionHypothesis =>
    obtain ⟨name, value⟩ := head
    obtain ⟨outcome, others, found, putLater, -⟩ := putValues_cons_eq_ok put
    rw [inductionHypothesis (List.pairwise_cons.mp ascending).2 putLater]
    by_cases leechers : name = "leechers"
    · subst leechers
      cases Option.some.inj found
      rw [fieldOf?_of_absent (ascending.absent (by decide)), fieldOf?_cons_self,
        fieldOf?_cons_of_ne (by decide), peers_withNumber fun _ => rfl]
      rfl
    by_cases seeders : name = "seeders"
    · -- The other count would stand in front of this one, so that it is not there at all.
      subst seeders
      cases Option.some.inj found
      have absent : "leechers" ∉ rest.map Prod.fst := ascending.absent (by decide)
      rw [fieldOf?_of_absent absent, fieldOf?_of_absent (ascending.absent (by decide)),
        fieldOf?_cons_self, fieldOf?_cons_of_ne (by decide), fieldOf?_of_absent absent,
        peers_withNumber fun _ => rfl]
      rfl
    · rw [fieldOf?_cons_of_ne leechers, fieldOf?_cons_of_ne seeders]
      cases outcome with
      | ok next =>
        have same := (withValue?_leavesOthers found).peers leechers seeders
        show withCount (withCount next.peers _) _ = _
        rw [same]
      | error reason => rfl

theorem isWithin_fieldOf? {values : List (String × String)} {name : String} {count : Int}
    (read : fieldOf? values name readNumber = some count) :
    Number.isWithin Number.maxSigned count = true := by
  obtain ⟨value, -, read⟩ := Option.bind_eq_some_iff.mp read
  cases outcome : readNumber value with
  | error reason =>
    rw [outcome] at read
    cases read
  | ok number =>
    rw [outcome] at read
    cases read
    exact Number.isWithin_readSigned (mapError_eq_ok.mp outcome)

/-- From nothing, the first of two counts is added without loss. -/
theorem withCount_withCount {leechers : Option Int}
    (within : ∀ count, leechers = some count → Number.isWithin Number.maxSigned count = true)
    (seeders : Option Int) :
    withCount (withCount 0 leechers) seeders =
      Number.clamp Number.maxSigned (leechers.getD 0 + seeders.getD 0) := by
  have whole : Number.clamp Number.maxSigned (leechers.getD 0) = leechers.getD 0 := by
    cases leechers with
    | none => rfl
    | some count => exact Number.clamp_of_isWithin (within count rfl)
  have first : withCount 0 leechers = leechers.getD 0 := by
    cases leechers with
    | none => rfl
    | some count =>
      show Number.clamp Number.maxSigned (0 + count) = count
      rw [Int.zero_add]
      exact whole
  rw [first]
  cases seeders with
  | some count => rfl
  | none =>
    show leechers.getD 0 = Number.clamp Number.maxSigned (leechers.getD 0 + 0)
    rw [Int.add_zero, whole]

/-! ### The item -/

/-- The item of a row part by part: each has the value of its own name as it is read, and its usual
value without one or with one that cannot be read. -/
def itemFrom (site : String) (base : Url) (values : List (String × String)) : Item :=
  { Item.ofSite site with
    title := (values.lookup "title").getD ""
    description := (values.lookup "description").getD ""
    link := (fieldOf? values "download" (readAddress base)).getD ""
    guid := (fieldOf? values "details" (readAddress base)).getD ""
    comments := (fieldOf? values "comments" (readAddress base)).getD ""
    category := (fieldOf? values "category" readNumber).getD 0
    size := (fieldOf? values "size" readSize).getD 0
    seeders := (fieldOf? values "seeders" readNumber).getD 0
    peers := Number.clamp Number.maxSigned ((fieldOf? values "leechers" readNumber).getD 0 +
      (fieldOf? values "seeders" readNumber).getD 0)
    publishDate := fieldOf? values "date" readTime }

theorem fieldOf?_ok (values : List (String × String)) (name : String) :
    fieldOf? values name .ok = values.lookup name := by
  unfold fieldOf?
  cases values.lookup name <;> rfl

theorem fieldOf?_map_some {Part : Type} (values : List (String × String)) (name : String)
    (reading : String → Except Reason Part) :
    (fieldOf? values name fun value => (reading value).map some).getD none =
      fieldOf? values name reading := by
  unfold fieldOf?
  cases values.lookup name with
  | none => rfl
  | some value =>
    show ((reading value).map some).toOption.getD none = (reading value).toOption
    cases reading value <;> rfl

/-- A part that no value is read into stays as it was. -/
theorem putValues_unread {Part : Type} {part : Item → Part} {base : Url}
    (unread : ∀ {item made name value}, withValue? base item name value = some (.ok made) →
      part made = part item) {row : Nat} {item made : Item} {values : List (String × String)}
    {warnings : List Warning} (put : putValues base row item values = .ok (made, warnings)) :
    part made = part item := by
  have each : ∀ next after name value, withValue? base next name value = some (.ok after) →
      part next = part item → part after = part item :=
    fun _ _ _ _ found same => (unread found).trans same
  exact putValues_keeps each rfl put

theorem eq_itemFrom {site : String} {row : Nat} {values : List (String × String)} {base : Url}
    {made : Item} {warnings : List Warning} (ascending : NamesAscend values)
    (built : buildItem site row values base = .ok (made, warnings)) :
    made = itemFrom site base values := by
  have named := ascending.nodup
  have sameSite : made.site = site :=
    putValues_unread (fun put => (withValue?_leavesOthers put).site) built
  have minimumRatio : made.minimumRatio = (Item.ofSite site).minimumRatio :=
    putValues_unread (fun put => (withValue?_leavesOthers put).minimumRatio) built
  have minimumSeedTime : made.minimumSeedTime = (Item.ofSite site).minimumSeedTime :=
    putValues_unread (fun put => (withValue?_leavesOthers put).minimumSeedTime) built
  have title := putValues_part (title_isReadInto base) named built
  have description := putValues_part (description_isReadInto base) named built
  have publishDate := putValues_part (publishDate_isReadInto base) named built
  have peers := putValues_peers ascending built
  rw [fieldOf?_ok] at title description
  rw [show (Item.ofSite site).publishDate = none from rfl, fieldOf?_map_some] at publishDate
  rw [show (Item.ofSite site).peers = 0 from rfl,
    withCount_withCount fun _ => isWithin_fieldOf?] at peers
  cases made
  simp only [itemFrom, Item.mk.injEq]
  exact ⟨sameSite, title, description, putValues_part (link_isReadInto base) named built,
    putValues_part (guid_isReadInto base) named built,
    putValues_part (comments_isReadInto base) named built,
    putValues_part (category_isReadInto base) named built,
    putValues_part (size_isReadInto base) named built,
    putValues_part (seeders_isReadInto base) named built, peers, publishDate, minimumRatio,
    minimumSeedTime⟩

/-! ### The warnings -/

theorem warningOf?_eq_some {base : Url} {row : Nat} {field : String × String} {warning : Warning} :
    warningOf? base row field = some warning ↔
      warning.row = row ∧ (warning.field, warning.value) = field ∧
        refusal? base warning.field warning.value = some warning.reason := by
  obtain ⟨name, value⟩ := field
  constructor
  · intro told
    obtain ⟨reason, refused, rfl⟩ := Option.map_eq_some_iff.mp told
    exact ⟨rfl, rfl, refused⟩
  · rintro ⟨rfl, same, refused⟩
    cases same
    rw [warningOf?, refused]
    rfl

/-- There is one warning for each malformed value, and they are in the order of names. -/
theorem namesAscend_warnings {base : Url} {row : Nat} {values : List (String × String)}
    (ascending : NamesAscend values) :
    NamesAscend ((values.filterMap (warningOf? base row)).map fun warning =>
      (warning.field, warning.value)) := by
  refine List.pairwise_map.mpr (ascending.filterMap _ fun before behind less first told second
    toldBehind => ?_)
  obtain ⟨-, rfl, -⟩ := warningOf?_eq_some.mp told
  obtain ⟨-, rfl, -⟩ := warningOf?_eq_some.mp toldBehind
  exact less

theorem mem_warnings {base : Url} {row : Nat} {values : List (String × String)}
    {warning : Warning} :
    warning ∈ values.filterMap (warningOf? base row) ↔
      warning.row = row ∧ (warning.field, warning.value) ∈ values ∧
        refusal? base warning.field warning.value = some warning.reason := by
  rw [List.mem_filterMap]
  constructor
  · rintro ⟨field, member, told⟩
    obtain ⟨number, rfl, refused⟩ := warningOf?_eq_some.mp told
    exact ⟨number, member, refused⟩
  · rintro ⟨number, member, refused⟩
    exact ⟨_, member, warningOf?_eq_some.mpr ⟨number, rfl, refused⟩⟩

/-- What comes of the values of a row, if they are in the order of their names. An unknown name,
and nothing else, keeps an item from being made, and the first of them is told. Otherwise each part
of the item is decided by the value of its name alone, the peers by both counts, and there is one
warning for each malformed value, in the order of names. -/
theorem buildItem_decided (site : String) (row : Nat) (base : Url)
    {values : List (String × String)} (ascending : NamesAscend values) :
    ((∃ error, buildItem site row values base = .error error) ↔
        ∃ field ∈ values, field.1 ∉ resultFields) ∧
      (∀ error, buildItem site row values base = .error error →
        ∃ name, IsFirstUnknown values name ∧ error = .unknownField name) ∧
      ((∀ field ∈ values, field.1 ∈ resultFields) →
        ∃ warnings, buildItem site row values base = .ok (itemFrom site base values, warnings) ∧
          NamesAscend (warnings.map fun warning => (warning.field, warning.value)) ∧
          ∀ warning, warning ∈ warnings ↔
            warning.row = row ∧ (warning.field, warning.value) ∈ values ∧
              refusal? base warning.field warning.value = some warning.reason) := by
  refine ⟨⟨?_, ?_⟩, fun error => putValues_error ascending, ?_⟩
  · rintro ⟨error, built⟩
    obtain ⟨name, first, -⟩ := putValues_error ascending built
    obtain ⟨field, member, rfl⟩ := List.mem_map.mp first.among
    exact ⟨field, member, first.unknown⟩
  · rintro ⟨field, member, unknown⟩
    cases built : buildItem site row values base with
    | error error => exact ⟨error, rfl⟩
    | ok made => exact absurd (putValues_known built field member) unknown
  · intro known
    obtain ⟨⟨made, warnings⟩, built⟩ := putValues_ok base row (Item.ofSite site) known
    obtain rfl := eq_itemFrom ascending built
    obtain rfl := putValues_warnings built
    exact ⟨_, built, namesAscend_warnings ascending, fun _ => mem_warnings⟩

/-- A row with numbers of peers at their lower end, and with parts that cannot be read. -/
def mixedRow : List (String × String) :=
  [("category", "forty"), ("details", "/details/1"), ("download", "http://["),
    ("leechers", "-9223372036854775808"), ("seeders", "-1"), ("size", "2 KB"), ("title", "x")]

/-- The item that is made of the row. -/
def mixedItem : Item :=
  { Item.ofSite "site" with
    title := "x", guid := "http://localhost/details/1", size := 2000, seeders := -1,
    peers := -9223372036854775808 }

/-- A row with two names that no item knows. -/
def misnamedRow : List (String × String) :=
  [("category", "forty"), ("colour", "red"), ("title", "x"), ("uploader", "bob")]

theorem buildItem_misnamedRow :
    buildItem "site" 3 misnamedRow Filter.anyBase = .error (.unknownField "colour") := by
  decide

theorem buildItem_decided_mixed :
    NamesAscend mixedRow ∧ NamesAscend misnamedRow ∧
      IsFirstUnknown misnamedRow "colour" ∧
      ∃ warnings, buildItem "site" 3 mixedRow Filter.anyBase = .ok (mixedItem, warnings) ∧
        ⟨3, "category", "forty", .integer .invalidDigit⟩ ∈ warnings ∧
        ⟨3, "download", "http://[", .url .badSix⟩ ∈ warnings := by
  have mixed : NamesAscend mixedRow := by
    unfold NamesAscend
    decide
  have misnamed : NamesAscend misnamedRow := by
    unfold NamesAscend
    decide
  obtain ⟨-, told, -⟩ := buildItem_decided "site" 3 Filter.anyBase misnamed
  obtain ⟨name, first, same⟩ := told _ buildItem_misnamedRow
  cases same
  obtain ⟨-, -, made⟩ := buildItem_decided "site" 3 Filter.anyBase mixed
  obtain ⟨warnings, built, -, iff⟩ := made (by decide)
  rw [show itemFrom "site" Filter.anyBase mixedRow = mixedItem by decide +kernel] at built
  exact ⟨mixed, misnamed, first, warnings, built, (iff _).mpr (by decide +kernel),
    (iff _).mpr (by decide +kernel)⟩

end Extraction

end Metasearch
