/-
This file settles what a variable of the environment does that overrides a setting of a site. If its
value is read as a text, the settings are those without it, with that text for the key of the site;
else nothing can be loaded. So the value is taken as it stands exactly if it is read as itself: if
nothing can be trimmed off it and it is no number, no truth value, and no text, list or table in its
marks.
-/
import Metasearch.Proofs.OverlaidTables
import Metasearch.Proofs.VariableNames
import Metasearch.Proofs.VariableValues
import Metasearch.Settings.File
import Metasearch.Settings.Store

namespace Metasearch.Settings

open Json (Reading valuesOf)

/-! ### The variables -/

/-- What one more variable sets. -/
def withVariable (json : Json) (binding : String × String) : Json :=
  match pathOf? binding.1 with
  | some path => overlay json (nested path (valueOf binding.2))
  | none => json

theorem ofEnvironment_eq (environment : List (String × String)) :
    ofEnvironment environment = environment.foldl withVariable (.object []) := rfl

/-- What the variables set is a table, since every name leads through keys. -/
theorem fold_table (environment : List (String × String)) (fields : List (String × Json)) :
    ∃ others, environment.foldl withVariable (.object fields) = .object others := by
  induction environment generalizing fields with
  | nil => exact ⟨fields, rfl⟩
  | cons binding rest inductionHypothesis =>
    obtain ⟨others, table⟩ : ∃ others, withVariable (.object fields) binding = .object others := by
      unfold withVariable
      split
      · next path leads =>
        obtain ⟨name, names, rfl⟩ := List.exists_cons_of_ne_nil (pathOf_ne_nil leads)
        exact ⟨_, overlay_table _ _⟩
      · exact ⟨fields, rfl⟩
    rw [List.foldl_cons, table]
    exact inductionHypothesis others

theorem overlay_ofEnvironment (tree : Json) (environment : List (String × String)) :
    ∃ fields, overlay tree (ofEnvironment environment) = .object fields := by
  obtain ⟨others, table⟩ := fold_table environment []
  exact ⟨_, (congrArg (overlay tree) table).trans (overlay_table tree others)⟩

/-- A name leads neither through keys nor to what is on their way. -/
def LeadsApart (keys : List String) (name : String) : Prop :=
  ∀ path, pathOf? name = some path → ¬ keys <+: path ∧ ¬ path <+: keys

variable {allowed : Json → Prop} {keys : List String}

/-- What is changed behind keys stays changed when variables come that lead apart from them. -/
theorem Changed.fold_apart {before after : Json} {environment : List (String × String)}
    (changed : Changed allowed keys before after)
    (apart : ∀ binding ∈ environment, LeadsApart keys binding.1) :
    Changed allowed keys (environment.foldl withVariable before)
      (environment.foldl withVariable after) := by
  induction environment generalizing before after with
  | nil => exact changed
  | cons binding rest inductionHypothesis =>
    obtain ⟨here, later⟩ := List.forall_mem_cons.mp apart
    refine inductionHypothesis ?_ later
    unfold withVariable
    split
    · next path leads => exact changed.overlay_apart (here path leads).1 (here path leads).2 _
    · exact changed

/-- One variable changes what it leads to, if no later one meets it. -/
theorem changed_ofEnvironment {before later : List (String × String)} {name value : String}
    (leads : pathOf? name = some keys)
    (apart : ∀ binding ∈ later, LeadsApart keys binding.1)
    (allows : ∀ below, allowed (overlay below (valueOf value))) :
    Changed allowed keys (ofEnvironment (before ++ later))
      (ofEnvironment (before ++ (name, value) :: later)) := by
  rw [ofEnvironment_eq, ofEnvironment_eq, List.foldl_append, List.foldl_append, List.foldl_cons]
  refine Changed.fold_apart ?_ apart
  have sets : withVariable (before.foldl withVariable (.object [])) (name, value) =
      overlay (before.foldl withVariable (.object [])) (nested keys (valueOf value)) := by
    rw [withVariable, leads]
  rw [sets]
  exact changed_overlay_nested allows _

/-! ### The sections of the sites -/

/-- The settings with a text for a key of a site. -/
def withKey (settings : Settings) (site key text : String) : Settings :=
  let pairs := (settings.indexers.lookup site).getD []
  { settings with
    indexers := Json.insertField site (Json.insertField key text pairs) settings.indexers }

/-- The text is found, and all other keys have what they had. -/
theorem get_withKey (settings : Settings) (site key text otherSite otherKey : String) :
    (Store.ofSettings (settings.withKey site key text)).get otherSite otherKey =
      if otherSite = site ∧ otherKey = key then .ok (some text)
      else (Store.ofSettings settings).get otherSite otherKey := by
  unfold Store.get Store.ask Store.keysOf Store.ofSettings withKey
  dsimp only
  rw [Json.lookup_insertField]
  by_cases sameSite : otherSite = site
  · subst sameSite
    rw [if_pos rfl, Option.getD_some, Json.lookup_insertField]
    by_cases sameKey : otherKey = key <;> simp [sameKey]
  · rw [if_neg sameSite, if_neg fun same => sameSite same.1]

/-! ### Sections read again -/

section Correspondence

variable {Left Right : Type} {relation : Left → Right → Prop} {lefts : List Left}
  {rights : List Right}

theorem forall₂_exists_left (each : List.Forall₂ relation lefts rights) :
    ∀ right ∈ rights, ∃ left ∈ lefts, relation left right := by
  induction each with
  | nil => exact nofun
  | cons here _ inductionHypothesis =>
    refine List.forall_mem_cons.mpr ⟨⟨_, List.mem_cons_self, here⟩, fun right member => ?_⟩
    obtain ⟨left, among, related⟩ := inductionHypothesis right member
    exact ⟨left, List.mem_cons_of_mem _ among, related⟩

/-- What corresponds to each other in two lists corresponds at their ends. -/
theorem forall₂_getLast? (each : List.Forall₂ relation lefts rights) (some : lefts ≠ []) :
    ∃ left right, lefts.getLast? = Option.some left ∧ rights.getLast? = Option.some right ∧
      relation left right := by
  obtain ⟨left, restLeft, leftEnd⟩ :=
    List.exists_cons_of_ne_nil (mt List.reverse_eq_nil_iff.mp some)
  have backwards := List.forall₂_reverse_iff.mpr each
  rw [leftEnd] at backwards
  obtain ⟨right, restRight, here, -, rightEnd⟩ := List.forall₂_cons_left_iff.mp backwards
  exact ⟨left, right, by rw [← List.head?_reverse, leftEnd, List.head?_cons],
    by rw [← List.head?_reverse, rightEnd, List.head?_cons], here⟩

end Correspondence

/-- Some value of the first key is changed along the other keys. -/
theorem Changed.exists_value {name : String} {names : List String} {before after : Json}
    (changed : Changed allowed (name :: names) before after) :
    ∃ fields below value, after = .object fields ∧ value ∈ valuesOf name fields ∧
      Changed allowed names below value := by
  obtain ⟨fields, rfl, -, each⟩ := changed
  obtain ⟨below, value, -, last, here⟩ := forall₂_getLast? each (valuesOrTable_ne_nil _ _)
  exact ⟨fields, below, value, rfl, List.mem_of_getLast? last, here⟩

/-- A value is what was read before, or an empty table in the place of nothing. -/
def WasRead {Value : Type} (reading : Reading Value) (prior : Option Value) (json : Json) : Prop :=
  match prior with
  | none => json = .object []
  | some value => reading json = .ok value

/-- Where every changed value is read, the map is read with what comes of the last. -/
theorem asMap_changed {Value : Type} {reading : Reading Value} {change : Option Value → Value}
    {name : String} {names : List String} {before after : Json} {read : List (String × Value)}
    (success : Json.asMap reading before = .ok read)
    (changed : Changed allowed (name :: names) before after)
    (step : ∀ prior below json, WasRead reading prior below →
      Changed allowed names below json → reading json = .ok (change prior)) :
    Json.asMap reading after = .ok (Json.insertField name (change (read.lookup name)) read) := by
  obtain ⟨fields, rfl⟩ : ∃ fields, before = .object fields := by
    cases before with
    | object fields => exact ⟨fields, rfl⟩
    | _ => cases success
  obtain ⟨others, rfl, same, each⟩ := changed
  change List.Forall₂ _ (valuesOrTable name fields) _ at each
  obtain ⟨all, -, has⟩ := Json.asMap_object.mp success
  have each_read : ∀ json ∈ valuesOf name others, ∃ value, reading json = .ok value := by
    intro json member
    obtain ⟨below, among, here⟩ := forall₂_exists_left each json member
    unfold valuesOrTable at among
    split at among
    · obtain rfl := List.mem_singleton.mp among
      exact ⟨_, step none _ json rfl here⟩
    · obtain ⟨value, old⟩ := all _ (Json.mem_valuesOf.mp among)
      exact ⟨_, step (some value) _ json old here⟩
  obtain ⟨below, json, belowLast, last, here⟩ :=
    forall₂_getLast? each (valuesOrTable_ne_nil name fields)
  refine Json.asMap_replaced success same each_read last (step _ below json ?_ here)
  rw [has]
  unfold valuesOrTable at belowLast
  split at belowLast
  · next absent =>
    rw [absent]
    exact (Option.some.inj belowLast).symm
  · obtain ⟨value, old⟩ := all _ (Json.mem_valuesOf.mp (List.mem_of_getLast? belowLast))
    rw [belowLast, Option.bind_some, old]
    exact old

/-- The texts of a site are read with another one for a key. -/
theorem asMap_withText {key text : String} {before after : Json} {pairs : List (String × String)}
    (read : Json.asMap Json.asText before = .ok pairs)
    (changed : Changed (· = .text text) [key] before after) :
    Json.asMap Json.asText after = .ok (Json.insertField key text pairs) :=
  @asMap_changed _ _ _ (fun _ => text) _ _ _ _ _ read changed fun _ _ _ _ written =>
    congrArg Json.asText written

/-- The sections of the sites are read with another text for a key of one. -/
theorem readIndexers_withText {site key text : String} {before after : Json}
    {sections : List (String × List (String × String))}
    (read : readIndexers before = .ok sections)
    (changed : Changed (· = .text text) [site, key] before after) :
    readIndexers after = .ok (Json.insertField site
      (Json.insertField key text ((sections.lookup site).getD [])) sections) := by
  refine @asMap_changed _ _ _ (fun prior => Json.insertField key text (prior.getD [])) _ _ _ _ _
    read changed fun prior below json old here => ?_
  cases prior with
  | none =>
    obtain rfl : below = .object [] := old
    exact asMap_withText rfl here
  | some pairs => exact asMap_withText old here

/-- The sections of the sites are not read with what is no text for a key of one. -/
theorem readIndexers_of_misfit {site key : String} {before after : Json}
    (changed : Changed (∀ text, · ≠ .text text) [site, key] before after)
    (sections : List (String × List (String × String))) : readIndexers after ≠ .ok sections := by
  obtain ⟨fields, _, pairs, rfl, member, within⟩ := Changed.exists_value changed
  obtain ⟨texts, _, json, rfl, among, noText⟩ := Changed.exists_value within
  refine Json.asMap_of_misfit member (Json.asMap_of_misfit among fun text good => ?_) sections
  cases json with
  | text value => exact noText value rfl
  | _ => cases good

/-! ### The settings read again -/

/-- What was read as settings has tables along the keys of the sites. -/
theorem tables_of_ofJson {json : Json} {settings : Settings} {site key : String}
    (table : ∃ fields, json = .object fields) (loads : ofJson json = .ok settings) :
    TablesAlong ["indexers", site, key] json := by
  obtain ⟨fields, rfl⟩ := table
  have tables : ∀ {Value : Type} {reading : Reading Value} {json : Json}
      {read : List (String × Value)}, Json.asMap reading json = .ok read →
      ∃ fields, json = .object fields ∧
        ∀ name, ∀ value ∈ valuesOf name fields, ∃ found, reading value = .ok found := by
    intro Value reading json read success
    cases json with
    | object fields =>
      exact ⟨fields, rfl, fun name value member =>
        (Json.asMap_object.mp success).1 _ (Json.mem_valuesOf.mp member)⟩
    | _ => cases success
  have fit := exists_ofJson.mp ⟨settings, loads⟩
  refine ⟨fields, rfl, fun sections member => ?_⟩
  obtain ⟨next, put⟩ :=
    fit.taken ("indexers", sections) (Json.mem_valuesOf.mp member) indexersSlot rfl usual
  obtain ⟨read, success, -⟩ := map_eq_ok.mp put
  obtain ⟨sites, rfl, eachSite⟩ := tables success
  refine ⟨sites, rfl, fun pairs among => ?_⟩
  obtain ⟨found, success⟩ := eachSite site pairs among
  obtain ⟨texts, rfl, -⟩ := tables success
  exact ⟨texts, rfl, fun _ _ => trivial⟩

/-- Settings are read with another text for a key of a site. -/
theorem ofJson_withText {before after : Json} {settings : Settings} {site key text : String}
    (table : ∃ fields, before = .object fields) (loads : ofJson before = .ok settings)
    (changed : Changed (· = .text text) ["indexers", site, key] before after) :
    ofJson after = .ok (settings.withKey site key text) := by
  obtain ⟨fields, rfl⟩ := table
  obtain ⟨others, rfl, same, each⟩ := changed
  change List.Forall₂ _ (valuesOrTable "indexers" fields) _ at each
  have once : (valuesOf "indexers" fields).length ≤ 1 := by
    have once := (exists_ofJson.mp ⟨settings, loads⟩).once indexersSlot (by simp [settingSlots])
    unfold Json.times at once
    exact (Nat.le_add_left _ _).trans once
  obtain ⟨-, -, sections⟩ := parts_of_ofJson loads
  obtain ⟨before, had, read⟩ : ∃ before, valuesOrTable "indexers" fields = [before] ∧
      readIndexers before = .ok settings.indexers := by
    unfold valuesOrTable
    cases values : valuesOf "indexers" fields with
    | nil =>
      rw [values] at sections
      exact ⟨.object [], rfl, congrArg Except.ok sections.symm⟩
    | cons first rest =>
      rw [values] at sections once
      obtain rfl : rest = [] := List.eq_nil_of_length_eq_zero (by simpa using once)
      exact ⟨first, rfl, sections⟩
  rw [had] at each
  obtain ⟨json, _, here, none, only⟩ := List.forall₂_cons_left_iff.mp each
  obtain rfl := List.forall₂_nil_left_iff.mp none
  exact ofJson_replaced loads same only (readIndexers_withText read here)

/-- Settings are not read with what is no text for a key of a site. -/
theorem ofJson_withMisfit {before after : Json} {site key : String}
    (changed : Changed (∀ text, · ≠ .text text) ["indexers", site, key] before after)
    (settings : Settings) : ofJson after ≠ .ok settings := by
  obtain ⟨fields, _, json, rfl, member, within⟩ := Changed.exists_value changed
  exact ofJson_of_misfit member (readIndexers_of_misfit within) settings

/-! ### The variable of a key -/

theorem overlay_text (below : Json) (text : String) : overlay below (.text text) = .text text :=
  overlay_not_table fun _ => nofun

/-- What is no text is none when it is laid over something. -/
theorem overlay_ne_text {json : Json} (noText : ∀ text, json ≠ .text text) (below : Json)
    (text : String) : overlay below json ≠ .text text := by
  by_cases table : ∃ fields, json = .object fields
  · obtain ⟨fields, rfl⟩ := table
    rw [overlay_table]
    exact Json.noConfusion
  · rw [overlay_not_table fun fields same => table ⟨fields, same⟩]
    exact noText text

/-- The settings that are loaded are the ones that are read from what is set. -/
theorem readWith_eq_ok {environment : List (String × String)} {file : String}
    {settings : Settings} :
    readWith environment file = .ok settings ↔
      ∃ tree, readTree file = .ok tree ∧
        ofJson (overlay tree (ofEnvironment environment)) = .ok settings := by
  unfold readWith
  constructor
  · intro loads
    obtain ⟨tree, read, loads⟩ := except_of_bind loads
    exact ⟨tree, read, mapError_eq_ok.mp loads⟩
  · rintro ⟨tree, read, loads⟩
    rw [read]
    exact mapError_eq_ok.mpr loads

/-- Why the settings cannot be loaded is not told. -/
theorem readWith_failsOnly (environment : List (String × String)) (file : String) :
    FailsOnly (· = Error.unreadable) (readWith environment file) := by
  unfold readWith readTree
  refine FailsOnly.bind ?_ fun tree _ => failsOnly_mapError fun _ _ => rfl
  cases Toml.read? file with
  | some json => exact failsOnly_ok json
  | none => exact failsOnly_error rfl

section Overridden

variable {before later : List (String × String)} {settings : Settings} {site key value : String}

/-- What the variable sets is all that it changes of the tree that is read. -/
theorem changed_overlay (allowed : Json → Prop) {tree : Json}
    (isSite : IsKey site) (isKey : IsKey key)
    (apart : ∀ binding ∈ later, LeadsApart ["indexers", site, key] binding.1)
    (loads : ofJson (overlay tree (ofEnvironment (before ++ later))) = .ok settings)
    (allows : ∀ below json, allowed json → allowed (overlay below json))
    (here : allowed (valueOf value)) :
    Changed allowed ["indexers", site, key] (overlay tree (ofEnvironment (before ++ later)))
      (overlay tree (ofEnvironment (before ++ (overrideName site key, value) :: later))) := by
  have changed : Changed allowed ["indexers", site, key] (ofEnvironment (before ++ later))
      (ofEnvironment (before ++ (overrideName site key, value) :: later)) :=
    changed_ofEnvironment (pathOf_overrideName isSite isKey) apart fun below =>
      allows below (valueOf value) here
  exact changed.overlay_below allows tree (tables_of_ofJson (overlay_ofEnvironment _ _) loads)

/-- The settings that are loaded with a variable for a key of a site, told from those without. -/
theorem readWith_overridden {file : String} (isSite : IsKey site) (isKey : IsKey key)
    (apart : ∀ binding ∈ later, LeadsApart ["indexers", site, key] binding.1)
    (loads : readWith (before ++ later) file = .ok settings) :
    readWith (before ++ (overrideName site key, value) :: later) file =
      match valueOf value with
      | .text text => .ok (settings.withKey site key text)
      | _ => .error .unreadable := by
  obtain ⟨tree, read, loads⟩ := readWith_eq_ok.mp loads
  have refused : (∀ text, valueOf value ≠ .text text) →
      readWith (before ++ (overrideName site key, value) :: later) file = .error .unreadable := by
    intro noText
    have changed := changed_overlay (∀ text, · ≠ .text text) isSite isKey apart loads
      (fun below json noText => overlay_ne_text noText below) noText
    cases outcome : readWith (before ++ (overrideName site key, value) :: later) file with
    | error error => exact congrArg _ (readWith_failsOnly _ _ _ outcome)
    | ok other =>
      obtain ⟨same, again, loaded⟩ := readWith_eq_ok.mp outcome
      obtain rfl := Except.ok.inj (read.symm.trans again)
      exact absurd loaded (ofJson_withMisfit changed other)
  cases found : valueOf value with
  | text text =>
    have changed := changed_overlay (· = .text text) isSite isKey apart loads
      (fun below json isText => isText ▸ overlay_text below text) found
    exact readWith_eq_ok.mpr ⟨tree, read, ofJson_withText (overlay_ofEnvironment _ _) loads changed⟩
  | _ => exact refused (by rw [found]; exact fun _ => Json.noConfusion)

/-- A text that is set for a key is found there, so other texts make other settings. -/
theorem withKey_inj {text other : String}
    (same : settings.withKey site key text = settings.withKey site key other) : text = other := by
  have found := get_withKey settings site key text site key
  rw [same, get_withKey, if_pos ⟨rfl, rfl⟩, if_pos ⟨rfl, rfl⟩] at found
  exact (Option.some.inj (Except.ok.inj found)).symm

/-- What is at the path of a file from which settings are loaded is read with any variables. -/
theorem ofNode_of_ok {environment : List (String × String)} {path : String}
    {found : Except Files.Trouble Files.Node}
    (loads : ofNode environment path found = .ok settings) :
    ∃ file, ∀ environment, ofNode environment path found = readWith environment file := by
  unfold ofNode at loads
  split at loads
  · cases loads
  · exact ⟨"", fun _ => rfl⟩
  · next bytes =>
    split at loads
    · next text readable =>
      refine ⟨text, fun environment => ?_⟩
      rw [ofNode, readable]
    · cases loads

/-- Where a file loads without the variable for a key of a site, it loads with it exactly if the
value is read as a text, and then the settings are the same but for that text. The text is the value
itself exactly if nothing can be trimmed off it and it stands for nothing else. -/
theorem ofNode_overridden {path : String} {found : Except Files.Trouble Files.Node}
    (isSite : IsKey site) (isKey : IsKey key)
    (apart : ∀ binding ∈ later, LeadsApart ["indexers", site, key] binding.1)
    (loads : ofNode (before ++ later) path found = .ok settings) (value : String) :
    (ofNode (before ++ (overrideName site key, value) :: later) path found =
        match valueOf value with
        | .text text => .ok (settings.withKey site key text)
        | _ => .error .unreadable) ∧
      (ofNode (before ++ (overrideName site key, value) :: later) path found =
          .ok (settings.withKey site key value) ↔
        Text.trim value.toList = value.toList ∧ ¬ StandsForOther value.toList) := by
  obtain ⟨file, reads⟩ := ofNode_of_ok loads
  rw [reads] at loads ⊢
  have overridden := @readWith_overridden before later settings site key value file isSite isKey
    apart loads
  refine ⟨overridden, ?_⟩
  rw [overridden, ← valueOf_eq_text]
  cases valueOf value with
  | text text =>
    rw [Except.ok.injEq, Json.text.injEq]
    exact ⟨withKey_inj, fun same => same ▸ rfl⟩
  | _ => exact iff_of_false (fun same => nomatch same) fun same => nomatch same

end Overridden

theorem ofNode_overridden_name :
    ofNode [(overrideName "site" "name", "bob"), ("TRAWLER_BROWSER__TIMEOUT_SECS", "10")] "t.toml"
        (.ok (.file [])) =
      .ok (withKey { usual with browser := { usualBrowser with timeout := 10 } }
        "site" "name" "bob") := by
  have isSite : IsKey "site" :=
    isKey_of_letters (by decide) (Text.forall_of_all (by decide +kernel))
  have isKey : IsKey "name" :=
    isKey_of_letters (by decide) (Text.forall_of_all (by decide +kernel))
  have apart : ∀ binding ∈ [("TRAWLER_BROWSER__TIMEOUT_SECS", "10")],
      LeadsApart ["indexers", "site", "name"] binding.1 := by
    simp only [List.forall_mem_singleton]
    intro path leads
    have found : pathOf? "TRAWLER_BROWSER__TIMEOUT_SECS" = some ["browser", "timeout_secs"] := by
      decide +kernel
    obtain rfl := Option.some.inj (found.symm.trans leads)
    decide
  have loads : ofNode ([] ++ [("TRAWLER_BROWSER__TIMEOUT_SECS", "10")]) "t.toml" (.ok (.file [])) =
      .ok { usual with browser := { usualBrowser with timeout := 10 } } := by
    decide +kernel
  have text : valueOf "bob" = .text "bob" := by rfl
  exact (ofNode_overridden isSite isKey apart loads "bob").1.trans (by rw [text])

/-- A number of four digits makes all settings unreadable. -/
theorem ofNode_overridden_digits :
    ofNode [] "t.toml" (.ok (.file [])) = .ok usual ∧
      ofNode [(overrideName "site" "pin", "1234")] "t.toml" (.ok (.file [])) =
        .error .unreadable := by
  decide +kernel

end Metasearch.Settings
