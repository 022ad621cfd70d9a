/-
This file settles in which order the names of a definition come: what is read from an object is
put in the order of names, and in the order of the bytes of names. That the two are one holds
because a character with a larger number never has the smaller bytes.
-/
import Mathlib
import Metasearch.Document.Definition
import Metasearch.Proofs.Outcomes
import Metasearch.Proofs.TextBytes

namespace Metasearch

/-! ### The order of bytes -/

namespace Text

theorem byte_cons_lt {low high : Nat} {left right : List UInt8} (small : high < 0x100)
    (before : low < high ∨ low = high ∧ left < right) :
    UInt8.ofNat low :: left < UInt8.ofNat high :: right := by
  rw [List.cons_lt_cons_iff]
  rcases before with before | ⟨rfl, before⟩
  · refine .inl (UInt8.lt_iff_toNat_lt.mpr ?_)
    rw [toNat_byte low (by omega), toNat_byte high small]
    exact before
  · exact .inr ⟨rfl, before⟩

/-- The last two bytes of characters decide if nothing in front of them does. -/
theorem lastTwo_lt {low high : Nat} (less : low < high) (same : low / 0x1000 = high / 0x1000)
    (behindLow behindHigh : List UInt8) :
    UInt8.ofNat (0x80 + low / 0x40 % 0x40) :: UInt8.ofNat (0x80 + low % 0x40) :: behindLow <
      UInt8.ofNat (0x80 + high / 0x40 % 0x40) :: UInt8.ofNat (0x80 + high % 0x40) ::
        behindHigh := by
  refine byte_cons_lt (by omega) ?_
  rcases Nat.lt_or_ge (low / 0x40) (high / 0x40) with first | first
  · exact .inl (by omega)
  · exact .inr ⟨by omega, byte_cons_lt (by omega) (.inl (by omega))⟩

/-- The bytes of the smaller character come first, whatever is behind them. -/
theorem charBytes_append_lt {left right : Char} (before : left < right)
    (behindLeft behindRight : List UInt8) :
    charBytes left ++ behindLeft < charBytes right ++ behindRight := by
  have less : left.toNat < right.toNat := before
  have valid : right.toNat < 0xD800 ∨ 0xDFFF < right.toNat ∧ right.toNat < 0x110000 := right.valid
  simp only [charBytes]
  split_ifs
  -- Of characters of different lengths, and of ASCII, the first byte decides.
  all_goals first | omega | exact byte_cons_lt (by omega) (.inl (by omega)) | skip
  · refine byte_cons_lt (by omega) ?_
    rcases Nat.lt_or_ge (left.toNat / 0x40) (right.toNat / 0x40) with lead | lead
    · exact .inl (by omega)
    · exact .inr ⟨by omega, byte_cons_lt (by omega) (.inl (by omega))⟩
  · refine byte_cons_lt (by omega) ?_
    rcases Nat.lt_or_ge (left.toNat / 0x1000) (right.toNat / 0x1000) with lead | lead
    · exact .inl (by omega)
    · exact .inr ⟨by omega, lastTwo_lt less (by omega) _ _⟩
  · refine byte_cons_lt (by omega) ?_
    rcases Nat.lt_or_ge (left.toNat / 0x40000) (right.toNat / 0x40000) with lead | lead
    · exact .inl (by omega)
    · refine .inr ⟨by omega, byte_cons_lt (by omega) ?_⟩
      rcases Nat.lt_or_ge (left.toNat / 0x1000) (right.toNat / 0x1000) with second | second
      · exact .inl (by omega)
      · exact .inr ⟨by omega, lastTwo_lt less (by omega) _ _⟩

/-- Texts are in the order of their bytes. -/
theorem encode_lt_encode {left right : List Char} (before : left < right) :
    encode left < encode right := by
  induction before with
  | @nil c rest =>
    rw [encode_cons]
    cases made : charBytes c with
    | nil => exact absurd made (charBytes_ne_nil c)
    | cons byte more => exact .nil
  | rel smaller =>
    rw [encode_cons, encode_cons]
    exact charBytes_append_lt smaller _ _
  | cons _ inductionHypothesis =>
    rw [encode_cons, encode_cons]
    exact List.append_left_lt inductionHypothesis

end Text

/-- The names of fields ascend, byte by byte. -/
def NamesAscend {Value : Type} (fields : List (String × Value)) : Prop :=
  fields.Pairwise fun before behind => Text.encode before.1.toList < Text.encode behind.1.toList

namespace Json

theorem reading_of_asOptional {Value : Type} {reading : Reading Value} {json : Json}
    {value : Value} (read : asOptional reading json = .ok (some value)) :
    reading json = .ok value := by
  unfold asOptional at read
  split at read
  · cases read
  · obtain ⟨_, here, same⟩ := map_eq_ok.mp read
    rwa [Option.some.inj same] at here

/-! ### Objects -/

section Objects

variable {Value : Type} {name : String} {value : Value} {fields : List (String × Value)}

theorem mem_insertField {field : String × Value}
    (member : field ∈ insertField name value fields) : field = (name, value) ∨ field ∈ fields := by
  induction fields with
  | nil => simpa [insertField] using member
  | cons head rest inductionHypothesis =>
    obtain ⟨other, old⟩ := head
    simp only [insertField] at member
    split at member
    · exact (List.mem_cons.mp member).imp_right (List.mem_cons_of_mem _)
    · split at member
      · exact List.mem_cons.mp member
      · rcases List.mem_cons.mp member with rfl | member
        · exact .inr List.mem_cons_self
        · exact (inductionHypothesis member).imp_right (List.mem_cons_of_mem _)

/-- A field that is put at its place keeps the order of names. -/
theorem insertField_pairwise
    (ascending : fields.Pairwise fun before behind => before.1 < behind.1) :
    (insertField name value fields).Pairwise fun before behind => before.1 < behind.1 := by
  induction fields with
  | nil => exact List.pairwise_singleton _ _
  | cons head rest inductionHypothesis =>
    obtain ⟨other, old⟩ := head
    obtain ⟨first, later⟩ := List.pairwise_cons.mp ascending
    simp only [insertField]
    split
    · next same =>
      obtain rfl := eq_of_beq same
      exact List.pairwise_cons.mpr ⟨first, later⟩
    · next different =>
      split
      · next before =>
        refine List.pairwise_cons.mpr ⟨fun field member => ?_, ascending⟩
        rcases List.mem_cons.mp member with rfl | member
        · exact before
        · exact before.trans (first field member)
      · next notBefore =>
        have behind : other < name :=
          lt_of_le_of_ne (not_lt.mp notBefore) fun same => different (by simp [same])
        refine List.pairwise_cons.mpr ⟨fun field member => ?_, inductionHypothesis later⟩
        rcases mem_insertField member with rfl | member
        · exact behind
        · exact first field member

/-- What is read from an object is in the order of the bytes of its names. -/
theorem asMap_namesAscend {reading : Reading Value} {json : Json}
    (read : asMap reading json = .ok fields) : NamesAscend fields := by
  have general : ∀ (list : List (String × Json)) (start : List (String × Value)),
      (start.Pairwise fun before behind => before.1 < behind.1) →
      list.foldlM (fun read field => do
        let value ← reading field.2
        return insertField field.1 value read) start = .ok fields →
      fields.Pairwise fun before behind => before.1 < behind.1 := by
    intro list
    induction list with
    | nil =>
      intro start ascending success
      obtain rfl := Except.ok.inj success
      exact ascending
    | cons head rest inductionHypothesis =>
      intro start ascending success
      rw [List.foldlM_cons] at success
      obtain ⟨next, step, success⟩ := except_of_bind success
      obtain ⟨value, -, step⟩ := except_of_bind step
      obtain rfl := Except.ok.inj step
      exact inductionHypothesis _ (insertField_pairwise ascending) success
  cases json with
  | object list =>
    exact (general list [] .nil read).imp fun before =>
      Text.encode_lt_encode (String.lt_iff_toList_lt.mp before)
  | _ => cases read

end Objects

/-! ### Records -/

section Records

variable {Record : Type} {holds : Record → Prop} {slots : List (Slot Record)}

/-- Putting in the value of a field keeps what holds of a record. -/
def Slot.Keeps (holds : Record → Prop) (slot : Slot Record) : Prop :=
  ∀ json record next, slot.put json record = .ok next → holds record → holds next

theorem Slot.of_keeps {Value : Type} {name : String} {presence : Presence}
    {reading : Reading Value} {set : Value → Record → Record}
    (kept : ∀ json value record, reading json = .ok value → holds record →
      holds (set value record)) : (Slot.of name presence reading set).Keeps holds := by
  intro json record next put before
  obtain ⟨value, read, rfl⟩ := map_eq_ok.mp put
  exact kept json value record read before

theorem putFields_keeps (each : ∀ slot ∈ slots, slot.Keeps holds)
    {fields : List (String × Json)} {seen : List String} {start record : Record}
    (read : putFields slots seen start fields = .ok record) (before : holds start) :
    holds record := by
  induction fields generalizing seen start with
  | nil =>
    unfold putFields at read
    split at read
    · cases read
    · obtain rfl := Except.ok.inj read
      exact before
  | cons head rest inductionHypothesis =>
    obtain ⟨name, json⟩ := head
    rw [putFields] at read
    split at read
    · split at read
      · exact inductionHypothesis read before
      · cases read
    · next slot found =>
      split at read
      · cases read
      · obtain ⟨next, put, read⟩ := except_of_bind read
        exact inductionHypothesis read
          (each slot (List.mem_of_find?_eq_some found) json start next put before)

theorem putItems_keeps (each : ∀ slot ∈ slots, slot.Keeps holds) {origin : Origin}
    {expected : String} {length index : Nat} {items : List Json} {start record : Record}
    (read : putItems origin expected length index slots items start = .ok record)
    (before : holds start) : holds record := by
  induction slots generalizing index items start with
  | nil =>
    cases items with
    | nil =>
      obtain rfl := Except.ok.inj read
      exact before
    | cons item items => cases origin <;> cases read
  | cons slot rest inductionHypothesis =>
    obtain ⟨here, later⟩ := List.forall_mem_cons.mp each
    cases items with
    | nil =>
      rw [putItems] at read
      split at read
      · exact inductionHypothesis later read before
      · cases read
    | cons item items =>
      rw [putItems] at read
      obtain ⟨next, put, read⟩ := except_of_bind read
      exact inductionHypothesis later read (here item start next put before)

/-- What holds of a record at the start, and is kept by each of its fields, holds of the record
that is read, whichever way it is written. -/
theorem asRecord_keeps (holds : Record → Prop) (each : ∀ slot ∈ slots, slot.Keeps holds)
    {origin : Origin} {name : String} {start record : Record} {json : Json}
    (read : asRecord origin name slots start json = .ok record) (before : holds start) :
    holds record := by
  cases json with
  | object fields => exact putFields_keeps each read before
  | list items => exact putItems_keeps each read before
  | _ => cases read

end Records

end Json

/-! ### Definitions -/

namespace Definition

open Json (Origin Slot asRecord_keeps)

/-- What has names in a definition is in their order. -/
structure InOrder (definition : Definition) : Prop where
  inputs : NamesAscend definition.search.inputs
  fields : NamesAscend definition.search.fields
  login : ∀ login, definition.login = some login → NamesAscend login.inputs

theorem readLogin_namesAscend {origin : Origin} {above : Nat} {json : Json} {login : LoginBlock}
    (read : readLogin origin above json = .ok login) : NamesAscend login.inputs := by
  refine asRecord_keeps (fun login : LoginBlock => NamesAscend login.inputs) ?_ read .nil
  simp only [List.forall_mem_cons, List.not_mem_nil, false_implies, implies_true, and_true]
  exact ⟨Slot.of_keeps fun _ _ _ _ before => before, Slot.of_keeps fun _ _ _ _ before => before,
    Slot.of_keeps fun _ _ _ read _ => Json.asMap_namesAscend read,
    Slot.of_keeps fun _ _ _ _ before => before⟩

theorem readSearch_namesAscend {origin : Origin} {above : Nat} {json : Json}
    {search : SearchBlock} (read : readSearch origin above json = .ok search) :
    NamesAscend search.inputs ∧ NamesAscend search.fields := by
  refine asRecord_keeps (fun search : SearchBlock =>
    NamesAscend search.inputs ∧ NamesAscend search.fields) ?_ read ⟨.nil, .nil⟩
  simp only [List.forall_mem_cons, List.not_mem_nil, false_implies, implies_true, and_true]
  exact ⟨Slot.of_keeps fun _ _ _ _ before => before,
    Slot.of_keeps fun _ _ _ read before => ⟨Json.asMap_namesAscend read, before.2⟩,
    Slot.of_keeps fun _ _ _ _ before => before,
    Slot.of_keeps fun _ _ _ read before => ⟨before.1, Json.asMap_namesAscend read⟩⟩

/-- What is neither the login nor the search of a definition keeps it in order. -/
theorem slot_keeps_inOrder {Value : Type} {name : String} {presence : Json.Presence}
    {reading : Json.Reading Value} {set : Value → Definition → Definition}
    (same : ∀ value definition, (set value definition).login = definition.login ∧
      (set value definition).search = definition.search) :
    (Slot.of name presence reading set).Keeps InOrder := by
  intro json definition next put before
  obtain ⟨value, -, rfl⟩ := map_eq_ok.mp put
  obtain ⟨sameLogin, sameSearch⟩ := same value definition
  exact ⟨sameSearch ▸ before.inputs, sameSearch ▸ before.fields, sameLogin ▸ before.login⟩

/-- A definition that was read is in order. -/
theorem inOrder_ofJson {origin : Origin} {json : Json} {definition : Definition}
    (read : ofJson origin json = .ok definition) : definition.InOrder := by
  refine asRecord_keeps InOrder ?_ read ⟨.nil, .nil, by rintro _ ⟨⟩⟩
  simp only [List.forall_mem_cons, List.not_mem_nil, false_implies, implies_true, and_true]
  refine ⟨slot_keeps_inOrder fun _ _ => ⟨rfl, rfl⟩, slot_keeps_inOrder fun _ _ => ⟨rfl, rfl⟩,
    slot_keeps_inOrder fun _ _ => ⟨rfl, rfl⟩, slot_keeps_inOrder fun _ _ => ⟨rfl, rfl⟩,
    slot_keeps_inOrder fun _ _ => ⟨rfl, rfl⟩, Slot.of_keeps fun json value _ read before => ?_,
    Slot.of_keeps fun _ _ _ read before => ?_, slot_keeps_inOrder fun _ _ => ⟨rfl, rfl⟩⟩
  · refine ⟨before.inputs, before.fields, fun login wanted => ?_⟩
    obtain rfl : value = some login := wanted
    exact readLogin_namesAscend (Json.reading_of_asOptional read)
  · obtain ⟨inputs, fields⟩ := readSearch_namesAscend read
    exact ⟨inputs, fields, before.login⟩

end Definition

end Metasearch
