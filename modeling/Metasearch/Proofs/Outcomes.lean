/-
Outcomes taken apart. A value that several steps come to was there after each of them, and an
error came from one of them; so what can go wrong on the way is what can go wrong in a step.
-/
import Mathlib.Data.List.Forall2

namespace Metasearch

variable {Cause Other Item Value Result : Type}

/-! ### Values -/

theorem except_of_bind {first : Except Cause Value} {next : Value → Except Cause Result}
    {result : Result} (success : (first >>= next) = .ok result) :
    ∃ value, first = .ok value ∧ next value = .ok result := by
  cases first with
  | error cause => exact absurd success (by simp [bind, Except.bind])
  | ok value => exact ⟨value, rfl, success⟩

theorem error_of_bind {first : Except Cause Value} {next : Value → Except Cause Result}
    {cause : Cause} (failure : (first >>= next) = .error cause) :
    first = .error cause ∨ ∃ value, first = .ok value ∧ next value = .error cause := by
  cases first with
  | error other => exact .inl (congrArg Except.error (Except.error.inj failure))
  | ok value => exact .inr ⟨value, rfl, failure⟩

theorem map_eq_ok {outcome : Except Cause Value} {change : Value → Result} {result : Result} :
    outcome.map change = .ok result ↔ ∃ value, outcome = .ok value ∧ change value = result := by
  cases outcome <;> simp [Except.map]

theorem mapError_eq_ok {outcome : Except Cause Value} {wrap : Cause → Other} {value : Value} :
    outcome.mapError wrap = .ok value ↔ outcome = .ok value := by
  cases outcome <;> simp [Except.mapError]

/-- A check of every item of a list holds when each item passes it. -/
theorem forM_eq_ok {check : Item → Except Cause Unit} {list : List Item} :
    list.forM check = .ok () ↔ ∀ item ∈ list, check item = .ok () := by
  induction list with
  | nil => simp [pure, Except.pure]
  | cons head rest inductionHypothesis =>
    simp only [List.forM_eq_forM, List.forM_cons, List.forall_mem_cons]
    constructor
    · intro success
      obtain ⟨_, here, later⟩ := except_of_bind success
      exact ⟨here, inductionHypothesis.mp later⟩
    · rintro ⟨here, later⟩
      rw [here]
      exact inductionHypothesis.mpr later

/-- What is made of the items of a list, item by item. -/
theorem forall₂_of_mapM {make : Item → Except Cause Value} {list : List Item}
    {values : List Value} (success : list.mapM make = .ok values) :
    List.Forall₂ (fun item value => make item = .ok value) list values := by
  induction list generalizing values with
  | nil =>
    obtain rfl := Except.ok.inj success
    exact .nil
  | cons head rest inductionHypothesis =>
    rw [List.mapM_cons] at success
    obtain ⟨value, here, success⟩ := except_of_bind success
    obtain ⟨others, later, success⟩ := except_of_bind success
    obtain rfl := Except.ok.inj success
    exact .cons here (inductionHypothesis later)

theorem mapM_of_forall₂ {make : Item → Except Cause Value} {list : List Item}
    {values : List Value}
    (each : List.Forall₂ (fun item value => make item = .ok value) list values) :
    list.mapM make = .ok values := by
  induction each with
  | nil => rfl
  | cons here _ inductionHypothesis =>
    rw [List.mapM_cons, here, inductionHypothesis]
    rfl

theorem exists_mapM_eq_ok {make : Item → Except Cause Value} {list : List Item}
    (each : ∀ item ∈ list, ∃ value, make item = .ok value) :
    ∃ values, list.mapM make = .ok values := by
  induction list with
  | nil => exact ⟨[], rfl⟩
  | cons head rest inductionHypothesis =>
    obtain ⟨here, later⟩ := List.forall_mem_cons.mp each
    obtain ⟨value, here⟩ := here
    obtain ⟨values, later⟩ := inductionHypothesis later
    exact ⟨value :: values, by rw [List.mapM_cons, here, later]; rfl⟩

/-! ### Errors -/

theorem map_eq_error {outcome : Except Cause Value} {change : Value → Result} {cause : Cause} :
    outcome.map change = .error cause ↔ outcome = .error cause := by
  cases outcome <;> simp [Except.map]

/-- One error in place of any other. -/
theorem mapError_const_eq_error {outcome : Except Cause Value} {instead other : Other} :
    (outcome.mapError fun _ => instead) = .error other ↔
      (∀ value, outcome ≠ .ok value) ∧ other = instead := by
  cases outcome <;> simp [Except.mapError, eq_comm]

/-- What goes wrong with the items of a list is what goes wrong with the first that fails. -/
theorem mapM_eq_error_iff {make : Item → Except Cause Value} {list : List Item} {cause : Cause} :
    list.mapM make = .error cause ↔ ∃ before item behind, list = before ++ item :: behind ∧
      (∀ earlier ∈ before, ∃ value, make earlier = .ok value) ∧ make item = .error cause := by
  constructor
  · intro failure
    induction list with
    | nil => cases failure
    | cons head rest inductionHypothesis =>
      rw [List.mapM_cons] at failure
      rcases error_of_bind failure with here | ⟨value, made, later⟩
      · exact ⟨[], head, rest, rfl, nofun, here⟩
      · rcases error_of_bind later with later | ⟨values, _, done⟩
        · obtain ⟨before, item, behind, rfl, fine, fails⟩ := inductionHypothesis later
          exact ⟨head :: before, item, behind, rfl,
            List.forall_mem_cons.mpr ⟨⟨value, made⟩, fine⟩, fails⟩
        · cases done
  · rintro ⟨before, item, behind, rfl, fine, fails⟩
    induction before with
    | nil =>
      rw [List.nil_append, List.mapM_cons, fails]
      rfl
    | cons head rest inductionHypothesis =>
      obtain ⟨⟨value, made⟩, fine⟩ := List.forall_mem_cons.mp fine
      rw [List.cons_append, List.mapM_cons, made, inductionHypothesis fine]
      rfl

/-- So it is with steps from item to item, if whether an item fails does not depend on what came
before it. -/
theorem foldlM_eq_error_iff {step : Value → Item → Except Cause Value}
    {fails : Item → Cause → Prop}
    (each : ∀ value item cause, step value item = .error cause ↔ fails item cause)
    {list : List Item} {start : Value} {cause : Cause} :
    list.foldlM step start = .error cause ↔ ∃ before item behind, list = before ++ item :: behind ∧
      (∀ earlier ∈ before, ∀ other, ¬ fails earlier other) ∧ fails item cause := by
  have goesOn : ∀ value item, (∀ other, ¬ fails item other) →
      ∃ next, step value item = .ok next := by
    intro value item fine
    cases outcome : step value item with
    | error other => exact absurd ((each value item other).mp outcome) (fine other)
    | ok next => exact ⟨next, rfl⟩
  constructor
  · intro failure
    induction list generalizing start with
    | nil => cases failure
    | cons head rest inductionHypothesis =>
      rw [List.foldlM_cons] at failure
      rcases error_of_bind failure with here | ⟨next, made, later⟩
      · exact ⟨[], head, rest, rfl, nofun, (each start head cause).mp here⟩
      · obtain ⟨before, item, behind, rfl, fine, fails⟩ := inductionHypothesis later
        refine ⟨head :: before, item, behind, rfl, List.forall_mem_cons.mpr ⟨?_, fine⟩, fails⟩
        intro other wrong
        cases made.symm.trans ((each start head other).mpr wrong)
  · rintro ⟨before, item, behind, rfl, fine, wrong⟩
    induction before generalizing start with
    | nil =>
      rw [List.nil_append, List.foldlM_cons, (each start item cause).mpr wrong]
      rfl
    | cons head rest inductionHypothesis =>
      obtain ⟨here, fine⟩ := List.forall_mem_cons.mp fine
      obtain ⟨next, made⟩ := goesOn start head here
      rw [List.cons_append, List.foldlM_cons, made]
      exact inductionHypothesis fine

/-- Steps that come to something do so at each item. -/
theorem exists_step_of_foldlM {step : Value → Item → Except Cause Value} {list : List Item}
    {start last : Value} (success : list.foldlM step start = .ok last) {item : Item}
    (member : item ∈ list) : ∃ value next, step value item = .ok next := by
  obtain ⟨before, behind, rfl⟩ := List.append_of_mem member
  rw [List.foldlM_append] at success
  obtain ⟨value, -, success⟩ := except_of_bind success
  rw [List.foldlM_cons] at success
  obtain ⟨next, here, -⟩ := except_of_bind success
  exact ⟨value, next, here⟩

/-- Nothing goes wrong but what is allowed to. -/
def FailsOnly (allowed : Cause → Prop) (outcome : Except Cause Value) : Prop :=
  ∀ cause, outcome = .error cause → allowed cause

variable {allowed : Cause → Prop}

theorem failsOnly_ok (value : Value) : FailsOnly allowed (.ok value) := by
  rintro cause ⟨⟩

theorem failsOnly_error {cause : Cause} (fine : allowed cause) :
    FailsOnly allowed (.error cause : Except Cause Value) := by
  rintro _ ⟨⟩
  exact fine

theorem FailsOnly.bind {first : Except Cause Value} {next : Value → Except Cause Result}
    (before : FailsOnly allowed first)
    (behind : ∀ value, first = .ok value → FailsOnly allowed (next value)) :
    FailsOnly allowed (first >>= next) := by
  cases first with
  | error cause => exact failsOnly_error (before cause rfl)
  | ok value => exact behind value rfl

theorem FailsOnly.map {outcome : Except Cause Value} (safe : FailsOnly allowed outcome)
    (change : Value → Result) : FailsOnly allowed (outcome.map change) := by
  cases outcome with
  | error cause => exact failsOnly_error (safe cause rfl)
  | ok value => exact failsOnly_ok _

theorem failsOnly_mapError {wrap : Other → Cause} {outcome : Except Other Value}
    (safe : ∀ cause, outcome = .error cause → allowed (wrap cause)) :
    FailsOnly allowed (outcome.mapError wrap) := by
  cases outcome with
  | error cause => exact failsOnly_error (safe cause rfl)
  | ok value => exact failsOnly_ok _

theorem failsOnly_mapM {make : Item → Except Cause Value} {list : List Item}
    (safe : ∀ item ∈ list, FailsOnly allowed (make item)) :
    FailsOnly allowed (list.mapM make) := by
  induction list with
  | nil => exact failsOnly_ok _
  | cons head rest inductionHypothesis =>
    rw [List.mapM_cons]
    obtain ⟨here, later⟩ := List.forall_mem_cons.mp safe
    exact here.bind fun _ _ => (inductionHypothesis later).bind fun _ _ => failsOnly_ok _

end Metasearch
