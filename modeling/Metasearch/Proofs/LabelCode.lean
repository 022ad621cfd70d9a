/-
This file settles that the code for labels loses nothing: what a label is written as is read back
as the label. The writer goes through the label once for each code point, in ascending order, and
the reader puts in one character for each number. Between two numbers the reader has what the
writer has dealt with, and the number under way counts the places from where the reader stands to
where the writer does. That is the invariant; a number is small enough for the reader because the
writer refuses those that are not.
-/
import Mathlib.Algebra.Group.Nat.Defs
import Metasearch.Url.Domain

namespace Metasearch.Url

open Number (maxUnsigned32)

/-! ### Numbers -/

/-- The digits that numbers are written with. -/
def labelDigits : List Char :=
  (List.range 36).map labelDigit

theorem labelDigit_mem {value : Nat} (small : value < 36) : labelDigit value ∈ labelDigits :=
  List.mem_map_of_mem (List.mem_range.mpr small)

theorem labelDigitValue_labelDigit {value : Nat} (small : value < 36) :
    labelDigitValue? (labelDigit value) = some value := by
  have every : ∀ digit : Fin 36, labelDigitValue? (labelDigit digit) = some digit.val := by decide
  exact every ⟨value, small⟩

theorem threshold_pos (place bias : Nat) : 0 < threshold place bias := by
  unfold threshold
  split
  · omega
  · split <;> omega

theorem threshold_le (place bias : Nat) : threshold place bias ≤ 26 := by
  unfold threshold
  split
  · omega
  · split <;> omega

/-- The digit written where more follow: not below the threshold, and no more than the value. -/
theorem digit_bounds {value edge : Nat} (low : edge ≤ value) (high : edge ≤ 26) :
    edge ≤ edge + (value - edge) % (36 - edge) ∧ edge + (value - edge) % (36 - edge) < 36 ∧
      edge + (value - edge) % (36 - edge) ≤ value := by
  have remainder := Nat.mod_lt (value - edge) (show 0 < 36 - edge by omega)
  have below := Nat.mod_le (value - edge) (36 - edge)
  omega

theorem digit_of_mem_writeNumber {fuel value place bias : Nat} {d : Char}
    (member : d ∈ writeNumber fuel value place bias) : d ∈ labelDigits := by
  induction fuel generalizing value place with
  | zero => simp [writeNumber] at member
  | succ fuel inductionHypothesis =>
    have high := threshold_le place bias
    simp only [writeNumber] at member
    split at member
    · next last =>
      rw [List.mem_singleton.mp member]
      exact labelDigit_mem (by omega)
    · next more =>
      rcases List.mem_cons.mp member with rfl | later
      · exact labelDigit_mem (digit_bounds (Nat.not_lt.mp more) high).2.1
      · exact inductionHypothesis later

/-- A number is read back, whatever follows it, if it fits. A place carries a tenth of the number
at most on to the next, so as many places suffice as the number has decimal digits, and one. -/
theorem readNumber_writeNumber {fuel value place bias sum weight : Nat}
    (enough : value < 10 ^ fuel) (fits : sum + value * weight ≤ maxUnsigned32)
    (others : List Char) :
    readNumber bias (writeNumber (fuel + 1) value place bias ++ others) sum weight place =
      some (sum + value * weight, others) := by
  induction fuel generalizing value place sum weight with
  | zero =>
    have zero : value = 0 := by simpa using enough
    subst zero
    have positive := threshold_pos place bias
    rw [writeNumber, if_pos positive, List.singleton_append, readNumber,
      labelDigitValue_labelDigit (by decide)]
    simp only [Option.bind_eq_bind, Option.bind_some]
    rw [if_neg (Nat.not_lt.mpr fits), if_pos positive]
  | succ fuel inductionHypothesis =>
    have high := threshold_le place bias
    rw [writeNumber]
    by_cases last : value < threshold place bias
    · rw [if_pos last, List.singleton_append, readNumber,
        labelDigitValue_labelDigit (by omega)]
      simp only [Option.bind_eq_bind, Option.bind_some]
      rw [if_neg (Nat.not_lt.mpr fits), if_pos last]
    · generalize edgeEq : threshold place bias = edge at *
      obtain ⟨digitLow, digitSmall, digitLe⟩ := digit_bounds (Nat.not_lt.mp last) high
      have carried : edge + (value - edge) % (36 - edge) +
          (value - edge) / (36 - edge) * (36 - edge) = value := by
        have whole := Nat.mod_add_div' (value - edge) (36 - edge)
        omega
      have total : sum + (edge + (value - edge) % (36 - edge)) * weight +
          (value - edge) / (36 - edge) * (weight * (36 - edge)) = sum + value * weight := by
        rw [Nat.mul_comm weight, ← Nat.mul_assoc, Nat.add_assoc, ← Nat.add_mul, carried]
      have smaller : (value - edge) / (36 - edge) < 10 ^ fuel := by
        refine Nat.div_lt_of_lt_mul ?_
        calc value - edge < 10 * 10 ^ fuel := by rw [Nat.pow_succ'] at enough; omega
          _ ≤ (36 - edge) * 10 ^ fuel := Nat.mul_le_mul_right _ (by omega)
      rw [if_neg last, List.cons_append, readNumber, labelDigitValue_labelDigit digitSmall]
      simp only [Option.bind_eq_bind, Option.bind_some, edgeEq]
      rw [if_neg (by omega), if_neg (Nat.not_lt.mpr digitLow),
        inductionHypothesis smaller (by omega), total]

/-! ### Reading numbers to the end -/

theorem length_of_readNumber {bias : Nat} {digits rest : List Char} {sum weight place delta : Nat}
    (found : readNumber bias digits sum weight place = some (delta, rest)) :
    rest.length < digits.length := by
  induction digits generalizing sum weight place with
  | nil => simp [readNumber] at found
  | cons c tail inductionHypothesis =>
    rw [readNumber] at found
    obtain ⟨digit, -, found⟩ := Option.bind_eq_some_iff.mp found
    dsimp only at found
    split at found
    · simp at found
    · split at found
      · obtain ⟨-, rfl⟩ := Prod.mk.inj (Option.some.inj found)
        exact Nat.lt_succ_self _
      · exact Nat.lt_succ_of_lt (inductionHypothesis found)

/-- As every number takes a digit at least, more fuel than there are digits changes nothing. -/
theorem decodeNumbers_of_enough {fuel other : Nat} {digits : List Char}
    (enough : digits.length < fuel) (enough' : digits.length < other)
    (point start bias : Nat) (label : List Char) :
    decodeNumbers fuel digits point start bias label =
      decodeNumbers other digits point start bias label := by
  induction fuel generalizing other digits point start bias label with
  | zero => exact absurd enough (Nat.not_lt_zero _)
  | succ fuel inductionHypothesis =>
    cases other with
    | zero => exact absurd enough' (Nat.not_lt_zero _)
    | succ other =>
      rw [decodeNumbers, decodeNumbers]
      split
      · rfl
      · refine Option.bind_congr fun read found => ?_
        have shorter : read.2.length < digits.length := length_of_readNumber found
        dsimp only
        split
        · rfl
        · exact inductionHypothesis (by omega) (by omega) _ _ _ _

/-- Reads numbers to the end with as much fuel as they can take. -/
def decodeAll (digits : List Char) (point start bias : Nat) (label : List Char) :
    Option (List Char) :=
  decodeNumbers (digits.length + 1) digits point start bias label

theorem decodeAll_nil (point start bias : Nat) (label : List Char) :
    decodeAll [] point start bias label = some label := rfl

/-- A written number puts its character in: the number counts, from where the reader stands, the
places that are passed over, and each further code point is as many places as the label has. -/
theorem decodeAll_writeNumber {delta bias reached start place : Nat} {c : Char}
    {label : List Char} (fits : delta ≤ maxUnsigned32)
    (number : start + delta = (c.toNat - reached) * (label.length + 1) + place)
    (inside : place ≤ label.length) (below : reached ≤ c.toNat) (others : List Char) :
    decodeAll (writeNumber 16 delta 36 bias ++ others) reached start bias label =
      decodeAll others c.toNat (place + 1) (adapt delta (label.length + 1) (start == 0))
        (label.take place ++ [c] ++ label.drop place) := by
  have valid : c.toNat < 0xD800 ∨ 0xDFFF < c.toNat ∧ c.toNat < 0x110000 := c.valid
  have read : readNumber bias (writeNumber (15 + 1) delta 36 bias ++ others) 0 1 36 =
      some (0 + delta * 1, others) :=
    readNumber_writeNumber (Nat.lt_of_le_of_lt fits (by decide))
      (by rwa [Nat.zero_add, Nat.mul_one]) others
  rw [Nat.zero_add, Nat.mul_one] at read
  have shorter := length_of_readNumber read
  have point : reached + (start + delta) / (label.length + 1) = c.toNat := by
    rw [number, Nat.mul_comm, Nat.mul_add_div (Nat.succ_pos _),
      Nat.div_eq_of_lt (Nat.lt_succ_of_le inside)]
    omega
  have position : (start + delta) % (label.length + 1) = place := by
    rw [number, Nat.mul_comm, Nat.mul_add_mod, Nat.mod_eq_of_lt (Nat.lt_succ_of_le inside)]
  have some : (writeNumber 16 delta 36 bias ++ others).isEmpty = false := by
    cases text : writeNumber 16 delta 36 bias ++ others with
    | nil => simp [text] at shorter
    | cons => rfl
  rw [decodeAll, decodeNumbers, some, if_neg (by decide), read]
  simp only [Option.bind_eq_bind, Option.bind_some, point, position]
  rw [if_neg (by simp only [Bool.or_eq_true, Bool.and_eq_true, decide_eq_true_eq]; omega),
    Char.ofNat_toNat]
  exact decodeNumbers_of_enough (by omega) (Nat.lt_succ_self _) _ _ _ _

/-! ### One round of the writer -/

/-- What the reader has when the writer, in its round for a code point, has gone through `before`
and not yet through `rest`: what is below the point, and of the point what was gone through. -/
def dealtWith (point : Nat) (before rest : List Char) : List Char :=
  before.filter (·.toNat ≤ point) ++ rest.filter (·.toNat < point)

/-- The writer and the reader are in step: they agree on what is dealt with, and the number under
way is the way from where the reader stands to where the writer does. -/
structure InStep (point : Nat) (before rest : List Char) (state : LabelState)
    (reached start : Nat) : Prop where
  handled : state.handled = (dealtWith point before rest).length
  first : state.first = (start == 0)
  below : reached ≤ point
  number : start + state.delta =
    (point - reached) * (state.handled + 1) + (before.filter (·.toNat ≤ point)).length
  fits : state.delta ≤ maxUnsigned32

theorem grown_eq_some {number amount result : Nat} (grown : grown? number amount = some result) :
    result = number + amount ∧ result ≤ maxUnsigned32 := by
  unfold grown? at grown
  split at grown
  · simp at grown
  · next fits =>
    obtain rfl := Option.some.inj grown
    exact ⟨rfl, Nat.not_lt.mp fits⟩

variable {point : Nat} {c : Char} {before rest : List Char} {state : LabelState}
  {reached start : Nat}

/-- A character below the point is passed over: the number counts it. -/
theorem InStep.passed (inStep : InStep point before (c :: rest) state reached start)
    (lower : c.toNat < point) {delta : Nat} (grown : grown? state.delta 1 = some delta) :
    InStep point (before ++ [c]) rest { state with delta } reached start ∧
      dealtWith point (before ++ [c]) rest = dealtWith point before (c :: rest) := by
  obtain ⟨rfl, fits⟩ := grown_eq_some grown
  have same : dealtWith point (before ++ [c]) rest = dealtWith point before (c :: rest) := by
    simp [dealtWith, lower, Nat.le_of_lt lower]
  have counted : ((before ++ [c]).filter (·.toNat ≤ point)).length =
      (before.filter (·.toNat ≤ point)).length + 1 := by
    simp [Nat.le_of_lt lower]
  refine ⟨⟨by rw [same]; exact inStep.handled, inStep.first, inStep.below, ?_, fits⟩, same⟩
  have number := inStep.number
  rw [counted]
  dsimp only
  omega

/-- A character above the point is left for a later round. -/
theorem InStep.left (inStep : InStep point before (c :: rest) state reached start)
    (higher : point < c.toNat) : InStep point (before ++ [c]) rest state reached start ∧
      dealtWith point (before ++ [c]) rest = dealtWith point before (c :: rest) := by
  have same : dealtWith point (before ++ [c]) rest = dealtWith point before (c :: rest) := by
    simp [dealtWith, Nat.not_lt.mpr (Nat.le_of_lt higher), Nat.not_le.mpr higher]
  have counted : (before ++ [c]).filter (·.toNat ≤ point) = before.filter (·.toNat ≤ point) := by
    simp [Nat.not_le.mpr higher]
  refine ⟨⟨by rw [same]; exact inStep.handled, inStep.first, inStep.below, ?_, inStep.fits⟩, same⟩
  rw [counted]
  exact inStep.number

/-- A character of the point is written, and the reader puts it in where it stands among what is
dealt with. -/
theorem InStep.written (inStep : InStep c.toNat before (c :: rest) state reached start)
    (others : List Char) :
    InStep c.toNat (before ++ [c]) rest
        ⟨0, adapt state.delta (state.handled + 1) state.first, state.handled + 1, false⟩
        c.toNat ((before.filter (·.toNat ≤ c.toNat)).length + 1) ∧
      decodeAll (writeNumber 16 state.delta 36 state.bias ++ others) reached start state.bias
          (dealtWith c.toNat before (c :: rest)) =
        decodeAll others c.toNat ((before.filter (·.toNat ≤ c.toNat)).length + 1)
          (adapt state.delta (state.handled + 1) state.first)
          (dealtWith c.toNat (before ++ [c]) rest) := by
  have old : dealtWith c.toNat before (c :: rest) =
      before.filter (·.toNat ≤ c.toNat) ++ rest.filter (·.toNat < c.toNat) := by
    simp [dealtWith]
  have new : dealtWith c.toNat (before ++ [c]) rest =
      before.filter (·.toNat ≤ c.toNat) ++ [c] ++ rest.filter (·.toNat < c.toNat) := by
    simp [dealtWith]
  have handled := inStep.handled
  refine ⟨⟨?_, rfl, Nat.le_refl _, ?_, Nat.zero_le _⟩, ?_⟩
  · rw [new]
    rw [old] at handled
    simp only [List.length_append, List.length_singleton] at handled ⊢
    omega
  · simp
  · rw [decodeAll_writeNumber inStep.fits (handled ▸ inStep.number) (by rw [old]; simp)
      inStep.below, ← handled, ← inStep.first, old, new, List.take_left, List.drop_left]

/-- In one round the reader follows the writer to the end of the label. -/
theorem decodeAll_encodePoint {digits : List Char} {last : LabelState}
    (inStep : InStep point before rest state reached start)
    (encoded : encodePoint? point rest state = some (digits, last)) :
    ∃ reached' start', InStep point (before ++ rest) [] last reached' start' ∧
      ∀ others, decodeAll (digits ++ others) reached start state.bias
          (dealtWith point before rest) =
        decodeAll others reached' start' last.bias (dealtWith point (before ++ rest) []) := by
  induction rest generalizing before state reached start digits with
  | nil =>
    obtain ⟨rfl, rfl⟩ := Prod.mk.inj (Option.some.inj encoded)
    refine ⟨reached, start, ?_, fun others => ?_⟩ <;> rw [List.append_nil]
    · exact inStep
    · rfl
  | cons c rest inductionHypothesis =>
    rw [encodePoint?] at encoded
    rw [List.append_cons]
    split at encoded
    · next lower =>
      obtain ⟨delta, grown, encoded⟩ := Option.bind_eq_some_iff.mp encoded
      obtain ⟨inStep', same⟩ := inStep.passed lower grown
      have later := inductionHypothesis inStep' encoded
      rwa [same] at later
    · next notLower =>
      split at encoded
      · next isPoint =>
        obtain rfl : c.toNat = point := by simpa using isPoint
        dsimp only at encoded
        obtain ⟨⟨others, final⟩, later, result⟩ := Option.bind_eq_some_iff.mp encoded
        obtain ⟨rfl, rfl⟩ := Prod.mk.inj (Option.some.inj result)
        obtain ⟨reached', start', inStep', follows⟩ :=
          inductionHypothesis (inStep.written []).1 later
        refine ⟨reached', start', inStep', fun behind => ?_⟩
        rw [List.append_assoc, (inStep.written (others ++ behind)).2]
        exact follows behind
      · next notPoint =>
        have higher : point < c.toNat := by
          have different : c.toNat ≠ point := by simpa using notPoint
          omega
        obtain ⟨inStep', same⟩ := inStep.left higher
        rw [← same]
        exact inductionHypothesis inStep' encoded

/-! ### All rounds -/

/-- Before the round for a code point, and none of the label between that and the last one, what
is dealt with is what is below the point. -/
theorem dealtWith_start (point : Nat) (label : List Char) :
    dealtWith point [] label = label.filter (·.toNat < point) := rfl

/-- After its round, all of a code point is dealt with. -/
theorem dealtWith_end (point : Nat) (label : List Char) :
    dealtWith point label [] = dealtWith (point + 1) [] label := by
  rw [dealtWith, dealtWith_start, List.filter_nil, List.append_nil]
  exact List.filter_congr fun c _ => decide_eq_decide.mpr Nat.lt_succ_iff.symm

/-- The writer goes on to a code point if the label has none between. -/
theorem InStep.entered {passed : Nat} {label : List Char}
    (inStep : InStep passed [] label state reached start) (le : passed ≤ point)
    (none : ∀ c ∈ label, passed ≤ c.toNat → point ≤ c.toNat) {delta : Nat}
    (grown : grown? state.delta ((point - passed) * (state.handled + 1)) = some delta) :
    InStep point [] label { state with delta } reached start ∧
      dealtWith point [] label = dealtWith passed [] label := by
  obtain ⟨rfl, fits⟩ := grown_eq_some grown
  have same : dealtWith point [] label = dealtWith passed [] label := by
    rw [dealtWith_start, dealtWith_start]
    refine List.filter_congr fun c member => ?_
    have between := none c member
    simp only [decide_eq_decide]
    omega
  have below := inStep.below
  refine ⟨⟨by rw [same]; exact inStep.handled, inStep.first, by omega, ?_, fits⟩, same⟩
  have number := inStep.number
  have way : (passed - reached) * (state.handled + 1) + (point - passed) * (state.handled + 1) =
      (point - reached) * (state.handled + 1) := by
    rw [← Nat.add_mul]
    congr 1
    omega
  dsimp only
  simp only [List.filter_nil, List.length_nil, Nat.add_zero] at number ⊢
  omega

/-- Behind its round, the writer stands before the next code point. -/
theorem InStep.next {label : List Char}
    (inStep : InStep point label [] state reached start) {delta : Nat}
    (grown : grown? state.delta 1 = some delta) :
    InStep (point + 1) [] label { state with delta } reached start := by
  obtain ⟨rfl, fits⟩ := grown_eq_some grown
  have handled := inStep.handled
  have below := inStep.below
  have number := inStep.number
  have all : (label.filter (·.toNat ≤ point)).length = state.handled := by
    rw [handled, dealtWith, List.filter_nil, List.append_nil]
  refine ⟨by rw [← dealtWith_end]; exact handled, inStep.first, by omega, ?_, fits⟩
  rw [all] at number
  rw [Nat.succ_sub below, Nat.succ_mul]
  simp only [List.filter_nil, List.length_nil, Nat.add_zero]
  omega

/-- The reader follows the writer through all rounds, and then has the label. -/
theorem decodeAll_encodePoints {label digits : List Char} {points : List Nat} {passed : Nat}
    (inStep : InStep passed [] label state reached start)
    (ascending : points.Pairwise (· < ·)) (ahead : ∀ point ∈ points, passed ≤ point)
    (all : ∀ c ∈ label, passed ≤ c.toNat → c.toNat ∈ points)
    (encoded : encodePoints? label passed points state = some digits) :
    decodeAll digits reached start state.bias (dealtWith passed [] label) = some label := by
  induction points generalizing passed state reached start digits with
  | nil =>
    obtain rfl := Option.some.inj encoded
    rw [decodeAll_nil, dealtWith_start, List.filter_eq_self.mpr fun c member => ?_]
    by_cases low : c.toNat < passed
    · exact decide_eq_true low
    · exact absurd (all c member (Nat.not_lt.mp low)) (by simp)
  | cons point points inductionHypothesis =>
    rw [List.pairwise_cons] at ascending
    rw [encodePoints?] at encoded
    obtain ⟨entered, grownIn, encoded⟩ := Option.bind_eq_some_iff.mp encoded
    obtain ⟨⟨own, last⟩, round, encoded⟩ := Option.bind_eq_some_iff.mp encoded
    obtain ⟨delta, grownOut, encoded⟩ := Option.bind_eq_some_iff.mp encoded
    obtain ⟨others, later, result⟩ := Option.bind_eq_some_iff.mp encoded
    obtain rfl := Option.some.inj result
    have le := ahead point List.mem_cons_self
    have none : ∀ c ∈ label, passed ≤ c.toNat → point ≤ c.toNat := by
      intro c member high
      rcases List.mem_cons.mp (all c member high) with here | behind
      · exact Nat.le_of_eq here.symm
      · exact Nat.le_of_lt (ascending.1 _ behind)
    have allLater : ∀ c ∈ label, point + 1 ≤ c.toNat → c.toNat ∈ points := by
      intro c member high
      rcases List.mem_cons.mp (all c member (by omega)) with here | behind
      · omega
      · exact behind
    obtain ⟨inRound, same⟩ := inStep.entered le none grownIn
    obtain ⟨reached', start', atEnd, follows⟩ := decodeAll_encodePoint inRound round
    rw [← same, follows others, List.nil_append, dealtWith_end]
    rw [List.nil_append] at atEnd
    have rest := inductionHypothesis (atEnd.next grownOut) ascending.2 ascending.1 allLater later
    exact rest

/-! ### The characters of a code -/

theorem digit_of_mem_encodePoint {digits : List Char} {last : LabelState}
    (encoded : encodePoint? point rest state = some (digits, last)) {d : Char}
    (member : d ∈ digits) : d ∈ labelDigits := by
  induction rest generalizing state digits with
  | nil =>
    obtain ⟨rfl, -⟩ := Prod.mk.inj (Option.some.inj encoded)
    exact absurd member (by simp)
  | cons c rest inductionHypothesis =>
    rw [encodePoint?] at encoded
    split at encoded
    · obtain ⟨delta, -, encoded⟩ := Option.bind_eq_some_iff.mp encoded
      exact inductionHypothesis encoded member
    · split at encoded
      · dsimp only at encoded
        obtain ⟨⟨others, final⟩, later, result⟩ := Option.bind_eq_some_iff.mp encoded
        obtain ⟨rfl, rfl⟩ := Prod.mk.inj (Option.some.inj result)
        rcases List.mem_append.mp member with own | behind
        · exact digit_of_mem_writeNumber own
        · exact inductionHypothesis later behind
      · exact inductionHypothesis encoded member

theorem digit_of_mem_encodePoints {label digits : List Char} {points : List Nat}
    {passed : Nat} (encoded : encodePoints? label passed points state = some digits) {d : Char}
    (member : d ∈ digits) : d ∈ labelDigits := by
  induction points generalizing passed state digits with
  | nil =>
    obtain rfl := Option.some.inj encoded
    exact absurd member (by simp)
  | cons point points inductionHypothesis =>
    rw [encodePoints?] at encoded
    obtain ⟨entered, -, encoded⟩ := Option.bind_eq_some_iff.mp encoded
    obtain ⟨⟨own, last⟩, round, encoded⟩ := Option.bind_eq_some_iff.mp encoded
    obtain ⟨delta, -, encoded⟩ := Option.bind_eq_some_iff.mp encoded
    obtain ⟨others, later, result⟩ := Option.bind_eq_some_iff.mp encoded
    obtain rfl := Option.some.inj result
    rcases List.mem_append.mp member with here | behind
    · exact digit_of_mem_encodePoint round here
    · exact inductionHypothesis later behind

/-- The parts of a code: what the label has of ASCII, a mark behind it if there is any, and
numbers. -/
theorem encodeLabel_eq_some {label code : List Char} (encoded : encodeLabel? label = some code) :
    ∃ digits, encodePoints? label firstPoint
          ((label.map (·.toNat)).filter (firstPoint ≤ ·)).mergeSort.eraseDups
          ⟨0, 72, (label.filter (·.toNat < firstPoint)).length, true⟩ = some digits ∧
      code = label.filter (·.toNat < firstPoint) ++
        (if (label.filter (·.toNat < firstPoint)).isEmpty then [] else ['-']) ++ digits := by
  obtain ⟨digits, written, result⟩ := Option.bind_eq_some_iff.mp encoded
  exact ⟨digits, written, (Option.some.inj result).symm⟩

theorem mem_encodeLabel {label code : List Char} (encoded : encodeLabel? label = some code)
    {d : Char} (member : d ∈ code) :
    (d ∈ label ∧ d.toNat < firstPoint) ∨ d ∈ '-' :: labelDigits := by
  obtain ⟨digits, written, rfl⟩ := encodeLabel_eq_some encoded
  rcases List.mem_append.mp member with front | number
  · rcases List.mem_append.mp front with plain | mark
    · obtain ⟨inLabel, ascii⟩ := List.mem_filter.mp plain
      exact .inl ⟨inLabel, of_decide_eq_true ascii⟩
    · split at mark
      · exact absurd mark (by simp)
      · exact .inr (List.mem_cons.mpr (.inl (List.mem_singleton.mp mark)))
  · exact .inr (List.mem_cons_of_mem _ (digit_of_mem_encodePoints written number))

/-! ### Labels -/

/-- Numbers that ascend, each once. -/
theorem pairwise_eraseDups {numbers : List Nat} (ascending : numbers.Pairwise (· ≤ ·)) :
    numbers.eraseDups.Pairwise (· < ·) := by
  match numbers, ascending with
  | [], _ => exact List.Pairwise.nil
  | number :: rest, ascending =>
    rw [List.pairwise_cons] at ascending
    rw [List.eraseDups_cons, List.pairwise_cons]
    refine ⟨fun later member => ?_, pairwise_eraseDups (ascending.2.filter _)⟩
    obtain ⟨inRest, different⟩ := List.mem_filter.mp (List.mem_eraseDups.mp member)
    have le := ascending.1 later inRest
    have ne : later ≠ number := by simpa using different
    omega
termination_by numbers.length
decreasing_by
  exact Nat.lt_succ_of_le (List.length_filter_le _ _)

/-- The mark in a code is the last of its hyphens, since numbers have none. -/
theorem decodeLabel_of_parts {plain digits : List Char} (noMark : '-' ∉ digits) :
    decodeLabel? (plain ++ (if plain.isEmpty then [] else ['-']) ++ digits) =
      decodeAll digits firstPoint 0 72 plain := by
  have noHyphen : ∀ d ∈ digits.reverse, (d != '-') = true := by
    intro d member
    rw [bne_iff_ne]
    rintro rfl
    exact noMark (List.mem_reverse.mp member)
  cases plain with
  | nil =>
    have absent : digits.reverse.contains '-' = false := by simpa using noMark
    simp only [List.isEmpty_nil, if_true, List.nil_append, decodeLabel?, absent]
    rfl
  | cons c rest =>
    have backwards : (c :: rest ++ ['-'] ++ digits).reverse =
        digits.reverse ++ '-' :: (c :: rest).reverse := by simp
    have marked : (digits.reverse ++ '-' :: (c :: rest).reverse).contains '-' = true := by simp
    have front : (digits.reverse ++ '-' :: (c :: rest).reverse).takeWhile (· != '-') =
        digits.reverse := by
      rw [List.takeWhile_append_of_pos noHyphen, List.takeWhile_cons_of_neg (by decide),
        List.append_nil]
    have back : (digits.reverse ++ '-' :: (c :: rest).reverse).dropWhile (· != '-') =
        '-' :: (c :: rest).reverse := by
      rw [List.dropWhile_append_of_pos noHyphen, List.dropWhile_cons_of_neg (by decide)]
    simp only [List.isEmpty_cons, Bool.false_eq_true, if_false, decodeLabel?, backwards, marked,
      if_true, front, back, List.drop_one, List.tail_cons, List.reverse_reverse]
    rfl

/-- What a label is written as is read back as the label. -/
theorem decodeLabel_encodeLabel {label code : List Char}
    (encoded : encodeLabel? label = some code) : decodeLabel? code = some label := by
  obtain ⟨digits, written, rfl⟩ := encodeLabel_eq_some encoded
  have noMark : '-' ∉ digits := by
    intro member
    exact absurd (digit_of_mem_encodePoints written member) (by decide)
  have sorted : (((label.map (·.toNat)).filter (firstPoint ≤ ·)).mergeSort).Pairwise (· ≤ ·) := by
    have pairwise : (((label.map (·.toNat)).filter (firstPoint ≤ ·)).mergeSort).Pairwise
        fun low high => decide (low ≤ high) = true :=
      List.pairwise_mergeSort (by simpa using fun _ _ _ => Nat.le_trans)
        (by simpa using Nat.le_total) _
    simpa using pairwise
  have start : InStep firstPoint [] label
      ⟨0, 72, (label.filter (·.toNat < firstPoint)).length, true⟩ firstPoint 0 :=
    ⟨rfl, rfl, Nat.le_refl _, by simp, Nat.zero_le _⟩
  rw [decodeLabel_of_parts noMark]
  refine decodeAll_encodePoints start (pairwise_eraseDups sorted) ?_ ?_ written
  · intro point member
    rw [List.mem_eraseDups, List.mem_mergeSort, List.mem_filter] at member
    exact of_decide_eq_true member.2
  · intro c member high
    rw [List.mem_eraseDups, List.mem_mergeSort, List.mem_filter]
    exact ⟨List.mem_map_of_mem member, decide_eq_true high⟩

end Metasearch.Url
