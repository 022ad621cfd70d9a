/-
Patterns that pick a part out of a text. A pattern is a tree: single characters out of sets,
checks of what stands around a place, one thing behind another, one thing or else another,
things repeated, and numbered groups whose part of the text is remembered. Letters, digits,
word characters and blanks are those of ASCII; only the full stop and the complements of sets
reach beyond.
-/

namespace Metasearch.Pattern

/-! ### Sets of characters -/

/-- A part of a set: the code points in some ranges, or all others. -/
structure CharRanges where
  ranges : List (Nat × Nat)
  inverted : Bool
  deriving DecidableEq, Repr

/-- A set of characters: those in any of the parts, or all others. A set that folds has each
letter of ASCII in both cases as soon as it has it in one. -/
structure CharSet where
  parts : List CharRanges
  folds : Bool
  inverted : Bool
  deriving DecidableEq, Repr

/-- The character is in the part. -/
def CharRanges.contains (part : CharRanges) (c : Char) : Bool :=
  (part.ranges.any fun (first, last) => first ≤ c.toNat && c.toNat ≤ last) != part.inverted

/-- A letter of ASCII in the other case; other characters stay. -/
def otherCase (c : Char) : Char :=
  if c.isUpper then c.toLower else c.toUpper

/-- The character is in the set. -/
def CharSet.contains (set : CharSet) (c : Char) : Bool :=
  (set.parts.any fun part => part.contains c || (set.folds && part.contains (otherCase c))) !=
    set.inverted

/-- The set of one character. -/
def CharSet.single (folds : Bool) (c : Char) : CharSet :=
  ⟨[⟨[(c.toNat, c.toNat)], false⟩], folds, false⟩

/-- The sets that have names, as ranges. -/
def namedRanges? (name : String) : Option (List (Nat × Nat)) :=
  match name with
  | "alnum" => some [(48, 57), (65, 90), (97, 122)]
  | "alpha" => some [(65, 90), (97, 122)]
  | "ascii" => some [(0, 127)]
  | "blank" => some [(9, 9), (32, 32)]
  | "cntrl" => some [(0, 31), (127, 127)]
  | "digit" => some [(48, 57)]
  | "graph" => some [(33, 126)]
  | "lower" => some [(97, 122)]
  | "print" => some [(32, 126)]
  | "punct" => some [(33, 47), (58, 64), (91, 96), (123, 126)]
  | "space" => some [(9, 13), (32, 32)]
  | "upper" => some [(65, 90)]
  | "word" => some [(48, 57), (65, 90), (95, 95), (97, 122)]
  | "xdigit" => some [(48, 57), (65, 70), (97, 102)]
  | _ => none

/-- The character can be part of a word. -/
def isWordChar (c : Char) : Bool :=
  c.isAlphanum || c == '_'

/-! ### Checks -/

/-- A check of what stands before and behind a place. -/
inductive Check
  | start
  | finish
  | lineStart
  | lineFinish
  | anyLineStart
  | anyLineFinish
  | wordEdge
  | noWordEdge
  | wordStart
  | wordFinish
  | wordStartHalf
  | wordFinishHalf
  deriving DecidableEq, Repr

/-- The check holds between two characters, or at the ends of the text. -/
def Check.holds (before after : Option Char) : Check → Bool
  | .start => before.isNone
  | .finish => after.isNone
  | .lineStart => before.isNone || before == some '\n'
  | .lineFinish => after.isNone || after == some '\n'
  | .anyLineStart =>
    before.isNone || before == some '\n' || (before == some '\r' && after != some '\n')
  | .anyLineFinish =>
    after.isNone || after == some '\r' || (after == some '\n' && before != some '\r')
  | .wordEdge => before.any isWordChar != after.any isWordChar
  | .noWordEdge => before.any isWordChar == after.any isWordChar
  | .wordStart => !before.any isWordChar && after.any isWordChar
  | .wordFinish => before.any isWordChar && !after.any isWordChar
  | .wordStartHalf => !before.any isWordChar
  | .wordFinishHalf => !after.any isWordChar

/-! ### Trees -/

/-- The tree of a pattern. -/
inductive Node
  | nothing
  | one (set : CharSet)
  | look (check : Check)
  | both (first second : Node)
  | either (first second : Node)
  | group (number : Nat) (inner : Node)
  | repeated (least : Nat) (most : Option Nat) (greedy : Bool) (inner : Node)
  deriving DecidableEq, Repr

/-- The greatest number of a group that can be entered: a thing repeated no times is not there. -/
def Node.lastGroup : Node → Nat
  | .nothing | .one _ | .look _ => 0
  | .both first second | .either first second => max first.lastGroup second.lastGroup
  | .group number inner => max number inner.lastGroup
  | .repeated _ most _ inner => if most == some 0 then 0 else inner.lastGroup

/-- How many steps the tree has with its repetitions written out. -/
def Node.steps : Node → Nat
  | .nothing | .one _ | .look _ => 1
  | .both first second => first.steps + second.steps
  | .either first second => first.steps + second.steps + 2
  | .group _ inner => inner.steps + 2
  | .repeated least most _ inner =>
    (match most with
      | none => max least 1
      | some most => most) * (inner.steps + 1) + 1

end Metasearch.Pattern
