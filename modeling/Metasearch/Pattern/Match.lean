/-
Matching patterns against texts. A place in the text leads to other places, in order of
preference: the first branch before the second, more repetitions before fewer (or the other way
round for lazy ones). A place is reached once, in the best way that leads there, since what can
follow does not depend on the way. The match of a pattern starts at the first place from which
any other can be reached, and ends at the one it prefers.
-/
import Metasearch.Pattern.Reader

namespace Metasearch

/-- A pattern with the text it was read from. -/
structure Pattern where
  text : String
  node : Pattern.Node
  deriving DecidableEq, Repr

namespace Pattern

/-- The pattern of a text. -/
def read? (text : String) : Option Pattern :=
  (readNode? text).map (⟨text, ·⟩)

/-! ### Places -/

/-- A place in a text: how many characters stand before it, these (last first), those behind
it, and what the groups passed on the way there enclose, as their numbers, starts and ends,
last first. -/
structure Place where
  index : Nat
  before : List Char
  after : List Char
  groups : List (Nat × Nat × Nat)
  deriving DecidableEq, Repr

/-- The start of a text. -/
def Place.start (text : List Char) : Place :=
  ⟨0, [], text, []⟩

/-- The place one character on. -/
def Place.next? (place : Place) : Option (Char × Place) :=
  match place.after with
  | [] => none
  | c :: rest => some (c, { place with
      index := place.index + 1, before := c :: place.before, after := rest })

/-- The places without those whose index came before; the indices that came before are the bits
of a number. -/
def withoutSeen : Nat → List Place → List Place
  | _, [] => []
  | seen, place :: rest =>
    if seen.testBit place.index then withoutSeen seen rest
    else place :: withoutSeen (seen ||| Number.twoTo place.index) rest

/-- Each place once, the first of those with one index. -/
def distinct (places : List Place) : List Place :=
  match places with
  | [] | [_] => places
  | _ => withoutSeen 0 places

/-! ### Repetition -/

/-- Exactly so many steps, one behind another. -/
def exactly (step : Place → List Place) : Nat → Place → List Place
  | 0, place => [place]
  | count + 1, place => distinct ((step place).flatMap (exactly step count))

/-- Up to so many steps. -/
def atMost (step : Place → List Place) (greedy : Bool) : Nat → Place → List Place
  | 0, place => [place]
  | count + 1, place =>
    let further := (step place).flatMap (atMost step greedy count)
    distinct (if greedy then further ++ [place] else place :: further)

/-- One step or more: the places found so far, last first, and the indices of all of them. A
step that leads nowhere new is not followed. -/
def follow (step : Place → List Place) (greedy : Bool) :
    Nat → List Place × Nat → Place → List Place × Nat
  | 0, found, _ => found
  | fuel + 1, found, place =>
    (step place).foldl (fun (found, seen) next =>
      if seen.testBit next.index then (found, seen)
      else
        let seen := seen ||| Number.twoTo next.index
        if next.index == place.index then (next :: found, seen)
        else if greedy then
          let (found, seen) := follow step greedy fuel (found, seen) next
          (next :: found, seen)
        else follow step greedy fuel (next :: found, seen) next) found

/-- One step or more, as many as possible or as few. -/
def oneOrMore (step : Place → List Place) (greedy : Bool) (place : Place) : List Place :=
  (follow step greedy (place.after.length + 1) ([], 0) place).1.reverse

/-- At least so many steps. -/
def atLeast (step : Place → List Place) (greedy : Bool) (least : Nat) (place : Place) :
    List Place :=
  match least with
  | 0 =>
    let further := oneOrMore step greedy place
    distinct (if greedy then further ++ [place] else place :: further)
  | least + 1 => distinct ((exactly step least place).flatMap (oneOrMore step greedy))

/-! ### Trees -/

/-- The places a tree leads to, each once, the preferred first. -/
def Node.ends : Node → Place → List Place
  | .nothing, place => [place]
  | .one set, place =>
    match place.next? with
    | some (c, next) => if set.contains c then [next] else []
    | none => []
  | .look check, place =>
    if check.holds place.before.head? place.after.head? then [place] else []
  | .both first second, place => distinct ((first.ends place).flatMap second.ends)
  | .either first second, place => distinct (first.ends place ++ second.ends place)
  | .group number inner, place =>
    (inner.ends place).map fun next =>
      { next with groups := (number, place.index, next.index) :: next.groups }
  | .repeated least most greedy inner, place =>
    match most with
    | none => atLeast inner.ends greedy least place
    | some most =>
      distinct ((exactly inner.ends least place).flatMap
        (atMost inner.ends greedy (most - least)))

/-! ### Matches -/

/-- A match: where it starts, and the place where it ends. -/
structure Match where
  start : Nat
  finish : Place

/-- The match from the first place, of this one and those behind it, that has one. -/
def matchFrom (node : Node) : Nat → Place → Option Match
  | 0, _ => none
  | fuel + 1, place =>
    match node.ends place with
    | finish :: _ => some ⟨place.index, finish⟩
    | [] => (place.next?).bind fun (_, next) => matchFrom node fuel next

/-- The part of a text between two indices. -/
def slice (text : List Char) (start finish : Nat) : String :=
  String.ofList ((text.drop start).take (finish - start))

/-- The part of the text that the pattern picks: that of the first group if it has groups
(nothing if the group was not passed), else all that it matches. -/
def pick? (pattern : Pattern) (text : String) : Option String := do
  let chars := text.toList
  let found ← matchFrom pattern.node (chars.length + 1) (Place.start chars)
  if pattern.node.lastGroup == 0 then return slice chars found.start found.finish.index
  else
    match found.finish.groups.find? (·.1 == 1) with
    | some (_, start, finish) => return slice chars start finish
    | none => return ""

end Pattern

end Metasearch
