/-
Selectors: conditions on an element and on its surroundings. A chain of conditions is read from
its right end, the element itself, outwards or backwards to the elements that it leads to.
-/

namespace Metasearch.Selector

/-- How an attribute's value is compared with a given one. -/
inductive Comparison
  | equal
  | includesWord
  | startsWithPart
  | startsWith
  | endsWith
  | contains
  deriving DecidableEq, Repr

/-- Whether the case of letters counts; for some attributes of HTML it does not. -/
inductive CaseRule
  | exact
  | ignored
  | ignoredInHtml
  deriving DecidableEq, Repr

/-- What is asked of an attribute's value. -/
structure ValueTest where
  comparison : Comparison
  caseRule : CaseRule
  value : String
  deriving DecidableEq, Repr

/-- How a chain goes on from one element to the next. -/
inductive Combinator
  | descendant
  | child
  | nextSibling
  | laterSibling
  deriving DecidableEq, Repr

mutual

/-- A condition on an element. -/
inductive Condition
  | anything
  | nothing
  /-- The element's name, as written; in HTML its case does not count. -/
  | name (name : String)
  | id (id : String)
  | hasClass (name : String)
  | attribute (anySpace : Bool) (name : String) (test : Option ValueTest)
  /-- The place among the siblings, or those of the same type, is `step * n + start`. -/
  | nth (fromEnd sameType : Bool) (step start : Int)
  | empty
  | root
  | scope
  /-- The element that a search inside or behind it began with. -/
  | anchor
  | anyOf (chains : List Chain)
  | noneOf (chains : List Chain)
  /-- Some element inside or behind this one ends a chain that begins with it. -/
  | has (chains : List Chain)

/-- Conditions on an element, and the rest of the chain to its left. -/
inductive Chain
  | single (conditions : List Condition)
  | linked (conditions : List Condition) (combinator : Combinator) (left : Chain)

end

instance : Inhabited Chain := ⟨.single []⟩

end Metasearch.Selector

namespace Metasearch

/-- A selector: alternatives of which an element has to fit one. -/
structure Selector where
  chains : List Selector.Chain
  deriving Inhabited

end Metasearch
