/-
Closing a running style. Styles may be closed in another order than they were opened, and across
paragraphs: the elements between the style and the place of its end tag are then split, so that
every stretch of content keeps the styles that were open where it was written.
-/
import Metasearch.Markup.Builder

namespace Metasearch.Markup.Builder

/-- Closes the innermost open element of a name, unless a special element is in between. -/
def closeOrdinary (builder : Builder) (name : String) : Builder :=
  let found := builder.openNodes.find? fun node =>
    (builder.elementOf node).isHtml name || (builder.elementOf node).isSpecial
  match found with
  | none => builder
  | some node =>
    if (builder.elementOf node).isHtml name then
      let builder := builder.closeImpliedExcept name
      { builder with openNodes := (builder.openNodes.dropWhile (· != node)).drop 1 }
    else builder

/-- What is being moved while the elements around a block are split: the elements to keep open,
innermost first, the node that goes into the next copy, and the copy behind which the style is to
be listed. -/
structure Split where
  builder : Builder
  kept : List Nat
  moved : Nat
  behind : Option Nat

/-- Splits the elements between a block and the style around it, the innermost first; styles get
a copy, up to three of them, and the others are closed. -/
def splitBetween (block : Nat) (count : Nat) (split : Split) : List Nat → Split
  | [] => split
  | node :: rest =>
    let builder := split.builder
    let tag? := builder.styles.findSome? fun
      | .style other tag => if other == node then some tag else none
      | .border => none
    match tag? with
    | none => splitBetween block (count + 1) split rest
    | some tag =>
      if count > 3 then
        splitBetween block (count + 1) { split with builder := builder.removeStyle node } rest
      else
        let (copy, builder) := builder.create (htmlElement tag)
        let styles := builder.styles.map fun entry =>
          if entry.isFor node then .style copy tag else entry
        let builder := { builder with styles }
        let builder := { builder with arena := builder.arena.append copy split.moved }
        splitBetween block (count + 1)
          { builder
            kept := split.kept ++ [copy]
            moved := copy
            behind := if split.moved == block then some copy else split.behind } rest

/-- The list of styles with an entry put just before, in time after, the entry of a node. -/
def listBehind (node : Nat) (entry : StyleEntry) : List StyleEntry → List StyleEntry
  | [] => []
  | head :: rest =>
    if head.isFor node then entry :: head :: rest else head :: listBehind node entry rest

/-- Splits the tree around a style, given the block that stays open inside it. -/
def splitStyle (builder : Builder) (style : Nat) (tag : Tag) (block : Nat) : Builder :=
  let inside := builder.openNodes.takeWhile (· != style)
  let outside := (builder.openNodes.dropWhile (· != style)).drop 1
  let within := inside.takeWhile (· != block)
  let between := (inside.dropWhile (· != block)).drop 1
  let split := splitBetween block 1 ⟨builder, [], block, none⟩ between
  let builder := split.builder
  let builder := { builder with arena := builder.arena.detach split.moved }
  let builder := builder.putNode (builder.spotIn (outside.headD 0)) split.moved
  let (copy, builder) := builder.create (htmlElement tag)
  let arena := (builder.arena.moveChildren block copy).append block copy
  let entry : StyleEntry := .style copy tag
  let styles := match split.behind with
    | none => builder.styles.map fun other => if other.isFor style then entry else other
    | some node =>
      (listBehind node entry builder.styles).filter fun other => !other.isFor style
  { builder with arena, styles, openNodes := within ++ copy :: block :: split.kept ++ outside }

/-- Closes a style, in as many rounds as it takes. -/
def closeStyleRounds (rounds : Nat) (builder : Builder) (name : String) : Builder :=
  match rounds with
  | 0 => builder
  | rounds + 1 =>
    match builder.style? name with
    | none => builder.closeOrdinary name
    | some (style, tag) =>
      if !builder.openNodes.contains style then builder.removeStyle style
      else if !builder.inScopeFrom Element.isScope (· == style) builder.openNodes then builder
      else
        let inside := builder.openNodes.takeWhile (· != style)
        match inside.reverse.find? fun node => (builder.elementOf node).isSpecial with
        | none =>
          let builder := builder.removeStyle style
          { builder with openNodes := (builder.openNodes.dropWhile (· != style)).drop 1 }
        | some block => closeStyleRounds rounds (builder.splitStyle style tag block) name

/-- Closes a style. -/
def closeStyle (builder : Builder) (name : String) : Builder :=
  if builder.currentIs name && !builder.isStyle builder.current then builder.close
  else closeStyleRounds 8 builder name

/-- A link inside a link closes the outer one. -/
def closeOuterLink (builder : Builder) : Builder :=
  let outer := (builder.styles.takeWhile (· != .border)).findSome? fun
    | .style node _ => if (builder.elementOf node).isHtml "a" then some node else none
    | .border => none
  match outer with
  | none => builder
  | some node => ((builder.closeStyle "a").removeStyle node).removeOpen node

end Metasearch.Markup.Builder
