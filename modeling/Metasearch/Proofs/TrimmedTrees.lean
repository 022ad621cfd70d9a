/-
This file settles what trim markers do to a template. With markers at any of its actions a text is
read as it was without them: the tree has the same actions in the same places, and each text in it
has lost the blanks that the markers beside it take off, and is gone if nothing is left of it.

The tree is built from the same actions with and without the markers. Whatever is open on the way,
the runs of text met so far stand in both trees at the same places, outermost parts first; each
action keeps it so, and so does each run.
-/
import Metasearch.Proofs.TrimMarkers

namespace Metasearch.Template

variable {runs more : List Run} {nodes trimmed : List Node}

/-! ### Trimmed trees -/

/-- A tree that has runs for its texts, in their order, and the tree with what is left of them. A
run without characters is no text in either; everything else is the same. -/
inductive Trimmed : List Run → List Node → List Node → Prop
  | nil : Trimmed [] [] []
  | run (run : Run) : Trimmed [run] (textNodes run.content) (textNodes run.kept)
  | field (path : Path) : Trimmed [] [.field path] [.field path]
  | range (path : Path) {inBody inOther : List Run} {body other body' other' : List Node}
      (bodies : Trimmed inBody body body') (others : Trimmed inOther other other') :
      Trimmed (inBody ++ inOther) [.range path body other] [.range path body' other']
  | cond (path : Path) {inBody inOther : List Run} {body other body' other' : List Node}
      (bodies : Trimmed inBody body body') (others : Trimmed inOther other other') :
      Trimmed (inBody ++ inOther) [.cond path body other] [.cond path body' other']
  | append {left right : List Run} {nodes nodes' behind behind' : List Node}
      (first : Trimmed left nodes nodes') (second : Trimmed right behind behind') :
      Trimmed (left ++ right) (nodes ++ behind) (nodes' ++ behind')

mutual

/-- What stands in place of a node when its texts are taken from runs, one after the other, and the
runs that are left over. -/
def refillNode : Node → List Run → List Node × List Run
  | .text _, [] => ([], [])
  | .text _, run :: runs => (textNodes run.kept, runs)
  | .field path, runs => ([.field path], runs)
  | .range path body otherwise, runs =>
    let (body, runs) := refillNodes body runs
    let (otherwise, runs) := refillNodes otherwise runs
    ([.range path body otherwise], runs)
  | .cond path body otherwise, runs =>
    let (body, runs) := refillNodes body runs
    let (otherwise, runs) := refillNodes otherwise runs
    ([.cond path body otherwise], runs)

/-- The same for nodes in a row. -/
def refillNodes : List Node → List Run → List Node × List Run
  | [], runs => ([], runs)
  | node :: rest, runs =>
    let (here, runs) := refillNode node runs
    let (behind, runs) := refillNodes rest runs
    (here ++ behind, runs)

end

theorem refillNodes_append (left right : List Node) (runs : List Run) :
    refillNodes (left ++ right) runs =
      ((refillNodes left runs).1 ++ (refillNodes right (refillNodes left runs).2).1,
        (refillNodes right (refillNodes left runs).2).2) := by
  induction left generalizing runs with
  | nil => rfl
  | cons node rest inductionHypothesis =>
    simp only [List.cons_append, refillNodes, inductionHypothesis, List.append_assoc]

/-- The runs that have characters, so that they are texts of the tree. -/
def present (runs : List Run) : List Run :=
  runs.filter fun run => !run.content.isEmpty

theorem present_append (left right : List Run) :
    present (left ++ right) = present left ++ present right :=
  List.filter_append ..

/-- The trimmed tree is found by taking the texts from the runs. -/
theorem Trimmed.refill (isTrimmed : Trimmed runs nodes trimmed) (more : List Run) :
    refillNodes nodes (present runs ++ more) = (trimmed, more) := by
  induction isTrimmed generalizing more with
  | nil => rfl
  | run run =>
    obtain ⟨content, behindMarker, beforeMarker⟩ := run
    cases content with
    | nil => cases behindMarker <;> cases beforeMarker <;> rfl
    | cons c rest => exact congrArg (·, more) (List.append_nil _)
  | field path => rfl
  | range path _ _ inBody inOther =>
    simp [refillNodes, refillNode, present_append, inBody, inOther]
  | cond path _ _ inBody inOther =>
    simp [refillNodes, refillNode, present_append, inBody, inOther]
  | append _ _ first second =>
    simp [refillNodes_append, present_append, first, second]

/-- There is one trimmed tree. -/
theorem Trimmed.unique {other : List Node} (isTrimmed : Trimmed runs nodes trimmed)
    (also : Trimmed runs nodes other) : other = trimmed :=
  congrArg Prod.fst ((also.refill []).symm.trans (isTrimmed.refill []))

/-! ### Trees under construction -/

/-- An open part with runs for its texts, and the part with what is left of them. -/
inductive TrimmedPart : List Run → OpenPart → OpenPart → Prop
  | body (opening : Opening) {inBody : List Run} {body body' : List Node}
      (bodies : Trimmed inBody body body') :
      TrimmedPart inBody ⟨opening, body, none⟩ ⟨opening, body', none⟩
  | other (opening : Opening) {inBody inOther : List Run} {body other body' other' : List Node}
      (bodies : Trimmed inBody body body') (others : Trimmed inOther other other') :
      TrimmedPart (inBody ++ inOther) ⟨opening, body, some other⟩ ⟨opening, body', some other'⟩

/-- The same for all parts that are open, the runs of the outermost first. -/
inductive TrimmedParts : List Run → List OpenPart → List OpenPart → Prop
  | nil : TrimmedParts [] [] []
  | cons {outside inside : List Run} {parts parts' : List OpenPart} {part part' : OpenPart}
      (outer : TrimmedParts outside parts parts') (inner : TrimmedPart inside part part') :
      TrimmedParts (outside ++ inside) (part :: parts) (part' :: parts')

/-- The same for a tree under construction. -/
inductive TrimmedBuilder : List Run → Builder → Builder → Prop
  | mk {before inParts : List Run} {root root' : List Node} {parts parts' : List OpenPart}
      (roots : Trimmed before root root') (open? : TrimmedParts inParts parts parts') :
      TrimmedBuilder (before ++ inParts) ⟨root, parts⟩ ⟨root', parts'⟩

theorem TrimmedPart.close {part part' : OpenPart} (isTrimmed : TrimmedPart runs part part') :
    Trimmed runs [part.close] [part'.close] := by
  cases isTrimmed with
  | body opening bodies =>
    rw [← List.append_nil runs]
    cases opening with
    | range path => exact .range path bodies .nil
    | cond path => exact .cond path bodies .nil
  | other opening bodies others =>
    cases opening with
    | range path => exact .range path bodies others
    | cond path => exact .cond path bodies others

namespace TrimmedBuilder

variable {builder builder' next : Builder}

/-- Nodes are put at the same place in both trees. -/
theorem push (isTrimmed : TrimmedBuilder runs builder builder')
    (pushed : Trimmed more nodes trimmed) :
    TrimmedBuilder (runs ++ more) (nodes.foldl Builder.push builder)
      (trimmed.foldl Builder.push builder') := by
  obtain ⟨roots, open?⟩ := isTrimmed
  cases open? with
  | nil =>
    rw [Builder.foldl_push_root, Builder.foldl_push_root, List.append_nil,
      ← List.append_nil (_ ++ more)]
    exact ⟨roots.append pushed, .nil⟩
  | cons outer inner =>
    cases inner with
    | body opening bodies =>
      rw [Builder.foldl_push_body, Builder.foldl_push_body, List.append_assoc, List.append_assoc]
      exact ⟨roots, .cons outer (.body opening (bodies.append pushed))⟩
    | other opening bodies others =>
      rw [Builder.foldl_push_otherwise, Builder.foldl_push_otherwise]
      simp only [List.append_assoc]
      exact ⟨roots, .cons outer (.other opening bodies (others.append pushed))⟩

/-- What an action asks for is done in both trees. -/
theorem heed (isTrimmed : TrimmedBuilder runs builder builder') {request : Request}
    (done : builder.heed request = .ok next) :
    ∃ next', builder'.heed request = .ok next' ∧ TrimmedBuilder runs next next' := by
  cases request with
  | field path =>
    obtain rfl := Except.ok.inj done
    have pushed := isTrimmed.push (.field path)
    rw [List.append_nil] at pushed
    exact ⟨_, rfl, pushed⟩
  | enter opening =>
    obtain rfl := Except.ok.inj done
    obtain ⟨roots, open?⟩ := isTrimmed
    refine ⟨_, rfl, ?_⟩
    have entered := TrimmedParts.cons open? (.body opening .nil)
    rw [List.append_nil] at entered
    exact ⟨roots, entered⟩
  | turn =>
    obtain ⟨roots, open?⟩ := isTrimmed
    cases open? with
    | nil => cases done
    | cons outer inner =>
      cases inner with
      | body opening bodies =>
        obtain rfl := Except.ok.inj done
        refine ⟨_, rfl, ?_⟩
        have turned := TrimmedPart.other opening bodies .nil
        rw [List.append_nil] at turned
        exact ⟨roots, .cons outer turned⟩
      | other => cases done
  | leave =>
    obtain ⟨roots, open?⟩ := isTrimmed
    cases open? with
    | nil => cases done
    | cons outer inner =>
      obtain rfl := Except.ok.inj done
      refine ⟨_, rfl, ?_⟩
      rw [← List.append_assoc]
      exact push ⟨roots, outer⟩ inner.close

/-- A piece of text is put in both trees, as far as something is left of it. -/
theorem text (isTrimmed : TrimmedBuilder runs builder builder') (run : Run) :
    TrimmedBuilder (runs ++ [run]) ((textNodes run.content).foldl Builder.push builder)
      ((textNodes run.kept).foldl Builder.push builder') :=
  isTrimmed.push (.run run)

theorem act (isTrimmed : TrimmedBuilder runs builder builder') {action : List Char}
    (taken : builder.act action = .ok next) :
    ∃ next', builder'.act action = .ok next' ∧ TrimmedBuilder runs next next' := by
  obtain ⟨request, further, asks⟩ := Builder.exists_asks_of_act taken
  rw [Builder.act_of_asks asks] at taken ⊢
  exact isTrimmed.heed taken

/-- The same actions between runs and between what is left of them build a tree and the tree
trimmed. -/
theorem interleaved {actions : List (List Char)} {last : Builder}
    (isTrimmed : TrimmedBuilder runs builder builder')
    (builds : (interleave (more.map Run.content) actions).foldlM Builder.take builder =
      .ok last) :
    ∃ last', (interleave (more.map Run.kept) actions).foldlM Builder.take builder' = .ok last' ∧
      TrimmedBuilder (runs ++ more) last last' := by
  induction more generalizing runs builder builder' actions with
  | nil =>
    obtain rfl := Except.ok.inj builds
    rw [List.append_nil]
    exact ⟨builder', rfl, isTrimmed⟩
  | cons run rest inductionHypothesis =>
    have put := isTrimmed.text run
    rw [List.append_cons]
    cases actions with
    | nil =>
      rw [List.map_cons, interleave, List.foldlM_append, foldlM_textPiece] at builds ⊢
      exact inductionHypothesis put builds
    | cons action actions =>
      rw [List.map_cons, interleave, List.foldlM_append, foldlM_textPiece] at builds ⊢
      change List.foldlM Builder.take _ (.action action :: _) = _ at builds
      change ∃ last', List.foldlM Builder.take _ (.action action :: _) = _ ∧ _
      rw [List.foldlM_cons] at builds ⊢
      obtain ⟨next, taken, behind⟩ := except_of_bind builds
      obtain ⟨next', taken', acted⟩ := put.act taken
      obtain ⟨last', builds', isLast⟩ := inductionHypothesis acted behind
      refine ⟨last', ?_, isLast⟩
      rw [Builder.take, taken']
      exact builds'

end TrimmedBuilder

/-! ### Reading with markers -/

/-- A template that is read without trim markers is read with markers at any of its actions, and
the tree is the one tree in which each run of text has lost the blanks that the markers beside it
take off, and is gone if nothing is left of it, and everything else is the same. -/
theorem read_withMarkers {name source : String} {nodes : List Node} {marks : List Markers}
    (reads : read name source = .ok ⟨name, nodes⟩) (unmarked : Unmarked source.toList)
    (fit : List.Forall₂ Markers.Fits marks (actionTexts source.toList)) :
    ∃ trimmed,
      read name (String.ofList (withMarkers marks source.toList)) = .ok ⟨name, trimmed⟩ ∧
      Trimmed (runsOf false marks source.toList) nodes trimmed ∧
      ∀ other, Trimmed (runsOf false marks source.toList) nodes other → other = trimmed := by
  have builds := readNodes_eq_ok.mp (read_eq_ok_iff.mp reads).2
  obtain ⟨pieces, marked⟩ := pieces_withMarkers
    (fallsInto_pieces unmarked (unclosed_not_mem_of_builds builds)) fit false
  rw [pieces] at builds
  obtain ⟨last, builds', isTrimmed⟩ :=
    TrimmedBuilder.interleaved (.mk .nil .nil) builds
  rw [List.append_nil, List.nil_append] at isTrimmed
  generalize runsOf false marks source.toList = all at *
  obtain ⟨trimmed, rfl, trims⟩ : ∃ trimmed, last = ⟨trimmed, []⟩ ∧ Trimmed all nodes trimmed := by
    cases isTrimmed with
    | mk roots open? =>
      cases open? with
      | nil => exact ⟨_, rfl, by simpa using roots⟩
  refine ⟨trimmed, ?_, trims, fun other also => trims.unique also⟩
  rw [read_eq_ok_iff, String.toList_ofList, readNodes_eq_ok, marked]
  exact ⟨rfl, builds'⟩

/-- A range with blanks on both sides of everything in it. -/
def spacedSource : String :=
  "a \x7b\x7b range .Categories \x7d\x7d \x7b\x7b.\x7d\x7d \x7b\x7b end \x7d\x7d b"

/-- Its tree. -/
def spacedNodes : List Node :=
  [.text "a ", .range ["Categories"] [.text " ", .field [], .text " "] [], .text " b"]

/-- A marker in front of the range, one at each end of the field, and one behind the end; only the
field has no blanks of its own. -/
def spacedMarks : List Markers :=
  [⟨some [], none⟩, ⟨some [' '], some ['\t']⟩, ⟨none, some []⟩]

/-- The texts at the outermost level lose their blanks, and those in the range are gone. -/
theorem read_withMarkers_spaced :
    read "inputs" spacedSource = .ok ⟨"inputs", spacedNodes⟩ ∧
      Unmarked spacedSource.toList ∧
      List.Forall₂ Markers.Fits spacedMarks (actionTexts spacedSource.toList) ∧
      String.ofList (withMarkers spacedMarks spacedSource.toList) =
        "a \x7b\x7b- range .Categories \x7d\x7d \x7b\x7b- .\t-\x7d\x7d \x7b\x7b end -\x7d\x7d b" ∧
      read "inputs" (String.ofList (withMarkers spacedMarks spacedSource.toList)) =
        .ok ⟨"inputs", [.text "a", .range ["Categories"] [.field []] [], .text "b"]⟩ := by
  have reads : read "inputs" spacedSource = .ok ⟨"inputs", spacedNodes⟩ := by cbv
  have listed : actionTexts spacedSource.toList =
      [" range .Categories ".toList, ".".toList, " end ".toList] := by cbv
  have unmarked : Unmarked spacedSource.toList := by
    rw [Unmarked, listed]
    decide
  have fit : List.Forall₂ Markers.Fits spacedMarks (actionTexts spacedSource.toList) := by
    rw [listed]
    refine .cons ⟨?_, ?_⟩ (.cons ⟨?_, ?_⟩ (.cons ⟨?_, ?_⟩ .nil)) <;> rintro blanks ⟨⟩
    · exact ⟨rfl, ' ', rfl, rfl⟩
    · exact ⟨rfl, ' ', rfl, rfl⟩
    · exact ⟨rfl, '\t', rfl, rfl⟩
    · exact ⟨rfl, ' ', rfl, rfl⟩
  obtain ⟨trimmed, marked, trims, -⟩ := read_withMarkers reads unmarked fit
  have refilled : refillNodes spacedNodes
      (present (runsOf false spacedMarks spacedSource.toList) ++ []) =
        ([.text "a", .range ["Categories"] [.field []] [], .text "b"], []) := by cbv
  obtain rfl := congrArg Prod.fst ((trims.refill []).symm.trans refilled)
  exact ⟨reads, unmarked, fit, by cbv, marked⟩

end Metasearch.Template
