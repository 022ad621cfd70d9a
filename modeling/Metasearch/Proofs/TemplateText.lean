/-
This file settles that reading a template undoes writing it. A tree is written with its texts as
they are and one blank at either brace of an action; the other part of a range or a condition is
left out where it is empty. Reading the result gives the tree again, however deep it is.

The way there is that of the reader. A written tree is the text of a list of pieces, each piece
is found again where it was written, and the pieces build the tree: whatever is open already, the
pieces of a node put that node where the next one goes.
-/
import Metasearch.Template.Reader

namespace Metasearch.Template

open Text (cut occursIn isBlank trim words splitAt)

/-! ### Writing a tree -/

/-- The word that opens a range. -/
def rangeWord : List Char := ['r', 'a', 'n', 'g', 'e']

/-- The word that opens a condition. -/
def condWord : List Char := ['i', 'f']

/-- The word that turns to the other part. -/
def elseWord : List Char := ['e', 'l', 's', 'e']

/-- The word that ends a part. -/
def endWord : List Char := ['e', 'n', 'd']

/-- An action as it is written. -/
def writeAction (body : List Char) : List Char :=
  openingBraces ++ ' ' :: body ++ ' ' :: closingBraces

/-- A field reference as it is written: a point before each name, and a point alone for no
name. -/
def writePath (path : Path) : List Char :=
  if path.isEmpty then ['.'] else path.flatMap fun name => '.' :: name.toList

/-- What an action says that opens a part. -/
def openingOf (word : List Char) (path : Path) : List Char :=
  word ++ ' ' :: writePath path

/-- The other part of a range or a condition as it is written, given how its nodes are; nothing
if there are none. -/
def writeOtherwise (absent : Bool) (nodes : List Char) : List Char :=
  if absent then [] else writeAction elseWord ++ nodes

/-- A part as it is written, given how its body and its other part are. -/
def writePart (word : List Char) (path : Path) (body otherwise : List Char) : List Char :=
  writeAction (openingOf word path) ++ (body ++ (otherwise ++ writeAction endWord))

mutual

/-- A node as it is written. -/
def writeNode : Node → List Char
  | .text content => content.toList
  | .field path => writeAction (writePath path)
  | .range path body otherwise =>
    writePart rangeWord path (writeNodes body)
      (writeOtherwise otherwise.isEmpty (writeNodes otherwise))
  | .cond path body otherwise =>
    writePart condWord path (writeNodes body)
      (writeOtherwise otherwise.isEmpty (writeNodes otherwise))

/-- Nodes in a row as they are written. -/
def writeNodes : List Node → List Char
  | [] => []
  | node :: rest => writeNode node ++ writeNodes rest

end

/-- The text of a tree. -/
def write (nodes : List Node) : String :=
  String.ofList (writeNodes nodes)

/-! ### Trees that can be written -/

/-- A name that can stand in a field reference. -/
def isPlainName (name : String) : Bool :=
  !name.toList.isEmpty && name.toList.all (fun c => !isBlank c && c != '.') &&
    !occursIn closingBraces name.toList

/-- The node is a text. -/
def Node.isText : Node → Bool
  | .text _ => true
  | _ => false

/-- A node can stand before others. A text must not have a text behind it, and must not end in a
brace if there is an action behind it, be it a node or the end of the part; `followed` says that
an action stands behind all the nodes. -/
def fitsBefore (followed : Bool) (rest : List Node) : Node → Bool
  | .text content =>
    !(rest.head?.any Node.isText) &&
      (content.toList.getLast? != some '\x7b' || !(followed || !rest.isEmpty))
  | _ => true

mutual

/-- The node can be written. -/
def isPlain : Node → Bool
  | .text content => !content.toList.isEmpty && !occursIn openingBraces content.toList
  | .field path => path.all isPlainName
  | .range path body otherwise =>
    path.all isPlainName && arePlain true body && arePlain true otherwise
  | .cond path body otherwise =>
    path.all isPlainName && arePlain true body && arePlain true otherwise

/-- Nodes in a row can be written; `followed` says that an action stands behind them. -/
def arePlain (followed : Bool) : List Node → Bool
  | [] => true
  | node :: rest => isPlain node && arePlain followed rest && fitsBefore followed rest node

end

/-! ### The pieces of a tree -/

/-- The pieces of the other part of a range or a condition, given those of its nodes. -/
def piecesOfOtherwise (absent : Bool) (nodes : List Piece) : List Piece :=
  if absent then [] else .action elseWord :: nodes

/-- The pieces of a part, given those of its body and of its other part. -/
def piecesOfPart (word : List Char) (path : Path) (body otherwise : List Piece) : List Piece :=
  .action (openingOf word path) :: (body ++ (otherwise ++ [.action endWord]))

mutual

/-- The pieces of a written node. -/
def piecesOfNode : Node → List Piece
  | .text content => [.text content.toList]
  | .field path => [.action (writePath path)]
  | .range path body otherwise =>
    piecesOfPart rangeWord path (piecesOfNodes body)
      (piecesOfOtherwise otherwise.isEmpty (piecesOfNodes otherwise))
  | .cond path body otherwise =>
    piecesOfPart condWord path (piecesOfNodes body)
      (piecesOfOtherwise otherwise.isEmpty (piecesOfNodes otherwise))

/-- The pieces of nodes in a row. -/
def piecesOfNodes : List Node → List Piece
  | [] => []
  | node :: rest => piecesOfNode node ++ piecesOfNodes rest

end

/-- A piece as it is written. -/
def Piece.write : Piece → List Char
  | .text content => content
  | .action body => writeAction body
  | .unclosed => openingBraces

/-- Pieces in a row as they are written. -/
def writePieces : List Piece → List Char
  | [] => []
  | piece :: rest => piece.write ++ writePieces rest

theorem writePieces_append (left right : List Piece) :
    writePieces (left ++ right) = writePieces left ++ writePieces right := by
  induction left with
  | nil => rfl
  | cons piece rest inductionHypothesis =>
    rw [List.cons_append, writePieces, writePieces, inductionHypothesis, List.append_assoc]

theorem writePieces_piecesOfPart (word : List Char) (path : Path) (body : List Piece)
    (absent : Bool) (otherwise : List Piece) :
    writePieces (piecesOfPart word path body (piecesOfOtherwise absent otherwise)) =
      writePart word path (writePieces body) (writeOtherwise absent (writePieces otherwise)) := by
  cases absent <;>
    simp [piecesOfPart, piecesOfOtherwise, writePart, writeOtherwise, writePieces,
      writePieces_append, Piece.write]

mutual

theorem writePieces_piecesOfNode (node : Node) :
    writePieces (piecesOfNode node) = writeNode node := by
  cases node with
  | text content => exact List.append_nil _
  | field path => exact List.append_nil _
  | range path body otherwise =>
    rw [piecesOfNode, writePieces_piecesOfPart, writePieces_piecesOfNodes body,
      writePieces_piecesOfNodes otherwise, writeNode]
  | cond path body otherwise =>
    rw [piecesOfNode, writePieces_piecesOfPart, writePieces_piecesOfNodes body,
      writePieces_piecesOfNodes otherwise, writeNode]

theorem writePieces_piecesOfNodes (nodes : List Node) :
    writePieces (piecesOfNodes nodes) = writeNodes nodes := by
  cases nodes with
  | nil => rfl
  | cons node rest =>
    rw [piecesOfNodes, writePieces_append, writePieces_piecesOfNode node,
      writePieces_piecesOfNodes rest, writeNodes]

end

/-! ### Field references -/

theorem writePath_cons (name : String) (rest : Path) :
    writePath (name :: rest) =
      '.' :: (name.toList ++ rest.flatMap fun name => '.' :: name.toList) := by
  simp [writePath]

theorem isPlainName_iff {name : String} (plain : isPlainName name = true) :
    name.toList ≠ [] ∧ (∀ c ∈ name.toList, isBlank c = false ∧ (c == '.') = false) ∧
      occursIn closingBraces name.toList = false := by
  simpa [isPlainName, and_assoc] using plain

/-- A field reference has no blanks in it. -/
theorem writePath_solid {path : Path} (plain : path.all isPlainName = true) :
    ∀ c ∈ writePath path, isBlank c = false := by
  intro c member
  unfold writePath at member
  split at member
  · rw [List.mem_singleton.mp member]
    rfl
  · obtain ⟨name, inPath, inName⟩ := List.mem_flatMap.mp member
    rcases List.mem_cons.mp inName with rfl | inside
    · rfl
    · have named := isPlainName_iff (List.all_eq_true.mp plain name inPath)
      exact (named.2.1 c inside).1

theorem writePath_head (path : Path) : (writePath path).head? = some '.' := by
  cases path with
  | nil => rfl
  | cons name rest => rw [writePath_cons]; rfl

theorem writePath_no_braces {path : Path} (plain : path.all isPlainName = true) :
    occursIn closingBraces (writePath path) = false := by
  have general : ∀ left : List Char, occursIn closingBraces left = false →
      occursIn closingBraces (left ++ path.flatMap fun name => '.' :: name.toList) = false := by
    induction path with
    | nil =>
      intro left absent
      simpa using absent
    | cons name rest inductionHypothesis =>
      intro left absent
      rw [List.all_cons, Bool.and_eq_true] at plain
      rw [List.flatMap_cons, ← List.append_assoc]
      exact inductionHypothesis plain.2 _
        (Text.occursIn_double_append (by decide) absent (isPlainName_iff plain.1).2.2)
  cases path with
  | nil => decide
  | cons name rest => exact general [] rfl

/-- A name that a field reference can lead along. -/
def IsName (name : String) : Prop :=
  name.toList ≠ [] ∧ '.' ∉ name.toList

theorem isName_of_plain {path : Path} (plain : path.all isPlainName = true) :
    ∀ name ∈ path, IsName name := by
  intro name member
  obtain ⟨present, solid, -⟩ := isPlainName_iff (List.all_eq_true.mp plain name member)
  exact ⟨present, fun point => absurd (solid '.' point).2 (by decide)⟩

/-- The points between names are where they are cut apart. -/
theorem splitAt_names {name : String} {rest : Path}
    (named : ∀ other ∈ name :: rest, IsName other) :
    splitAt (· == '.') (name.toList ++ rest.flatMap fun name => '.' :: name.toList) =
      (name :: rest).map String.toList := by
  have noPoint : ∀ other ∈ name :: rest, ∀ c ∈ other.toList, (c == '.') = false :=
    fun other member c inside => beq_eq_false_iff_ne.mpr fun same =>
      (named other member).2 (same ▸ inside)
  induction rest generalizing name with
  | nil => simpa using Text.splitAt_of_none (noPoint name List.mem_cons_self)
  | cons next rest inductionHypothesis =>
    rw [List.flatMap_cons, List.cons_append, Text.splitAt_append_cons (by decide),
      Text.splitAt_of_none (noPoint name List.mem_cons_self),
      inductionHypothesis (List.forall_mem_cons.mp named).2 (List.forall_mem_cons.mp noPoint).2]
    rfl

/-- Reading a field reference undoes writing it. -/
theorem readPath_writePath {path : Path} (named : ∀ name ∈ path, IsName name) :
    readPath (writePath path) = .ok path := by
  cases path with
  | nil => rfl
  | cons name rest =>
    have noneEmpty : ((name :: rest).map String.toList).any List.isEmpty = false := by
      rw [List.any_eq_false]
      intro segment member
      obtain ⟨other, inPath, rfl⟩ := List.mem_map.mp member
      simpa using (named other inPath).1
    obtain ⟨c, more, letters⟩ := List.exists_cons_of_ne_nil (named name List.mem_cons_self).1
    have split := splitAt_names named
    rw [writePath_cons]
    rw [letters, List.cons_append] at split ⊢
    simp only [readPath, split, noneEmpty]
    simp [Function.comp_def]

/-! ### Actions -/

/-- What can stand in an action so that it is found again: it has no closing braces in it and no
blanks at its ends. -/
structure IsAction (body : List Char) : Prop where
  noBraces : occursIn closingBraces body = false
  trimmed : trim (' ' :: body ++ [' ']) = body

theorem isAction_of_ends {body : List Char} {first last : Char}
    (noBraces : occursIn closingBraces body = false) (head : body.head? = some first)
    (end? : body.getLast? = some last) (firstSolid : isBlank first = false)
    (lastSolid : isBlank last = false) : IsAction body := by
  refine ⟨noBraces, ?_⟩
  show trim ([' '] ++ body ++ [' ']) = body
  exact Text.trim_surrounded (by decide) head end? firstSolid lastSolid

theorem isAction_elseWord : IsAction elseWord := ⟨by decide, by decide⟩

theorem isAction_endWord : IsAction endWord := ⟨by decide, by decide⟩

/-- The last character of a field reference. -/
theorem writePath_last {path : Path} (plain : path.all isPlainName = true) :
    ∃ last, (writePath path).getLast? = some last ∧ isBlank last = false := by
  have present : writePath path ≠ [] := by
    intro empty
    have head := writePath_head path
    rw [empty] at head
    exact absurd head (by simp)
  refine ⟨(writePath path).getLast present, List.getLast?_eq_some_getLast present, ?_⟩
  exact writePath_solid plain _ (List.getLast_mem present)

theorem isAction_writePath {path : Path} (plain : path.all isPlainName = true) :
    IsAction (writePath path) := by
  obtain ⟨last, end?, solid⟩ := writePath_last plain
  exact isAction_of_ends (writePath_no_braces plain) (writePath_head path) end? rfl solid

theorem isAction_openingOf {word : List Char} {first : Char} {path : Path}
    (plain : path.all isPlainName = true) (noBraces : occursIn closingBraces word = false)
    (head : word.head? = some first) (solid : isBlank first = false) :
    IsAction (openingOf word path) := by
  obtain ⟨last, end?, lastSolid⟩ := writePath_last plain
  refine isAction_of_ends
    (Text.occursIn_double_append (by decide) noBraces (writePath_no_braces plain)) ?_ ?_
    solid lastSolid
  · rw [openingOf, List.head?_append, head]
    rfl
  · rw [openingOf, List.getLast?_append, List.getLast?_cons, end?]
    rfl

/-- The text between two actions, without the blanks that the trim markers beside it take off. -/
def keptText (behindMarker beforeMarker : Bool) (content : List Char) : List Char :=
  let content := if behindMarker then Text.trimStart content else content
  if beforeMarker then Text.trimEnd content else content

/-- What an action says, without its trim markers and the blanks at its ends. -/
def bareAction (written : List Char) : List Char :=
  trim (dropRightMarker (dropLeftMarker written).2).2

/-- The pieces of a text of which the first action is known. -/
theorem pieces_of_cuts {trimmed : Bool} {text before after body rest : List Char}
    (first : cut openingBraces text = some (before, after))
    (second : cut closingBraces after = some (body, rest)) :
    pieces trimmed text =
      textPiece (keptText trimmed (dropLeftMarker body).1 before) ++
        .action (bareAction body) :: pieces (dropRightMarker (dropLeftMarker body).2).1 rest := by
  rw [pieces]
  split
  · next none => rw [first] at none; cases none
  · next found =>
    rw [first] at found
    cases found
    split
    · next none => rw [second] at none; cases none
    · next found =>
      rw [second] at found
      cases found
      rfl

/-- The pieces of a text without an action. -/
theorem pieces_of_uncut {trimmed : Bool} {text : List Char}
    (uncut : cut openingBraces text = none) :
    pieces trimmed text = textPiece (keptText trimmed false text) := by
  rw [pieces]
  split
  · rfl
  · next found => rw [uncut] at found; cases found

theorem pieces_of_absent {text : List Char} (absent : occursIn openingBraces text = false) :
    pieces false text = textPiece text :=
  pieces_of_uncut (by simpa [occursIn] using absent)

/-- An action is found where it is written, with the text in front of it. -/
theorem pieces_writeAction {before body : List Char}
    (absent : occursIn openingBraces before = false) (ending : before.getLast? ≠ some '\x7b')
    (action : IsAction body) (rest : List Char) :
    pieces false (before ++ (writeAction body ++ rest)) =
      textPiece before ++ .action body :: pieces false rest := by
  have opening : cut openingBraces (before ++ (writeAction body ++ rest)) =
      some (before, (' ' :: body ++ [' ']) ++ '\x7d' :: '\x7d' :: rest) := by
    have shape : before ++ (writeAction body ++ rest) = before ++ '\x7b' :: '\x7b' ::
        ((' ' :: body ++ [' ']) ++ '\x7d' :: '\x7d' :: rest) := by
      simp [writeAction, openingBraces, closingBraces]
    rw [shape]
    exact Text.cut_double absent ending _
  have noBraces : occursIn closingBraces (' ' :: body ++ [' ']) = false := by
    have front : occursIn closingBraces (' ' :: body) = false := by
      rw [closingBraces, Text.occursIn_double_cons, ← closingBraces, action.noBraces]
      rfl
    exact Text.occursIn_double_append (by decide) front rfl
  have blankLast : (' ' :: body ++ [' ']).getLast? ≠ some '\x7d' := by
    rw [List.getLast?_concat]
    decide
  have rightUnmarked : dropRightMarker (' ' :: body ++ [' ']) = (false, ' ' :: body ++ [' ']) := by
    simp [dropRightMarker, dropLeftMarker]
  have leftUnmarked : dropLeftMarker (' ' :: body ++ [' ']) = (false, ' ' :: body ++ [' ']) := rfl
  rw [pieces_of_cuts opening (Text.cut_double noBraces blankLast rest), bareAction, leftUnmarked,
    rightUnmarked, action.trimmed]
  rfl

/-! ### Pieces that are found again -/

/-- Pieces that stay apart when they are written one behind the other. -/
inductive Apart : List Piece → Prop
  | nil : Apart []
  | lastText {content : List Char} : content ≠ [] → occursIn openingBraces content = false →
      Apart [.text content]
  | text {content body : List Char} {rest : List Piece} : content ≠ [] →
      occursIn openingBraces content = false → content.getLast? ≠ some '\x7b' →
      IsAction body → Apart rest → Apart (.text content :: .action body :: rest)
  | action {body : List Char} {rest : List Piece} : IsAction body → Apart rest →
      Apart (.action body :: rest)

theorem textPiece_of_ne_nil {content : List Char} (present : content ≠ []) :
    textPiece content = [.text content] := by
  simp [textPiece, present]

/-- Pieces that stay apart are found where they are written. -/
theorem pieces_writePieces {list : List Piece} (apart : Apart list) :
    pieces false (writePieces list) = list := by
  induction apart with
  | nil => exact pieces_of_absent rfl
  | lastText present absent =>
    rw [writePieces, writePieces, List.append_nil, Piece.write, pieces_of_absent absent,
      textPiece_of_ne_nil present]
  | text present absent ending action _ inductionHypothesis =>
    rw [writePieces, writePieces, Piece.write, Piece.write,
      pieces_writeAction absent ending action, textPiece_of_ne_nil present, inductionHypothesis]
    rfl
  | action action _ inductionHypothesis =>
    rw [writePieces, Piece.write, ← List.nil_append (writeAction _ ++ _),
      pieces_writeAction rfl (by simp) action, inductionHypothesis]
    rfl

/-- What stands behind a node: an action, or nothing at the end of the template. -/
def Continues : Bool → List Piece → Prop
  | true, later => ∃ body rest, later = .action body :: rest ∧ IsAction body ∧ Apart rest
  | false, later => later = []

theorem Continues.apart {followed : Bool} {later : List Piece}
    (continues : Continues followed later) : Apart later := by
  cases followed with
  | true =>
    obtain ⟨body, rest, rfl, action, apart⟩ := continues
    exact .action action apart
  | false =>
    rw [show later = [] from continues]
    exact .nil

theorem continues_action {body : List Char} (action : IsAction body) {rest : List Piece}
    (apart : Apart rest) : Continues true (.action body :: rest) :=
  ⟨body, rest, rfl, action, apart⟩

theorem apart_text {content : List Char} (present : content ≠ [])
    (absent : occursIn openingBraces content = false) {followed : Bool} {later : List Piece}
    (ending : followed = true → content.getLast? ≠ some '\x7b')
    (continues : Continues followed later) : Apart (.text content :: later) := by
  cases followed with
  | true =>
    obtain ⟨body, rest, rfl, action, apart⟩ := continues
    exact .text present absent (ending rfl) action apart
  | false =>
    rw [show later = [] from continues]
    exact .lastText present absent

/-- The pieces of a part start with an action and stay apart, if those of its body and of its
other part do in front of any action. -/
theorem continues_piecesOfPart {word : List Char} {path : Path} {body otherwise : List Piece}
    (opening : IsAction (openingOf word path))
    (inBody : ∀ later, Continues true later → Apart (body ++ later))
    (inOther : ∀ later, Continues true later → Apart (otherwise ++ later)) (absent : Bool)
    {later : List Piece} (behind : Apart later) :
    Continues true (piecesOfPart word path body (piecesOfOtherwise absent otherwise) ++ later) := by
  have ends : Continues true (.action endWord :: later) :=
    continues_action isAction_endWord behind
  have turns : Continues true (piecesOfOtherwise absent otherwise ++ .action endWord :: later) := by
    cases absent with
    | true => exact ends
    | false => exact continues_action isAction_elseWord (inOther _ ends)
  refine ⟨openingOf word path, _, rfl, opening, ?_⟩
  simpa using inBody _ turns

mutual

/-- The pieces of a node that is no text start with an action. -/
theorem continues_piecesOfNode (node : Node) (plain : isPlain node = true)
    (noText : node.isText = false) (later : List Piece) (behind : Apart later) :
    Continues true (piecesOfNode node ++ later) := by
  cases node with
  | text content => exact absurd noText (by simp [Node.isText])
  | field path => exact continues_action (isAction_writePath plain) behind
  | range path body otherwise =>
    obtain ⟨⟨named, plainBody⟩, plainOther⟩ : (path.all isPlainName = true ∧
        arePlain true body = true) ∧ arePlain true otherwise = true := by
      simpa [isPlain] using plain
    exact continues_piecesOfPart (isAction_openingOf named (by decide) rfl rfl)
      (fun later continues => (continues_piecesOfNodes body true plainBody later continues).1)
      (fun later continues => (continues_piecesOfNodes otherwise true plainOther later continues).1)
      _ behind
  | cond path body otherwise =>
    obtain ⟨⟨named, plainBody⟩, plainOther⟩ : (path.all isPlainName = true ∧
        arePlain true body = true) ∧ arePlain true otherwise = true := by
      simpa [isPlain] using plain
    exact continues_piecesOfPart (isAction_openingOf named (by decide) rfl rfl)
      (fun later continues => (continues_piecesOfNodes body true plainBody later continues).1)
      (fun later continues => (continues_piecesOfNodes otherwise true plainOther later continues).1)
      _ behind

/-- The pieces of nodes in a row stay apart, and start with an action unless there is none or the
first is a text. -/
theorem continues_piecesOfNodes (nodes : List Node) (followed : Bool)
    (plain : arePlain followed nodes = true) (later : List Piece)
    (continues : Continues followed later) :
    Apart (piecesOfNodes nodes ++ later) ∧ (nodes.head?.any Node.isText = false →
      Continues (followed || !nodes.isEmpty) (piecesOfNodes nodes ++ later)) := by
  cases nodes with
  | nil => exact ⟨continues.apart, fun _ => by simpa [piecesOfNodes] using continues⟩
  | cons node rest =>
    obtain ⟨⟨plainNode, plainRest⟩, fits⟩ : (isPlain node = true ∧
        arePlain followed rest = true) ∧ fitsBefore followed rest node = true := by
      simpa [arePlain] using plain
    have behind := continues_piecesOfNodes rest followed plainRest later continues
    rw [piecesOfNodes, List.append_assoc]
    cases isText : node.isText with
    | false =>
      have starts := continues_piecesOfNode node plainNode isText _ behind.1
      exact ⟨starts.apart, fun _ => by simpa using starts⟩
    | true =>
      cases node with
      | text content =>
        obtain ⟨noText, ending⟩ : rest.head?.any Node.isText = false ∧
            (content.toList.getLast? ≠ some '\x7b' ∨ (followed || !rest.isEmpty) = false) := by
          simpa [fitsBefore] using fits
        obtain ⟨present, absent⟩ : content.toList ≠ [] ∧
            occursIn openingBraces content.toList = false := by simpa [isPlain] using plainNode
        refine ⟨apart_text present absent (fun anAction => ?_) (behind.2 noText), ?_⟩
        · exact ending.resolve_right (by simp [anAction])
        · intro notText
          exact absurd notText (by simp [Node.isText])
      | field path => exact absurd isText (by simp [Node.isText])
      | range path body otherwise => exact absurd isText (by simp [Node.isText])
      | cond path body otherwise => exact absurd isText (by simp [Node.isText])

end

/-! ### Building the tree -/

theorem words_writePath {path : Path} (plain : path.all isPlainName = true) :
    words (writePath path) = [writePath path] := by
  refine Text.words_of_none (writePath_solid plain) fun empty => ?_
  have head := writePath_head path
  rw [empty] at head
  exact absurd head (by simp)

theorem words_openingOf {word : List Char} {path : Path} (plain : path.all isPlainName = true)
    (solid : word.any isBlank = false) (present : word ≠ []) :
    words (openingOf word path) = [word, writePath path] := by
  rw [openingOf, Text.words_append_cons rfl, words_writePath plain,
    Text.words_of_none (by simpa using solid) present]
  rfl

namespace Builder

variable {action : List Char} {path : Path} {further : List (List Char)}

theorem act_field (said : words action = [writePath path]) (named : ∀ name ∈ path, IsName name)
    (builder : Builder) : builder.act action = .ok (builder.push (.field path)) := by
  have head := writePath_head path
  have notWord : ∀ word : List Char, word.head? ≠ some '.' → writePath path ≠ word := by
    intro word different same
    exact different (same ▸ head)
  simp only [act, said, if_neg (notWord ['r', 'a', 'n', 'g', 'e'] (by decide)),
    if_neg (notWord ['i', 'f'] (by decide)), if_neg (notWord ['e', 'l', 's', 'e'] (by decide)),
    if_neg (notWord ['e', 'n', 'd'] (by decide)), head, readPath_writePath named]
  rfl

theorem act_range (said : words action = rangeWord :: writePath path :: further)
    (named : ∀ name ∈ path, IsName name) (builder : Builder) :
    builder.act action = .ok (builder.enter (.range path)) := by
  simp only [act, said, if_pos (show rangeWord = ['r', 'a', 'n', 'g', 'e'] from rfl), readOperand,
    readPath_writePath named]
  rfl

theorem act_cond (said : words action = condWord :: writePath path :: further)
    (named : ∀ name ∈ path, IsName name) (builder : Builder) :
    builder.act action = .ok (builder.enter (.cond path)) := by
  simp only [act, said, if_neg (show condWord ≠ ['r', 'a', 'n', 'g', 'e'] by decide),
    if_pos (show condWord = ['i', 'f'] from rfl), readOperand, readPath_writePath named]
  rfl

theorem act_else (said : words action = elseWord :: further) (builder : Builder) :
    builder.act action = builder.turn := by
  simp only [act, said, if_neg (show elseWord ≠ ['r', 'a', 'n', 'g', 'e'] by decide),
    if_neg (show elseWord ≠ ['i', 'f'] by decide),
    if_pos (show elseWord = ['e', 'l', 's', 'e'] from rfl)]

theorem act_end (said : words action = endWord :: further) (builder : Builder) :
    builder.act action = builder.leave := by
  simp only [act, said, if_neg (show endWord ≠ ['r', 'a', 'n', 'g', 'e'] by decide),
    if_neg (show endWord ≠ ['i', 'f'] by decide),
    if_neg (show endWord ≠ ['e', 'l', 's', 'e'] by decide),
    if_pos (show endWord = ['e', 'n', 'd'] from rfl)]

/-- Nodes at the outermost level are put behind those that are there. -/
theorem foldl_push_root (nodes root : List Node) :
    nodes.foldl push ⟨root, []⟩ = ⟨root ++ nodes, []⟩ := by
  induction nodes generalizing root with
  | nil => rw [List.append_nil]; rfl
  | cons node rest inductionHypothesis =>
    rw [List.foldl_cons, show push ⟨root, []⟩ node = ⟨root ++ [node], []⟩ from rfl,
      inductionHypothesis, List.append_assoc]
    rfl

/-- Nodes go into the body of the innermost part that is open. -/
theorem foldl_push_body (nodes root body : List Node) (opening : Opening)
    (parts : List OpenPart) :
    nodes.foldl push ⟨root, ⟨opening, body, none⟩ :: parts⟩ =
      ⟨root, ⟨opening, body ++ nodes, none⟩ :: parts⟩ := by
  induction nodes generalizing body with
  | nil => rw [List.append_nil]; rfl
  | cons node rest inductionHypothesis =>
    rw [List.foldl_cons, show push ⟨root, ⟨opening, body, none⟩ :: parts⟩ node =
      ⟨root, ⟨opening, body ++ [node], none⟩ :: parts⟩ from rfl, inductionHypothesis,
      List.append_assoc]
    rfl

/-- Behind `else`, nodes go into the other part. -/
theorem foldl_push_otherwise (nodes root body others : List Node) (opening : Opening)
    (parts : List OpenPart) :
    nodes.foldl push ⟨root, ⟨opening, body, some others⟩ :: parts⟩ =
      ⟨root, ⟨opening, body, some (others ++ nodes)⟩ :: parts⟩ := by
  induction nodes generalizing others with
  | nil => rw [List.append_nil]; rfl
  | cons node rest inductionHypothesis =>
    rw [List.foldl_cons, show push ⟨root, ⟨opening, body, some others⟩ :: parts⟩ node =
      ⟨root, ⟨opening, body, some (others ++ [node])⟩ :: parts⟩ from rfl, inductionHypothesis,
      List.append_assoc]
    rfl

end Builder

/-- Pieces build nodes: they put them where the next node goes, whatever is open. -/
def Builds (list : List Piece) (nodes : List Node) : Prop :=
  ∀ builder : Builder, list.foldlM Builder.take builder = .ok (nodes.foldl Builder.push builder)

theorem Builds.append {first second : List Piece} {left right : List Node}
    (builds : Builds first left) (next : Builds second right) :
    Builds (first ++ second) (left ++ right) := by
  intro builder
  rw [List.foldlM_append, builds builder, List.foldl_append]
  exact next _

/-- The pieces of a part build its node, if those of its body and of its other part build
theirs. -/
theorem builds_piecesOfPart {word : List Char} {path : Path} {opening : Opening}
    (opens : ∀ builder : Builder,
      builder.act (openingOf word path) = .ok (builder.enter opening))
    {bodyPieces otherPieces : List Piece} {body otherwise : List Node}
    (inBody : Builds bodyPieces body) (inOther : Builds otherPieces otherwise) :
    Builds (piecesOfPart word path bodyPieces (piecesOfOtherwise otherwise.isEmpty otherPieces))
      [OpenPart.close ⟨opening, body, some otherwise⟩] := by
  intro builder
  rw [piecesOfPart, List.foldlM_cons,
    show builder.take (.action (openingOf word path)) = .ok (builder.enter opening) from
      opens builder]
  show List.foldlM Builder.take (builder.enter opening) _ = _
  rw [List.foldlM_append, inBody, Builder.enter, Builder.foldl_push_body, List.nil_append]
  show List.foldlM Builder.take ⟨builder.root, ⟨opening, body, none⟩ :: builder.openParts⟩ _ = _
  cases otherwise with
  | nil => rfl
  | cons node rest =>
    rw [piecesOfOtherwise, if_neg (by simp), List.cons_append, List.foldlM_cons]
    show List.foldlM Builder.take
      ⟨builder.root, ⟨opening, body, some []⟩ :: builder.openParts⟩ _ = _
    rw [List.foldlM_append, inOther, Builder.foldl_push_otherwise, List.nil_append]
    rfl

mutual

/-- The pieces of a node build it. -/
theorem builds_piecesOfNode (node : Node) (plain : isPlain node = true) :
    Builds (piecesOfNode node) [node] := by
  cases node with
  | text content =>
    intro builder
    show Except.ok (builder.push (.text (String.ofList content.toList))) = _
    rw [String.ofList_toList]
    rfl
  | field path =>
    intro builder
    rw [piecesOfNode, List.foldlM_cons,
      show builder.take (.action (writePath path)) = .ok (builder.push (.field path)) from
        builder.act_field (words_writePath plain) (isName_of_plain plain)]
    rfl
  | range path body otherwise =>
    obtain ⟨⟨named, plainBody⟩, plainOther⟩ : (path.all isPlainName = true ∧
        arePlain true body = true) ∧ arePlain true otherwise = true := by
      simpa [isPlain] using plain
    have built := builds_piecesOfPart
      (Builder.act_range (words_openingOf named (by decide) (by decide)) (isName_of_plain named))
      (builds_piecesOfNodes body true plainBody) (builds_piecesOfNodes otherwise true plainOther)
    exact built
  | cond path body otherwise =>
    obtain ⟨⟨named, plainBody⟩, plainOther⟩ : (path.all isPlainName = true ∧
        arePlain true body = true) ∧ arePlain true otherwise = true := by
      simpa [isPlain] using plain
    have built := builds_piecesOfPart
      (Builder.act_cond (words_openingOf named (by decide) (by decide)) (isName_of_plain named))
      (builds_piecesOfNodes body true plainBody) (builds_piecesOfNodes otherwise true plainOther)
    exact built

/-- The pieces of nodes in a row build these nodes in their order. -/
theorem builds_piecesOfNodes (nodes : List Node) (followed : Bool)
    (plain : arePlain followed nodes = true) : Builds (piecesOfNodes nodes) nodes := by
  cases nodes with
  | nil => exact fun _ => rfl
  | cons node rest =>
    obtain ⟨⟨plainNode, plainRest⟩, -⟩ : (isPlain node = true ∧
        arePlain followed rest = true) ∧ fitsBefore followed rest node = true := by
      simpa [arePlain] using plain
    rw [piecesOfNodes]
    exact (builds_piecesOfNode node plainNode).append
      (builds_piecesOfNodes rest followed plainRest)

end

/-! ### Reading what was written -/

/-- Reading a template undoes writing it. -/
theorem read_write (name : String) {nodes : List Node} (plain : arePlain false nodes = true) :
    read name (write nodes) = .ok ⟨name, nodes⟩ := by
  have found : pieces false (writeNodes nodes) = piecesOfNodes nodes := by
    have apart := (continues_piecesOfNodes nodes false plain [] rfl).1
    rw [List.append_nil] at apart
    rw [← writePieces_piecesOfNodes, pieces_writePieces apart]
  have built : (piecesOfNodes nodes).foldlM Builder.take ⟨[], []⟩ = .ok ⟨nodes, []⟩ := by
    rw [builds_piecesOfNodes nodes false plain, Builder.foldl_push_root, List.nil_append]
  have nodesRead : readNodes (writeNodes nodes) = .ok nodes := by
    rw [readNodes, found, built]
    rfl
  rw [read, write, String.toList_ofList, nodesRead]

/-- Texts with braces of their own, a range in whose other part there is a condition, and a brace
at the very end. -/
def nestedNodes : List Node :=
  [.text "q=\x7d\x7d",
   .range ["Query", "Categories"] [.field [], .text "\x7b&"]
     [.text " ", .cond ["\x7b\x7b"] [.text "all"] [], .field ["a-"]],
   .text "\x7b"]

theorem read_write_nestedNodes :
    arePlain false nestedNodes = true ∧
      read "inputs" (write nestedNodes) = .ok ⟨"inputs", nestedNodes⟩ :=
  ⟨by decide, read_write "inputs" (by decide)⟩

end Metasearch.Template
