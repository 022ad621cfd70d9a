/-
This file settles what the actions of a template say, and which of their words are passed over. A
template is read exactly if none of its actions is left open, the words of each are a field
reference alone, or begin with what opens, turns or ends a part, and the parts fit into each other.
A field reference has to stand alone, and a further word behind it has the template refused. Behind
the words that open, turn or end a part nothing is looked at: whatever stands there is dropped, and
the tree is the same without it.
-/
import Metasearch.Proofs.TemplateJoins

namespace Metasearch.Template

open Text (cut splitAt words)

/-! ### Field references -/

/-- The pieces of a text, each behind the character that separates, are the text behind it. -/
theorem flatMap_splitAt (mark : Char) (text : List Char) :
    ((splitAt (· == mark) text).flatMap fun piece => mark :: piece) = mark :: text := by
  induction text with
  | nil => rfl
  | cons c rest inductionHypothesis =>
    simp only [splitAt]
    split
    · next same =>
      rw [List.flatMap_cons, inductionHypothesis, beq_iff_eq.mp same]
      rfl
    · split
      · next head tail pieces =>
        rw [pieces, List.flatMap_cons, List.cons_append, List.cons_inj_right] at inductionHypothesis
        rw [List.flatMap_cons, List.cons_append, List.cons_append, inductionHypothesis]
      · next none => exact absurd none (Text.splitAt_ne_nil _ _)

/-- What is read as a field reference is how its path is written. -/
theorem readPath_eq_ok_iff {word : List Char} {path : Path} :
    readPath word = .ok path ↔ word = writePath path ∧ ∀ name ∈ path, IsName name := by
  constructor
  · intro read
    unfold readPath at read
    split at read
    · obtain rfl := Except.ok.inj read
      exact ⟨rfl, by simp⟩
    · next names _ =>
      simp only at read
      split at read
      · cases read
      · next noneEmpty =>
        obtain rfl := Except.ok.inj read
        refine ⟨?_, fun name member => ?_⟩
        · have present := Text.splitAt_ne_nil (· == '.') names
          rw [writePath, if_neg (by simpa using present), List.flatMap_map]
          simpa using (flatMap_splitAt '.' names).symm
        · obtain ⟨segment, isPiece, rfl⟩ := List.mem_map.mp member
          rw [IsName, String.toList_ofList]
          refine ⟨fun empty => noneEmpty ?_, fun point => ?_⟩
          · exact List.any_eq_true.mpr ⟨segment, isPiece, by simp [empty]⟩
          · exact absurd (Text.mem_of_mem_splitAt isPiece point).2 (by decide)
    · cases read
  · rintro ⟨rfl, named⟩
    exact readPath_writePath named

/-! ### What an action asks for -/

/-- What an action has done to the tree. -/
inductive Request
  | field (path : Path)
  | enter (opening : Opening)
  | turn
  | leave
  deriving DecidableEq, Repr

/-- The words that a request takes. -/
def Request.words : Request → List (List Char)
  | .field path => [writePath path]
  | .enter (.range path) => [rangeWord, writePath path]
  | .enter (.cond path) => [condWord, writePath path]
  | .turn => [elseWord]
  | .leave => [endWord]

/-- The path that a request names, if it names one. -/
def Request.path : Request → Path
  | .field path | .enter (.range path) | .enter (.cond path) => path
  | .turn | .leave => []

/-- The request is a field reference, which has to stand alone. -/
def Request.isField : Request → Bool
  | .field _ => true
  | _ => false

/-- An action asks for something, with further words behind those that it takes. -/
structure Asks (action : List Char) (request : Request) (further : List (List Char)) : Prop where
  said : words action = request.words ++ further
  named : ∀ name ∈ request.path, IsName name
  alone : request.isField = true → further = []

namespace Builder

/-- The tree after a request. -/
def heed (builder : Builder) : Request → Except Problem Builder
  | .field path => .ok (builder.push (.field path))
  | .enter opening => .ok (builder.enter opening)
  | .turn => builder.turn
  | .leave => builder.leave

variable {builder next : Builder} {action : List Char}

theorem act_of_asks {request : Request} {further : List (List Char)}
    (asks : Asks action request further) (builder : Builder) :
    builder.act action = builder.heed request := by
  obtain ⟨said, named, alone⟩ := asks
  cases request with
  | field path =>
    rw [alone rfl] at said
    exact act_field said named builder
  | enter opening =>
    cases opening with
    | range path => exact act_range said named builder
    | cond path => exact act_cond said named builder
  | turn => exact act_else said builder
  | leave => exact act_end said builder

/-- The first of the words behind one that opens a part is a field reference, and the others are
not looked at. -/
theorem exists_of_readOperand {path : Path} {rest : List (List Char)}
    (read : readOperand action rest = .ok path) :
    ∃ further, rest = writePath path :: further ∧ ∀ name ∈ path, IsName name := by
  cases rest with
  | nil => cases read
  | cons word further =>
    obtain ⟨rfl, named⟩ := readPath_eq_ok_iff.mp read
    exact ⟨further, rfl, named⟩

/-- An action that is taken in asks for something. -/
theorem exists_asks_of_act (taken : builder.act action = .ok next) :
    ∃ request further, Asks action request further := by
  unfold act at taken
  split at taken
  · cases taken
  · next word rest said =>
    split at taken
    case isTrue isRange =>
      obtain ⟨path, read, -⟩ := except_of_bind taken
      obtain ⟨further, rfl, named⟩ := exists_of_readOperand read
      exact ⟨.enter (.range path), further, by rw [said, isRange]; rfl, named, nofun⟩
    case isFalse =>
    split at taken
    case isTrue isCond =>
      obtain ⟨path, read, -⟩ := except_of_bind taken
      obtain ⟨further, rfl, named⟩ := exists_of_readOperand read
      exact ⟨.enter (.cond path), further, by rw [said, isCond]; rfl, named, nofun⟩
    case isFalse =>
    split at taken
    case isTrue isElse => exact ⟨.turn, rest, by rw [said, isElse]; rfl, nofun, nofun⟩
    case isFalse =>
    split at taken
    case isTrue isEnd => exact ⟨.leave, rest, by rw [said, isEnd]; rfl, nofun, nofun⟩
    case isFalse =>
    split at taken
    case isTrue isField =>
      obtain ⟨path, read, -⟩ := except_of_bind taken
      obtain ⟨rfl, named⟩ := readPath_eq_ok_iff.mp read
      obtain ⟨-, alone⟩ := (Bool.and_eq_true _ _).mp isField
      obtain rfl := List.isEmpty_iff.mp alone
      exact ⟨.field path, [], said, named, fun _ => rfl⟩
    case isFalse => cases taken

end Builder

/-! ### What a text asks for -/

/-- What a piece of a text has done to the tree. -/
inductive Step
  | text (content : String)
  | request (request : Request)
  deriving DecidableEq, Repr

/-- What a piece means: a text stands for itself, and an action for what it asks for. -/
inductive Means : Piece → Step → Prop
  | text (content : List Char) : Means (.text content) (.text (String.ofList content))
  | action {body : List Char} {request : Request} {further : List (List Char)}
      (asks : Asks body request further) : Means (.action body) (.request request)

/-- The tree after a step. -/
def Builder.go (builder : Builder) : Step → Except Problem Builder
  | .text content => .ok (builder.push (.text content))
  | .request request => builder.heed request

theorem take_of_means {piece : Piece} {step : Step} (means : Means piece step)
    (builder : Builder) : builder.take piece = builder.go step := by
  cases means with
  | text content => rfl
  | action asks => exact Builder.act_of_asks asks builder

theorem exists_means_of_take {builder next : Builder} {piece : Piece}
    (taken : builder.take piece = .ok next) : ∃ step, Means piece step := by
  cases piece with
  | text content => exact ⟨_, .text content⟩
  | action body =>
    obtain ⟨request, further, asks⟩ := Builder.exists_asks_of_act taken
    exact ⟨.request request, .action asks⟩
  | unclosed => cases taken

theorem foldlM_take_of_means {list : List Piece} {steps : List Step}
    (means : List.Forall₂ Means list steps) (builder : Builder) :
    list.foldlM Builder.take builder = steps.foldlM Builder.go builder := by
  induction means generalizing builder with
  | nil => rfl
  | cons here others inductionHypothesis =>
    rw [List.foldlM_cons, List.foldlM_cons, take_of_means here]
    exact congrArg _ (funext inductionHypothesis)

theorem exists_means_of_foldlM {list : List Piece} {builder last : Builder}
    (taken : list.foldlM Builder.take builder = .ok last) :
    ∃ steps, List.Forall₂ Means list steps := by
  induction list generalizing builder with
  | nil => exact ⟨[], .nil⟩
  | cons piece rest inductionHypothesis =>
    rw [List.foldlM_cons] at taken
    obtain ⟨next, here, behind⟩ := except_of_bind taken
    obtain ⟨step, means⟩ := exists_means_of_take here
    obtain ⟨steps, others⟩ := inductionHypothesis behind
    exact ⟨step :: steps, .cons means others⟩

/-- The actions of a text, without trim markers and the blanks at their ends. -/
def actions (text : List Char) : List (List Char) :=
  (actionTexts text).map bareAction

/-- The actions among the pieces are those of the text. -/
theorem action_mem_pieces_iff {trimmed : Bool} {text action : List Char} :
    .action action ∈ pieces trimmed text ↔ action ∈ actions text := by
  have noText : ∀ content : List Char, .action action ∉ textPiece content := by
    intro content
    unfold textPiece
    split <;> simp
  induction text using actionTexts.induct generalizing trimmed with
  | case1 text uncut =>
    rw [pieces_of_uncut uncut, actions, actionTexts_of_uncut uncut]
    simpa using noText _
  | case2 text before after opens open? =>
    rw [pieces_of_unclosed opens open?, actions, actionTexts_of_unclosed opens open?]
    simp
  | case3 text before after opens body rest closes _ _ inductionHypothesis =>
    have behind : ∀ trimmed, .action action ∈ pieces trimmed rest ↔ action ∈ actions rest :=
      fun _ => inductionHypothesis
    rw [pieces_of_cuts opens closes, actions, actionTexts_of_cuts opens closes, List.mem_append,
      List.mem_cons, behind, List.map_cons, List.mem_cons, Piece.action.injEq]
    exact or_iff_right (noText _)

/-! ### Reading what is asked for -/

theorem read_eq_ok_iff {name text : String} {template : Metasearch.Template} :
    read name text = .ok template ↔
      template.name = name ∧ readNodes text.toList = .ok template.nodes := by
  unfold read
  split
  · next nodes reads =>
    rw [reads, Except.ok.injEq, Except.ok.injEq]
    obtain ⟨other, others⟩ := template
    rw [Template.mk.injEq]
    exact and_congr_left' eq_comm
  · next problem reads =>
    rw [reads]
    simp

theorem read_eq_error {name text : String} {error : Error} (fails : read name text = .error error) :
    ∃ problem, error = .unreadable name problem := by
  unfold read at fails
  split at fails
  · cases fails
  · next problem _ => exact ⟨problem, (Except.error.inj fails).symm⟩

/-- A template is read exactly if each of its pieces means something that can be done where it
stands, and no part is left open; then the tree is what is done. -/
theorem read_steps {name text : String} {template : Metasearch.Template} :
    read name text = .ok template ↔
      template.name = name ∧ ∃ steps, List.Forall₂ Means (pieces false text.toList) steps ∧
        steps.foldlM Builder.go ⟨[], []⟩ = .ok ⟨template.nodes, []⟩ := by
  rw [read_eq_ok_iff, readNodes_eq_ok]
  refine and_congr_right' ⟨fun builds => ?_, ?_⟩
  · obtain ⟨steps, means⟩ := exists_means_of_foldlM builds
    exact ⟨steps, means, (foldlM_take_of_means means _).symm.trans builds⟩
  · rintro ⟨steps, means, gone⟩
    exact (foldlM_take_of_means means _).trans gone

/-- Two pieces that mean the same, whatever else stands in them. -/
def SayAlike (piece other : Piece) : Prop :=
  ∃ step, Means piece step ∧ Means other step

theorem foldlM_take_congr {list others : List Piece} (alike : List.Forall₂ SayAlike list others)
    (builder : Builder) :
    list.foldlM Builder.take builder = others.foldlM Builder.take builder := by
  induction alike generalizing builder with
  | nil => rfl
  | cons here _ inductionHypothesis =>
    obtain ⟨step, means, same⟩ := here
    rw [List.foldlM_cons, List.foldlM_cons, take_of_means means, take_of_means same]
    exact congrArg _ (funext inductionHypothesis)

theorem asks_of_reads {name text : String} {template : Metasearch.Template}
    (reads : read name text = .ok template) {action : List Char}
    (member : action ∈ actions text.toList) :
    ∃ request further, Asks action request further := by
  have taken := readNodes_eq_ok.mp (read_eq_ok_iff.mp reads).2
  obtain ⟨builder, next, here⟩ := exists_step_of_foldlM taken (action_mem_pieces_iff.mpr member)
  exact Builder.exists_asks_of_act here

/-- An action that begins with a field reference asks for nothing but that. -/
theorem Asks.alone_of_head {action word : List Char} {request : Request}
    {further rest : List (List Char)} (asks : Asks action request further)
    (said : words action = word :: rest) (point : word.head? = some '.') : rest = [] := by
  have same := said.symm.trans asks.said
  cases request with
  | field path =>
    rw [asks.alone rfl] at same
    exact (List.cons.inj same).2
  | enter opening =>
    cases opening with
    | range path => rw [(List.cons.inj same).1] at point; cases point
    | cond path => rw [(List.cons.inj same).1] at point; cases point
  | turn => rw [(List.cons.inj same).1] at point; cases point
  | leave => rw [(List.cons.inj same).1] at point; cases point

/-- What the actions of a template say, and what of it counts. A template is read exactly if each
piece of it means something that can be done where it stands, and no part is left open; each action
of it asks for something; where one begins with a field reference and goes on behind it, the
template is refused; and behind the words of any other request the text of an action makes no
difference. -/
theorem read_asks (name text : String) :
    (∀ template : Metasearch.Template, read name text = .ok template ↔
      template.name = name ∧ ∃ steps, List.Forall₂ Means (pieces false text.toList) steps ∧
        steps.foldlM Builder.go ⟨[], []⟩ = .ok ⟨template.nodes, []⟩) ∧
      ((∃ template, read name text = .ok template) →
        ∀ action ∈ actions text.toList, ∃ request further, Asks action request further) ∧
      (∀ action ∈ actions text.toList, ∀ word rest, words action = word :: rest →
        word.head? = some '.' → rest ≠ [] →
          ∃ problem, read name text = .error (.unreadable name problem)) ∧
      ∀ other : String,
        List.Forall₂ SayAlike (pieces false text.toList) (pieces false other.toList) →
          read name text = read name other := by
  refine ⟨fun template => read_steps, ?asked, ?refused, ?alike⟩
  case asked =>
    rintro ⟨template, reads⟩ action member
    exact asks_of_reads reads member
  case refused =>
    intro action member word rest said point more
    cases outcome : read name text with
    | ok template =>
      obtain ⟨request, further, asks⟩ := asks_of_reads outcome member
      exact absurd (asks.alone_of_head said point) more
    | error error =>
      obtain ⟨problem, rfl⟩ := read_eq_error outcome
      exact ⟨problem, rfl⟩
  case alike =>
    intro other alike
    have same : readNodes text.toList = readNodes other.toList := by
      rw [readNodes, readNodes, foldlM_take_congr alike]
    rw [read, read, same]

/-- A range with a word behind its field reference. -/
def furtherWord : String :=
  "\x7b\x7b range .Categories all \x7d\x7dx\x7b\x7b end \x7d\x7d"

/-- The word is passed over: the template is read, although one of its actions is more than what
any request takes. -/
theorem read_furtherWord :
    (∃ template, read "inputs" furtherWord = .ok template) ∧
      ∃ action ∈ actions furtherWord.toList, ¬ ∃ request, Asks action request [] := by
  have written : actionTexts furtherWord.toList =
      [" range .Categories all ".toList, " end ".toList] := by cbv
  have listed : actions furtherWord.toList = ["range .Categories all".toList, endWord] := by
    rw [actions, written]
    decide
  have said : words "range .Categories all".toList =
      [rangeWord, ".Categories".toList, "all".toList] := by cbv
  refine ⟨⟨⟨"inputs", [.range ["Categories"] [.text "x"] []]⟩, by cbv⟩,
    "range .Categories all".toList, by rw [listed]; exact List.mem_cons_self, ?_⟩
  rintro ⟨request, asks⟩
  have long : request.words.length = 3 := by
    rw [← List.append_nil request.words, ← asks.said, said]
    rfl
  cases request with
  | field path => cases long
  | enter opening => cases opening <;> cases long
  | turn => cases long
  | leave => cases long

end Metasearch.Template
