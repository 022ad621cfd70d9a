/-
This file settles which command lines call for a command, and which for help. In front of the name
of a command stand flags of the program, behind it what belongs to the command. Everything that
calls for neither is misuse. A flag right in front of the command does not get in the way of help,
even if it cannot be given its value.
-/
import Metasearch.Proofs.CommandWords

namespace Metasearch.CommandLine

/-! ### Commands -/

/-- The shape that the words behind the name of a command have. -/
def shapeOf? : String → Option Shape
  | "list" => some listShape
  | "caps" => some capsShape
  | "search" => some searchShape
  | "test" => some testShape
  | "download" => some downloadShape
  | _ => none

/-- What a command makes of its flags and arguments. -/
inductive Means (name : String) (reading : Reading) : Command → Prop
  | list (named : name = "list") : Means name reading .list
  | caps {definition : String} (named : name = "caps")
      (only : reading.arguments = [definition]) : Means name reading (.caps definition)
  | search {definition : String} (named : name = "search")
      (only : reading.arguments = [definition]) :
      Means name reading (.search definition (searchParams reading) (limitOf reading))
  | test {definition : String} (named : name = "test")
      (only : reading.arguments = [definition]) : Means name reading (.test definition)
  | download {definition link output : String} (named : name = "download")
      (both : reading.arguments = [definition, link])
      (into : reading.value? "output" = some output) :
      Means name reading (.download definition link output)

theorem isDistinct_of_shapeOf {name : String} {shape : Shape} (known : shapeOf? name = some shape) :
    shape.IsDistinct := by
  unfold shapeOf? at known
  split at known <;> cases known
  all_goals constructor <;> decide

theorem isDistinct_programShape (inEnvironment : String) :
    (programShape inEnvironment).IsDistinct := by
  have only : ∀ flag ∈ (programShape inEnvironment).flags, ∀ other ∈
      (programShape inEnvironment).flags, other = flag := by
    intro flag member other among
    rw [List.mem_singleton.mp member, List.mem_singleton.mp among]
  refine ⟨fun flag member other among _ => only flag member other among,
    fun flag member other among _ _ => only flag member other among, ?_, ?_⟩ <;>
    (intro flag member
     obtain rfl := List.mem_singleton.mp member
     simp)

/-- Making a command of the only argument, which fails without help if there is not one. -/
theorem onlyArgument_eq_ok {reading : Reading} {make : String → Command} {command : Command} :
    onlyArgument reading make = .ok command ↔
      ∃ definition, reading.arguments = [definition] ∧ make definition = command := by
  unfold onlyArgument
  split
  · next definition same => simp [same]
  · next other => exact ⟨nofun, fun ⟨definition, same, _⟩ => absurd same (other definition)⟩

theorem onlyArgument_ne_help {reading : Reading} {make : String → Command} {text : String} :
    onlyArgument reading make ≠ .error (.help text) := by
  unfold onlyArgument
  split <;> nofun

/-- The command to download, with what is asked for in all. -/
def downloadOf (reading : Reading) : Except Stop Command :=
  match reading.arguments, reading.value? "output" with
  | [definition, link], some output => .ok (.download definition link output)
  | _, _ => .error .misuse

/-- To read a command is to read words of a shape, and to make of them what the name means. -/
def ReadsAs (name : String) (shape : Shape) (program : Shape) (words : List String) : Prop :=
  ∃ make : Reading → Except Stop Command,
    readCommand program name words =
      (readWords shape .empty words >>= fun read => make read.1) ∧
    (∀ reading command, make reading = .ok command ↔ Means name reading command) ∧
    ∀ reading text, make reading ≠ .error (.help text)

section

variable {name : String} {shape program : Shape} {words : List String}

/-- Three commands have one argument; they differ in what they make of it. -/
theorem readsAs_of_onlyArgument {make : Reading → String → Command}
    (read : readCommand program name words = (readWords shape .empty words >>= fun read =>
      onlyArgument read.1 (make read.1)))
    (means : ∀ reading command, Means name reading command ↔
      ∃ definition, reading.arguments = [definition] ∧ make reading definition = command) :
    ReadsAs name shape program words :=
  ⟨fun reading => onlyArgument reading (make reading), read,
    fun _ _ => onlyArgument_eq_ok.trans (means _ _).symm, fun _ _ => onlyArgument_ne_help⟩

theorem readsAs_list (program : Shape) (words : List String) :
    ReadsAs "list" listShape program words := by
  refine ⟨fun _ => .ok .list, ?_, fun reading command => ⟨?_, ?_⟩, fun _ _ => ?_⟩
  · simp only [readCommand]
    cases readWords listShape .empty words <;> rfl
  · rintro ⟨⟩
    exact .list rfl
  · intro means
    cases means <;> simp_all
  · rintro ⟨⟩

theorem downloadOf_eq_ok {reading : Reading} {command : Command} :
    downloadOf reading = .ok command ↔ Means "download" reading command := by
  constructor
  · intro made
    unfold downloadOf at made
    split at made
    · next both into =>
      cases made
      exact .download rfl both into
    · cases made
  · intro means
    cases means <;> simp_all [downloadOf]

theorem downloadOf_ne_help {reading : Reading} {text : String} :
    downloadOf reading ≠ .error (.help text) := by
  unfold downloadOf
  split
  · rintro ⟨⟩
  · rintro ⟨⟩

theorem readsAs_of_shapeOf (known : shapeOf? name = some shape) (program : Shape)
    (words : List String) : ReadsAs name shape program words := by
  unfold shapeOf? at known
  split at known <;> cases known
  case h_1 => exact readsAs_list program words
  case h_2 =>
    refine @readsAs_of_onlyArgument _ _ _ _ (fun _ => .caps) ?_ fun reading command => ⟨?_, ?_⟩
    · simp only [readCommand]
      cases readWords capsShape .empty words <;> rfl
    · rintro (_ | _ | _ | _ | _) <;> simp_all
    · rintro ⟨definition, only, rfl⟩
      exact .caps rfl only
  case h_3 =>
    refine @readsAs_of_onlyArgument _ _ _ _
      (fun reading => (.search · (searchParams reading) (limitOf reading))) ?_
      fun reading command => ⟨?_, ?_⟩
    · simp only [readCommand]
      cases readWords searchShape .empty words <;> rfl
    · rintro (_ | _ | _ | _ | _) <;> simp_all
    · rintro ⟨definition, only, rfl⟩
      exact .search rfl only
  case h_4 =>
    refine @readsAs_of_onlyArgument _ _ _ _ (fun _ => .test) ?_ fun reading command => ⟨?_, ?_⟩
    · simp only [readCommand]
      cases readWords testShape .empty words <;> rfl
    · rintro (_ | _ | _ | _ | _) <;> simp_all
    · rintro ⟨definition, only, rfl⟩
      exact .test rfl only
  case h_5 =>
    refine ⟨downloadOf, ?_, fun _ _ => downloadOf_eq_ok, fun _ _ => downloadOf_ne_help⟩
    simp only [readCommand]
    cases readWords downloadShape .empty words <;> rfl

theorem readCommand_of_unknown (unknown : shapeOf? name = none) (program : Shape)
    (words : List String) :
    readCommand program name words =
      .error (if name = "help" then helpAbout program words else .misuse) := by
  by_cases help : name = "help"
  · subst help
    simp only [readCommand, if_true]
    rfl
  · unfold shapeOf? at unknown
    split at unknown <;> cases unknown
    unfold readCommand
    split <;> first | contradiction | skip
    · rw [if_neg help]
      rfl

theorem noCommands_of_shapeOf (known : shapeOf? name = some shape) : shape.commands = [] := by
  unfold shapeOf? at known
  split at known <;> cases known <;> rfl

/-- Behind the name of a command, every flag is looked at, and no word is left. -/
theorem readWords_of_shapeOf (known : shapeOf? name = some shape) {reading : Reading}
    {rest : List String} (read : readWords shape .empty words = .ok (reading, rest)) :
    IsReadAs shape [] [] words (.ok (.ok reading, [])) := by
  obtain ⟨free, rfl⟩ := pending_of_readWords (noCommands_of_shapeOf known) read
  refine (told_eq_iff (isDistinct_of_shapeOf known) (by nofun)).mp ?_
  rw [read]
  exact congrArg (fun settled => Except.ok (settled, [])) (settle_of_pending free)

theorem readWords_of_isReadAs (known : shapeOf? name = some shape) {reading : Reading}
    (read : IsReadAs shape [] [] words (.ok (.ok reading, []))) :
    readWords shape .empty words = .ok (reading, []) := by
  have same := (told_eq_iff (isDistinct_of_shapeOf known) (by nofun)).mpr read
  obtain ⟨⟨last, rest⟩, success, parts⟩ := map_eq_ok.mp same
  obtain ⟨settled, rfl⟩ := Prod.mk.inj parts
  obtain ⟨free, -⟩ := pending_of_readWords (noCommands_of_shapeOf known) success
  rw [success, Except.ok.inj ((settle_of_pending free).symm.trans settled)]

theorem readWords_eq_help (distinct : shape.IsDistinct) {text : String} :
    readWords shape .empty words = .error (.help text) ↔
      IsReadAs shape [] [] words (.error (.help text)) := by
  rw [← told_eq_iff distinct (by nofun)]
  cases readWords shape .empty words with
  | ok read => exact ⟨nofun, nofun⟩
  | error stop => simp [told, Except.map]

/-- The name of a command and words are read as a command exactly if the words have its shape and
mean it. -/
theorem readCommand_eq_ok {command : Command} :
    readCommand program name words = .ok command ↔
      ∃ shape reading, shapeOf? name = some shape ∧
        IsReadAs shape [] [] words (.ok (.ok reading, [])) ∧ Means name reading command := by
  constructor
  · intro read
    cases known : shapeOf? name with
    | none =>
      rw [readCommand_of_unknown known] at read
      cases read
    | some shape =>
      obtain ⟨make, isRead, makes, -⟩ := readsAs_of_shapeOf known program words
      rw [isRead] at read
      obtain ⟨⟨reading, rest⟩, behind, made⟩ := except_of_bind read
      exact ⟨shape, reading, rfl, readWords_of_shapeOf known behind,
        (makes reading command).mp made⟩
  · rintro ⟨shape, reading, known, behind, means⟩
    obtain ⟨make, isRead, makes, -⟩ := readsAs_of_shapeOf known program words
    rw [isRead, readWords_of_isReadAs known behind]
    exact (makes reading command).mpr means

/-- They are answered with help exactly if the words ask for it, or the name does. -/
theorem readCommand_eq_help {text : String} :
    readCommand program name words = .error (.help text) ↔
      (∃ shape, shapeOf? name = some shape ∧
        IsReadAs shape [] [] words (.error (.help text))) ∨
      (name = "help" ∧ helpAbout program words = .help text) := by
  constructor
  · intro read
    cases known : shapeOf? name with
    | none =>
      rw [readCommand_of_unknown known] at read
      have stop := Except.error.inj read
      split at stop
      · next named => exact .inr ⟨named, stop⟩
      · cases stop
    | some shape =>
      obtain ⟨make, isRead, -, noHelp⟩ := readsAs_of_shapeOf known program words
      rw [isRead] at read
      rcases error_of_bind read with asked | ⟨read, -, made⟩
      · exact .inl ⟨shape, rfl, (readWords_eq_help (isDistinct_of_shapeOf known)).mp asked⟩
      · exact absurd made (noHelp _ _)
  · rintro (⟨shape, known, asks⟩ | ⟨rfl, asks⟩)
    · obtain ⟨make, isRead, -, -⟩ := readsAs_of_shapeOf known program words
      rw [isRead, (readWords_eq_help (isDistinct_of_shapeOf known)).mpr asks]
      rfl
    · rw [readCommand_of_unknown rfl, if_pos rfl, asks]

end

/-! ### Whole command lines -/

/-- The program with the environment it is run in. -/
def programIn (environment : List (String × String)) : Shape :=
  programShape ((environment.lookup pathVariable).getD "")

/-- The configuration file: the one that is given, or else that of the environment, or else the
usual one. -/
def configurationPath (environment : List (String × String)) (reading : Reading) : String :=
  ((reading.value? "config").or (environment.lookup pathVariable)).getD usualPath

/-- Words call for a command under a configuration: flags of the program, the name of a command,
and what belongs to the command. -/
inductive Calls (environment : List (String × String)) (words : List String) : Invocation → Prop
  | command {start reading : Reading} {name : String} {rest : List String} {shape : Shape}
      {command : Command}
      (program : IsReadAs (programIn environment) [] [] words (.ok (.ok start, name :: rest)))
      (known : shapeOf? name = some shape)
      (behind : IsReadAs shape [] [] rest (.ok (.ok reading, [])))
      (means : Means name reading command) (somewhere : configurationPath environment start ≠ "") :
      Calls environment words ⟨configurationPath environment start, command⟩

/-- Words call for help: about the program, about a command behind its name, or by the command
that prints help. What comes of the flags of the program does not matter to a command. -/
inductive CallsForHelp (environment : List (String × String)) (words : List String) :
    String → Prop
  | program {text : String}
      (asks : IsReadAs (programIn environment) [] [] words (.error (.help text))) :
      CallsForHelp environment words text
  | behind {start : Except Stop Reading} {name : String} {rest : List String} {shape : Shape}
      {text : String}
      (program : IsReadAs (programIn environment) [] [] words (.ok (start, name :: rest)))
      (known : shapeOf? name = some shape)
      (asks : IsReadAs shape [] [] rest (.error (.help text))) :
      CallsForHelp environment words text
  | about {start : Except Stop Reading} {rest : List String} {text : String}
      (program : IsReadAs (programIn environment) [] [] words (.ok (start, "help" :: rest)))
      (known : helpAbout (programIn environment) rest = .help text) :
      CallsForHelp environment words text

section

variable {environment : List (String × String)} {words : List String} {invocation : Invocation}
  {text : String}

/-- Behind the flags of the program, the name of a command and its words are read, and only then
what is settled of the flags matters. -/
def readBehind (environment : List (String × String)) :
    Except Stop Reading × List String → Except Stop Invocation
  | (_, []) => .error .misuse
  | (start, name :: rest) =>
    readCommand (programIn environment) name rest >>= fun command =>
      start >>= fun start =>
        if configurationPath environment start = "" then .error .misuse
        else .ok ⟨configurationPath environment start, command⟩

theorem read_eq (environment : List (String × String)) (words : List String) :
    read environment words =
      (told (readWords (programIn environment) .empty words) >>= readBehind environment) := by
  unfold read
  change (readWords (programIn environment) .empty words >>= _) = _
  rcases readWords (programIn environment) .empty words with stop | ⟨start, _ | ⟨name, rest⟩⟩
  · rfl
  · rfl
  · change (readCommand (programIn environment) name rest >>= _) =
      (readCommand (programIn environment) name rest >>= _)
    refine congrArg _ (funext fun command => ?_)
    refine congrArg (start.settle >>= ·) (funext fun settled => ?_)
    by_cases nowhere : configurationPath environment settled = ""
    · rw [if_pos nowhere]
      unfold configurationPath at nowhere
      simp only [nowhere]
      rfl
    · rw [if_neg nowhere]
      have present : (configurationPath environment settled).isEmpty = false := by
        simpa using nowhere
      unfold configurationPath at present
      simp only [present]
      rfl

theorem told_program {outcome : Except Stop (Except Stop Reading × List String)}
    (useful : outcome ≠ .error .misuse) :
    told (readWords (programIn environment) .empty words) = outcome ↔
      IsReadAs (programIn environment) [] [] words outcome :=
  told_eq_iff (isDistinct_programShape _) useful

/-- Behind the flags of the program, the name of a command and its words decide. -/
theorem read_of_name {start : Except Stop Reading} {name : String} {rest : List String}
    (program : IsReadAs (programIn environment) [] [] words (.ok (start, name :: rest))) :
    read environment words = readBehind environment (start, name :: rest) := by
  rw [read_eq, (told_program (by nofun)).mpr program]
  rfl

theorem settle_ne_help {reading : Reading} : reading.settle ≠ .error (.help text) := by
  unfold Reading.settle Reading.give
  split
  · nofun
  · split <;> nofun
  · nofun

/-- Words are read as an invocation exactly if they call for it. -/
theorem read_eq_ok :
    read environment words = .ok invocation ↔ Calls environment words invocation := by
  constructor
  · intro success
    rw [read_eq] at success
    obtain ⟨⟨start, rest⟩, started, success⟩ := except_of_bind success
    cases rest with
    | nil => cases success
    | cons name rest =>
      obtain ⟨command, commanded, success⟩ := except_of_bind success
      obtain ⟨settled, rfl, somewhere⟩ := except_of_bind success
      obtain ⟨shape, reading, known, behind, means⟩ := readCommand_eq_ok.mp commanded
      split at somewhere
      · cases somewhere
      · next present =>
        cases somewhere
        exact .command ((told_program (by nofun)).mp started) known behind means present
  · rintro ⟨isStart, known, behind, means, somewhere⟩
    rw [read_of_name isStart, readBehind, readCommand_eq_ok.mpr ⟨_, _, known, behind, means⟩]
    exact if_neg somewhere

/-- Words are answered with help exactly if they call for it. -/
theorem read_eq_help :
    read environment words = .error (.help text) ↔ CallsForHelp environment words text := by
  constructor
  · intro failure
    rw [read_eq] at failure
    rcases error_of_bind failure with started | ⟨⟨start, rest⟩, started, failure⟩
    · exact .program ((told_program (by nofun)).mp started)
    · have isStart := (told_program (by nofun)).mp started
      cases rest with
      | nil => cases failure
      | cons name rest =>
        rcases error_of_bind failure with commanded | ⟨command, -, failure⟩
        · rcases readCommand_eq_help.mp commanded with ⟨shape, known, asks⟩ | ⟨rfl, asks⟩
          · exact .behind isStart known asks
          · exact .about isStart asks
        · rcases error_of_bind failure with unsettled | ⟨settled, -, failure⟩
          · obtain ⟨⟨last, _⟩, -, parts⟩ := map_eq_ok.mp started
            obtain ⟨settles, -⟩ := Prod.mk.inj parts
            exact absurd (settles.trans unsettled) settle_ne_help
          · split at failure <;> cases failure
  · rintro (asks | ⟨isStart, known, asks⟩ | ⟨isStart, asks⟩)
    · rw [read_eq, (told_program (by nofun)).mpr asks]
      rfl
    · rw [read_of_name isStart, readBehind, readCommand_eq_help.mpr (.inl ⟨_, known, asks⟩)]
      rfl
    · rw [read_of_name isStart, readBehind, readCommand_eq_help.mpr (.inr ⟨rfl, asks⟩)]
      rfl

/-- A path that cannot be taken does not get in the way of help. -/
example : read [] ["--config", "", "help"] = .error (.help (programIn []).help) := by decide +kernel

/-- Words are misuse exactly if they call for nothing. -/
theorem read_eq_misuse :
    read environment words = .error .misuse ↔
      (∀ invocation, ¬ Calls environment words invocation) ∧
        ∀ text, ¬ CallsForHelp environment words text := by
  simp only [← read_eq_ok, ← read_eq_help]
  cases read environment words with
  | ok invocation => simp
  | error stop => cases stop <;> simp

end

end Metasearch.CommandLine
