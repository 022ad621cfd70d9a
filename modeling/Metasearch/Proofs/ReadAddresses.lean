/-
This file settles what reading leaves of an address, on its own or relative to another. The query
and the fragment are in the escaped form of their places, whatever the scheme; under the schemes
for the web so are the user, the password and the segments of the path, there is a host that was
read and a path with a segment at least, and a port is written only where it has to be. Each step
of reading leaves its part so, and every way of reading puts such parts together.
-/
import Metasearch.Proofs.HostTexts
import Metasearch.Proofs.Outcomes
import Metasearch.Url.Query

namespace Metasearch.Url

/-! ### Addresses that were read -/

/-- A segment as reading leaves it under a scheme for the web: it stands for itself. -/
structure IsSettledSegment (segment : String) : Prop where
  stands : ∀ c ∈ segment.toList, Stands escapedInPath c ∧ isSlash .web c = false
  stays : ∀ first, stepOf .web first segment.toList = .down [segment]

/-- What stands before the query under a scheme for the web. -/
structure IsSettledFront (url : Url) : Prop where
  user : ∀ c ∈ url.user.toList, Stands escapedInUser c
  password : ∀ c ∈ url.password.toList, Stands escapedInUser c
  host : ∃ host, url.host = some host ∧ IsSettledHost host
  port : ∀ port, url.port = some port → port ≤ 65535 ∧ usualPort? url.scheme ≠ some port
  path : ∃ segments, url.path = .segments segments ∧ segments ≠ [] ∧
    ∀ segment ∈ segments, IsSettledSegment segment

/-- An address as reading leaves it. -/
structure IsSettled (url : Url) : Prop where
  front : kindOf url.scheme = .web → IsSettledFront url
  query : ∀ query, url.query = some query →
    ∀ c ∈ query.toList, Stands (escapedInQuery (kindOf url.scheme).isSpecial) c
  fragment : ∀ fragment, url.fragment = some fragment →
    ∀ c ∈ fragment.toList, Stands escapedInFragment c

/-! ### Queries and fragments -/

theorem stands_escapeText_fragment {text : List Char} {c : Char}
    (member : c ∈ escapeText escapedInFragment text) : Stands escapedInFragment c :=
  stands_of_mem_escapeText (by decide) member

theorem stands_escapeText_query {special : Bool} {text : List Char} {c : Char}
    (member : c ∈ escapeText (escapedInQuery special) text) :
    Stands (escapedInQuery special) c := by
  refine stands_of_mem_escapeText ?_ member
  cases special <;> decide

theorem stands_readEnd_query {kind : Kind} {text : List Char} {query : String}
    (found : (readEnd kind text).1 = some query) :
    ∀ c ∈ query.toList, Stands (escapedInQuery kind.isSpecial) c := by
  unfold readEnd at found
  dsimp only at found
  split at found
  · obtain rfl := Option.some.inj found
    rw [String.toList_ofList]
    exact fun c member => stands_escapeText_query member
  · exact absurd found (by simp)

theorem stands_readFragment {text : List Char} {fragment : String}
    (found : readFragment? text = some fragment) :
    ∀ c ∈ fragment.toList, Stands escapedInFragment c := by
  unfold readFragment? at found
  split at found
  · obtain rfl := Option.some.inj found
    rw [String.toList_ofList]
    exact fun c member => stands_escapeText_fragment member
  · exact absurd found (by simp)

theorem stands_readEnd_fragment {kind : Kind} {text : List Char} {fragment : String}
    (found : (readEnd kind text).2 = some fragment) :
    ∀ c ∈ fragment.toList, Stands escapedInFragment c := by
  unfold readEnd at found
  dsimp only at found
  split at found <;> exact stands_readFragment found

/-- The front of an address does not depend on what follows the path. -/
theorem IsSettledFront.withRest {url : Url} (front : IsSettledFront url)
    (query fragment : Option String) :
    IsSettledFront { url with query := query, fragment := fragment } :=
  ⟨front.user, front.password, front.host, front.port, front.path⟩

/-- An address with a settled front is settled when its query and fragment are read. -/
theorem withEnd_settled {url : Url} {kind : Kind} (kindEq : kind = kindOf url.scheme)
    (front : kindOf url.scheme = .web → IsSettledFront url) (text : List Char) :
    IsSettled (withEnd kind url text) := by
  subst kindEq
  refine ⟨fun web => ?_, fun query found => ?_, fun fragment found => ?_⟩
  · exact (front web).withRest _ _
  · exact stands_readEnd_query found
  · exact stands_readEnd_fragment found

theorem withFragment_settled {url : Url} (settled : IsSettled url) (text : List Char) :
    IsSettled (withFragment url text) := by
  refine ⟨fun web => ?_, settled.query, fun fragment found => ?_⟩
  · exact (settled.front web).withRest _ _
  · exact stands_readFragment found

theorem noFragment_settled {url : Url} (settled : IsSettled url) :
    IsSettled { url with fragment := none } := by
  refine ⟨fun web => ?_, settled.query, fun fragment found => absurd found (by simp)⟩
  exact (settled.front web).withRest _ _

/-! ### Paths -/

/-- A segment that is put down is escaped, whatever segments there are before it. -/
theorem stepOf_web {first : Bool} {segment : List Char} {segments : List String}
    (step : stepOf .web first segment = .down segments) :
    segments = [String.ofList segment] ∧
      ∀ first, stepOf .web first segment = .down [String.ofList segment] := by
  have sameStep : ∀ first', stepOf .web first' segment = stepOf .web first segment := by
    intro first'
    simp only [stepOf, show (Kind.web == Kind.file) = false from rfl, Bool.false_eq_true, if_false]
  have down : segments = [String.ofList segment] := by
    simp only [stepOf, show (Kind.web == Kind.file) = false from rfl, Bool.false_eq_true, if_false]
      at step
    split at step
    · exact absurd step (by simp)
    · split at step
      · exact absurd step (by simp)
      · exact (Step.down.inj step).symm
  exact ⟨down, fun first' => by rw [sameStep first', step, down]⟩

theorem stands_escapeText_path {text : List Char} (noSlash : ∀ c ∈ text, isSlash .web c = false)
    {c : Char} (member : c ∈ escapeText escapedInPath text) :
    Stands escapedInPath c ∧ isSlash .web c = false := by
  refine ⟨stands_of_mem_escapeText (by decide) member, ?_⟩
  rcases mem_escapeText member with written | ⟨-, inText⟩
  · have every : ∀ c ∈ escapeChars, isSlash .web c = false := Text.forall_of_all (by decide)
    exact every c written
  · exact noSlash c inText

/-- What a piece of a path puts down is a settled segment. -/
theorem down_settled {first : Bool} {piece : List Char} {segments : List String}
    (noSlash : ∀ c ∈ piece, isSlash .web c = false)
    (step : stepOf .web first (escapeText escapedInPath piece) = .down segments) :
    segments ≠ [] ∧ ∀ segment ∈ segments, IsSettledSegment segment := by
  obtain ⟨rfl, stays⟩ := stepOf_web step
  refine ⟨by simp, ?_⟩
  intro segment member
  rw [List.mem_singleton.mp member]
  refine ⟨?_, ?_⟩ <;> rw [String.toList_ofList]
  · exact fun c inPiece => stands_escapeText_path noSlash inPiece
  · exact stays

theorem empty_settled : IsSettledSegment "" :=
  ⟨fun c member => absurd member List.not_mem_nil, fun first => by cases first <;> rfl⟩

theorem mem_of_mem_oneUp {segments : List String} {segment : String}
    (member : segment ∈ oneUp segments) : segment ∈ segments := by
  unfold oneUp at member
  split at member
  · split at member
    · exact member
    · exact (List.dropLast_sublist _).mem member
  · exact member

/-- Walking a path leaves settled segments, and one at least. -/
theorem walk_settled {pieces : List (List Char)} {done : List String} (some : pieces ≠ [])
    (noSlash : ∀ piece ∈ pieces, ∀ c ∈ piece, isSlash .web c = false)
    (settled : ∀ segment ∈ done, IsSettledSegment segment) :
    walk .web pieces done ≠ [] ∧ ∀ segment ∈ walk .web pieces done, IsSettledSegment segment := by
  induction pieces generalizing done with
  | nil => exact absurd rfl some
  | cons piece rest inductionHypothesis =>
    rw [List.forall_mem_cons] at noSlash
    cases rest with
    | nil =>
      rw [walk]
      split
      · refine ⟨by simp, fun segment member => ?_⟩
        rcases List.mem_append.mp member with before | last
        · exact settled segment before
        · rw [List.mem_singleton.mp last]
          exact empty_settled
      · refine ⟨by simp, fun segment member => ?_⟩
        rcases List.mem_append.mp member with before | last
        · exact settled segment (mem_of_mem_oneUp before)
        · rw [List.mem_singleton.mp last]
          exact empty_settled
      · next segments step =>
        obtain ⟨present, downSettled⟩ := down_settled noSlash.1 step
        refine ⟨by simp [present], fun segment member => ?_⟩
        rcases List.mem_append.mp member with before | last
        · exact settled segment before
        · exact downSettled segment last
    | cons next rest =>
      rw [walk.eq_3 _ _ _ _ (List.cons_ne_nil _ _)]
      split
      · exact inductionHypothesis (by simp) noSlash.2 settled
      · exact inductionHypothesis (by simp) noSlash.2 fun segment member =>
          settled segment (mem_of_mem_oneUp member)
      · next segments step =>
        refine inductionHypothesis (by simp) noSlash.2 fun segment member => ?_
        rcases List.mem_append.mp member with before | last
        · exact settled segment before
        · exact (down_settled noSlash.1 step).2 segment last

theorem readSegments_settled {done : List String}
    (settled : ∀ segment ∈ done, IsSettledSegment segment) (text : List Char) :
    (readSegments .web done text).1 ≠ [] ∧
      ∀ segment ∈ (readSegments .web done text).1, IsSettledSegment segment :=
  walk_settled (Text.splitAt_ne_nil _ _)
    (fun _ isPiece _ member => (Text.mem_of_mem_splitAt isPiece member).2) settled

theorem readPathStart_settled (text : List Char) : (readPathStart .web text).1 ≠ [] ∧
    ∀ segment ∈ (readPathStart .web text).1, IsSettledSegment segment := by
  have nothing : ∀ segment ∈ ([] : List String), IsSettledSegment segment :=
    fun segment member => absurd member List.not_mem_nil
  cases text with
  | nil =>
    refine ⟨by simp [readPathStart, Kind.isSpecial], fun segment member => ?_⟩
    simp only [readPathStart, Kind.isSpecial, if_true, List.mem_singleton] at member
    rw [member]
    exact empty_settled
  | cons c rest =>
    simp only [readPathStart, Kind.isSpecial, Bool.not_true, Bool.false_and, Bool.false_eq_true,
      if_false]
    split
    · exact readSegments_settled nothing rest
    · exact readSegments_settled nothing (c :: rest)

/-! ### Users and ports -/

theorem stands_escapeText_user {text : List Char} {c : Char}
    (member : c ∈ escapeText escapedInUser text) : Stands escapedInUser c :=
  stands_of_mem_escapeText (by decide) member

theorem keepUser_settled (part : List Char) :
    ∀ c ∈ (keepUser part).toList, Stands escapedInUser c := by
  intro c member
  rw [keepUser, String.toList_ofList] at member
  exact stands_escapeText_user member

theorem readUser_settled {kind : Kind} {text rest : List Char} {user password : String}
    (read : readUser kind text = .ok (user, password, rest)) :
    (∀ c ∈ user.toList, Stands escapedInUser c) ∧
      ∀ c ∈ password.toList, Stands escapedInUser c := by
  unfold readUser at read
  dsimp only at read
  split at read
  · split at read
    · exact absurd read (by simp)
    · obtain ⟨rfl, rest⟩ := Prod.mk.inj (Except.ok.inj read)
      obtain ⟨rfl, -⟩ := Prod.mk.inj rest
      exact ⟨keepUser_settled _, keepUser_settled _⟩
  · obtain ⟨rfl, rest⟩ := Prod.mk.inj (Except.ok.inj read)
    obtain ⟨rfl, -⟩ := Prod.mk.inj rest
    exact ⟨by simp, by simp⟩

theorem readPort_settled {scheme : String} {text rest : List Char} {port : Nat}
    (read : readPort scheme text = .ok (some port, rest)) :
    port ≤ 65535 ∧ usualPort? scheme ≠ some port := by
  unfold readPort at read
  dsimp only at read
  split at read
  · exact absurd read (by simp)
  · next fits =>
    have portEq := (Prod.mk.inj (Except.ok.inj read)).1
    split at portEq
    · exact absurd portEq (by simp)
    · next unusual =>
      obtain rfl := Option.some.inj portEq
      simp only [Bool.or_eq_true, decide_eq_true_eq, not_or, Nat.not_lt] at fits
      simp only [Bool.or_eq_true, not_or, beq_iff_eq] at unusual
      exact ⟨fits.1, unusual.2⟩

theorem portBehind_settled {scheme : String} {host : Host} {text rest : List Char} {port : Nat}
    (read : portBehind scheme host text = .ok (some port, rest)) :
    port ≤ 65535 ∧ usualPort? scheme ≠ some port := by
  unfold portBehind at read
  split at read
  · split at read
    · exact absurd read (by simp)
    · exact readPort_settled read
  · exact absurd (Prod.mk.inj (Except.ok.inj read)).1 (by simp)

theorem hostOf_settled {text : List Char} {host : Host} (read : hostOf .web text = .ok host) :
    IsSettledHost host := by
  unfold hostOf at read
  rw [if_pos (show Kind.web.isSpecial = true from rfl)] at read
  split at read
  · exact absurd read (by simp)
  · exact readHost_settled read

/-! ### Whole addresses -/

/-- What follows the two slashes gives a settled address of the scheme. -/
theorem readAuthority_settled {scheme : String} {text : List Char} {url : Url}
    (read : readAuthority scheme text = .ok url) : url.scheme = scheme ∧ IsSettled url := by
  unfold readAuthority at read
  dsimp only at read
  obtain ⟨⟨user, password, behindUser⟩, readHere, read⟩ := except_of_bind read
  obtain ⟨host, hostHere, read⟩ := except_of_bind read
  obtain ⟨⟨port, behindPort⟩, portHere, read⟩ := except_of_bind read
  obtain rfl := Except.ok.inj read
  refine ⟨rfl, withEnd_settled rfl (fun web => ?_) _⟩
  obtain ⟨userStands, passwordStands⟩ := readUser_settled readHere
  dsimp only at web
  rw [web] at hostHere
  refine ⟨userStands, passwordStands, ⟨host, rfl, hostOf_settled hostHere⟩, ?_, ?_⟩
  · rintro number rfl
    exact portBehind_settled portHere
  · refine ⟨_, rfl, ?_⟩
    rw [web]
    exact readPathStart_settled behindPort

/-- A settled address of a file. -/
def IsFileAddress (url : Url) : Prop :=
  url.scheme = "file" ∧ IsSettled url

theorem withEnd_file {url : Url} (isFile : url.scheme = "file") (text : List Char) :
    IsFileAddress (withEnd .file url text) := by
  have kind : kindOf url.scheme = .file := by rw [isFile]; decide
  refine ⟨isFile, withEnd_settled kind.symm (fun web => ?_) text⟩
  rw [kind] at web
  exact absurd web (by decide)

theorem withPath_file {url : Url} (isFile : url.scheme = "file") (segments : List String)
    (text : List Char) :
    IsFileAddress (withEnd .file { url with path := .segments segments } text) :=
  withEnd_file (show { url with path := .segments segments }.scheme = "file" from isFile) text

theorem readFileHost_settled {text : List Char} {url : Url} (read : readFileHost text = .ok url) :
    IsFileAddress url := by
  unfold readFileHost at read
  dsimp only at read
  split at read
  · exact Except.ok.inj read ▸ withEnd_file rfl _
  · split at read
    · exact Except.ok.inj read ▸ withEnd_file rfl _
    · obtain ⟨host, -, read⟩ := except_of_bind read
      split at read
      · exact Except.ok.inj read ▸ withEnd_file rfl _
      · exact Except.ok.inj read ▸ withEnd_file rfl _

theorem fresh_settled (text : List Char) : IsFileAddress (readFile.fresh text) :=
  withEnd_file rfl _

theorem below_settled {base : Option Url} (isFile : ∀ url, base = some url → IsFileAddress url)
    (text : List Char) : IsFileAddress (readFile.below base text) := by
  unfold readFile.below
  split
  · next url =>
    split
    · exact fresh_settled text
    · split
      · split
        · exact withEnd_file rfl _
        · exact withPath_file (isFile url rfl).1 _ _
      · exact fresh_settled text
  · exact fresh_settled text

theorem readFile_settled {base : Option Url} (isFile : ∀ url, base = some url → IsFileAddress url)
    {text : List Char} {url : Url} (read : readFile base text = .ok url) : IsFileAddress url := by
  unfold readFile at read
  split at read
  · split at read
    · exact readFileHost_settled read
    · exact Except.ok.inj read ▸ below_settled isFile _
  · split at read
    · exact readFileHost_settled read
    · exact Except.ok.inj read ▸ below_settled isFile _
  · exact Except.ok.inj read ▸ below_settled isFile _
  · exact Except.ok.inj read ▸ below_settled isFile _
  · split at read
    · exact Except.ok.inj read ▸ fresh_settled text
    · next other =>
      obtain ⟨schemeEq, settled⟩ := isFile other rfl
      split at read
      · exact Except.ok.inj read ▸ ⟨schemeEq, noFragment_settled settled⟩
      · exact Except.ok.inj read ▸ withEnd_file schemeEq _
      · exact Except.ok.inj read ▸ ⟨schemeEq, withFragment_settled settled _⟩
      · split at read
        · exact Except.ok.inj read ▸ fresh_settled text
        · exact Except.ok.inj read ▸ withPath_file schemeEq _ _

/-- An address with another path keeps what is settled of it. -/
theorem withPath_settled {base : Url} (settled : IsSettled base) {segments : List String}
    (path : kindOf base.scheme = .web → segments ≠ [] ∧ ∀ segment ∈ segments,
      IsSettledSegment segment) (text : List Char) :
    IsSettled (withEnd (kindOf base.scheme) { base with path := .segments segments } text) := by
  refine withEnd_settled rfl (fun web => ?_) text
  obtain ⟨user, password, host, port, -⟩ := settled.front web
  exact ⟨user, password, host, port, ⟨segments, rfl, path web⟩⟩

theorem segmentsOf_settled {base : Url} (settled : IsSettled base)
    (web : kindOf base.scheme = .web) :
    ∀ segment ∈ segmentsOf base, IsSettledSegment segment := by
  obtain ⟨segments, isPath, -, each⟩ := (settled.front web).path
  rw [segmentsOf, isPath]
  exact each

theorem readRelative_settled {base url : Url} {text : List Char} (settled : IsSettled base)
    (read : readRelative base text = .ok url) : IsSettled url := by
  have behind : ∀ (done : List String) (text : List Char),
      (kindOf base.scheme = .web → ∀ segment ∈ done, IsSettledSegment segment) →
      ∀ url, (Except.ok (withEnd (kindOf base.scheme)
        { base with path := .segments (readSegments (kindOf base.scheme) done text).1 }
        (readSegments (kindOf base.scheme) done text).2) : Except Error Url) = .ok url →
          IsSettled url := by
    intro done text doneSettled url read
    obtain rfl := Except.ok.inj read
    refine withPath_settled settled (fun web => ?_) _
    have segments := readSegments_settled (doneSettled web) text
    rw [web]
    exact segments
  have nothing : kindOf base.scheme = .web → ∀ segment ∈ ([] : List String),
      IsSettledSegment segment := fun _ segment member => absurd member List.not_mem_nil
  unfold readRelative at read
  dsimp only at read
  split at read
  · exact Except.ok.inj read ▸ noFragment_settled settled
  · exact Except.ok.inj read ▸ withEnd_settled rfl settled.front _
  · exact Except.ok.inj read ▸ withFragment_settled settled _
  · split at read
    · split at read
      · split at read
        · exact (readAuthority_settled read).2
        · exact behind [] _ nothing url read
      · exact behind [] _ nothing url read
    · refine behind _ _ (fun web segment member => ?_) url read
      exact segmentsOf_settled settled web segment ((List.dropLast_sublist _).mem member)

theorem readBehindScheme_settled {base : Option Url} {scheme : String} {text : List Char}
    {url : Url} (settled : ∀ url, base = some url → IsSettled url)
    (read : readBehindScheme base scheme text = .ok url) : IsSettled url := by
  unfold readBehindScheme at read
  split at read
  · refine (readFile_settled (fun url found => ?_) read).2
    obtain ⟨found, isFile⟩ := Option.filter_eq_some_iff.mp found
    exact ⟨beq_iff_eq.mp isFile, settled url found⟩
  · dsimp only at read
    split at read
    · next other found =>
      exact readRelative_settled (settled other (Option.filter_eq_some_iff.mp found).1) read
    · exact (readAuthority_settled read).2
  · next kind =>
    have noWeb : ∀ (path : UrlPath), kindOf scheme = .web →
        IsSettledFront ⟨scheme, "", "", none, none, path, none, none⟩ := by
      intro path web
      rw [kind] at web
      exact absurd web (by decide)
    split at read
    · exact (readAuthority_settled read).2
    · exact Except.ok.inj read ▸ withEnd_settled kind.symm (noWeb _) _
    · exact Except.ok.inj read ▸ withEnd_settled kind.symm (noWeb _) _

/-- Reading leaves an address settled, on its own or relative to one that is. -/
theorem readBelow_settled {base : Option Url} {text : String} {url : Url}
    (settled : ∀ url, base = some url → IsSettled url) (read : readBelow base text = .ok url) :
    IsSettled url := by
  unfold readBelow at read
  dsimp only at read
  split at read
  · exact readBehindScheme_settled settled read
  · exact absurd read (by simp)
  · next other _ =>
    have otherSettled := settled other rfl
    split at read
    · exact Except.ok.inj read ▸ withFragment_settled otherSettled _
    · split at read
      · exact absurd read (by simp)
      · split at read
        · next isFile =>
          refine (readFile_settled (fun url found => ?_) read).2
          obtain rfl := Option.some.inj found
          exact ⟨beq_iff_eq.mp isFile, otherSettled⟩
        · exact readRelative_settled otherSettled read

end Metasearch.Url
