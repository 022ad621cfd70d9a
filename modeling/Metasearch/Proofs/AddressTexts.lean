/-
This file settles that an address of the web reads as itself: reading the text of an address that
was read gives the address. The text is taken apart where it was put together. Each part is found
again whatever follows it, because none of its characters is a mark that ends it, and escaping a
part again changes nothing.
-/
import Metasearch.Proofs.IntegerTexts
import Metasearch.Proofs.ReadAddresses

namespace Metasearch.Url

/-! ### The text of an address -/

/-- The user and the password as they are written. -/
def userText (user password : String) : List Char :=
  user.toList ++ (if password.toList = [] then [] else ':' :: password.toList)

/-- What stands in front of the host. -/
def userPart (user password : String) : List Char :=
  if userText user password = [] then [] else userText user password ++ ['@']

/-- The port with its mark. -/
def portPart : Option Nat → List Char
  | some port => ':' :: (toString port).toList
  | none => []

/-- The segments, each behind a slash. -/
def pathPart (segments : List String) : List Char :=
  segments.flatMap fun segment => '/' :: segment.toList

/-- The query with its mark. -/
def queryPart : Option String → List Char
  | some query => '?' :: query.toList
  | none => []

/-- The fragment with its mark. -/
def fragmentPart : Option String → List Char
  | some fragment => '#' :: fragment.toList
  | none => []

theorem toList_joinUser (user password : String) :
    (joinUser user password).toList = userText user password := by
  rw [joinUser, String.toList_append, userText]
  by_cases empty : password = ""
  · simp [empty]
  · have present : password.toList ≠ [] := by simpa using empty
    rw [String.isEmpty_eq_false_iff.mpr empty, if_neg (by decide), if_neg present,
      String.toList_append]
    rfl

theorem toList_writeUser (user password : String) :
    (writeUser user password).toList = userPart user password := by
  rw [writeUser, userPart, ← toList_joinUser]
  by_cases empty : joinUser user password = ""
  · rw [empty]
    rfl
  · rw [String.isEmpty_eq_false_iff.mpr empty, if_neg (by decide), if_neg (by simpa using empty),
      String.toList_append]
    rfl

theorem toList_writePort (port : Option Nat) : (writePort port).toList = portPart port := by
  cases port <;> simp [writePort, portPart]

theorem toList_writePath (segments : List String) :
    (writePath (.segments segments)).toList = pathPart segments := by
  rw [writePath, pathPart]
  induction segments with
  | nil => rfl
  | cons segment rest inductionHypothesis =>
    rw [List.map_cons, List.flatMap_cons, ← inductionHypothesis]
    simp

theorem toList_writeQuery (query : Option String) :
    (writeQuery query).toList = queryPart query := by
  cases query <;> simp [writeQuery, queryPart]

theorem toList_writeFragment (fragment : Option String) :
    (writeFragment fragment).toList = fragmentPart fragment := by
  cases fragment <;> simp [writeFragment, fragmentPart]

/-- The text of an address with a host and segments, part by part. -/
theorem toList_write {url : Url} {host : Host} {segments : List String}
    (hostEq : url.host = some host) (pathEq : url.path = .segments segments) :
    (write url).toList = url.scheme.toList ++ ':' :: '/' :: '/' ::
      (userPart url.user url.password ++ ((writeHost host).toList ++ (portPart url.port ++
        (pathPart segments ++ (queryPart url.query ++ fragmentPart url.fragment))))) := by
  rw [write, writeAuthority, hostEq, pathEq]
  simp only [String.toList_append, toList_writeUser, toList_writePort, toList_writePath,
    toList_writeQuery, toList_writeFragment, List.append_assoc]
  rfl

/-! ### Users -/

variable {user password : String}

theorem isHostChar_of_stands {c : Char} (stands : Stands escapedInUser c) :
    IsHostChar c ∧ c ≠ ':' := by
  have every : ∀ c ∈ Text.asciiChars, escapedInUser c = false → IsHostChar c ∧ c ≠ ':' :=
    Text.forall_of_all (by decide)
  exact every c (Text.mem_asciiChars stands.2) stands.1

theorem isHostChar_userText (userStands : ∀ c ∈ user.toList, Stands escapedInUser c)
    (passwordStands : ∀ c ∈ password.toList, Stands escapedInUser c) :
    ∀ c ∈ userText user password, IsHostChar c := by
  intro c member
  rcases List.mem_append.mp member with inUser | behind
  · exact (isHostChar_of_stands (userStands c inUser)).1
  · split at behind
    · exact absurd behind List.not_mem_nil
    · rcases List.mem_cons.mp behind with rfl | inPassword
      · decide
      · exact (isHostChar_of_stands (passwordStands c inPassword)).1

theorem keepUser_of_stands (stands : ∀ c ∈ user.toList, Stands escapedInUser c) :
    keepUser user.toList = user := by
  rw [keepUser, escapeText_of_stands stands, String.ofList_toList]

theorem takeWhile_userText (userStands : ∀ c ∈ user.toList, Stands escapedInUser c) :
    (userText user password).takeWhile (· != ':') = user.toList := by
  have noColon : ∀ c ∈ user.toList, (c != ':') = true := fun c member =>
    bne_iff_ne.mpr (isHostChar_of_stands (userStands c member)).2
  rw [userText, List.takeWhile_append_of_pos noColon]
  split
  · simp
  · rw [List.takeWhile_cons_of_neg (by decide), List.append_nil]

theorem drop_userText :
    (userText user password).drop (user.toList.length + 1) = password.toList := by
  rw [userText, List.drop_append, List.drop_of_length_le (Nat.le_succ _),
    Nat.add_sub_cancel_left, List.nil_append]
  split
  · next empty => rw [empty]; rfl
  · rfl

/-- What stands in front of the last at sign is found, as there is none behind it. -/
theorem splitUser_append {text front : List Char} (noUser : ∀ c ∈ front, c ≠ '@') :
    splitUser (text ++ '@' :: front) = (text, front) := by
  have backwards : (text ++ '@' :: front).reverse.takeWhile (· != '@') = front.reverse := by
    rw [List.reverse_append, List.reverse_cons, List.append_assoc,
      List.takeWhile_append_of_pos fun c member => bne_iff_ne.mpr
        (noUser c (List.mem_reverse.mp member)),
      List.singleton_append, List.takeWhile_cons_of_neg (by decide), List.append_nil]
  have length : (text ++ '@' :: front).length - front.length - 1 = text.length := by
    rw [List.length_append, List.length_cons]
    omega
  rw [splitUser, backwards, List.reverse_reverse]
  simp only [length, List.take_left]

theorem userText_eq_nil (empty : userText user password = []) : user = "" ∧ password = "" := by
  rw [userText, List.append_eq_nil_iff, String.toList_eq_nil_iff] at empty
  refine ⟨empty.1, ?_⟩
  by_cases none : password.toList = []
  · exact String.toList_eq_nil_iff.mp none
  · rw [if_neg none] at empty
    exact absurd empty.2 (List.cons_ne_nil _ _)

/-- What stands before the path has no end of its own in it. -/
theorem takeWhile_authority {text : List Char} (inside : ∀ c ∈ text, c = '@' ∨ IsHostChar c)
    (tail : List Char) :
    (text ++ '/' :: tail).takeWhile (fun c => !(isSlash .web c || endsPath c)) = text := by
  have goesOn : ∀ c ∈ text, (!(isSlash .web c || endsPath c)) = true := by
    intro c member
    rcases inside c member with rfl | isHostChar
    · decide
    · rw [isSlash_of_isHostChar isHostChar, isHostChar.noEnd]
      rfl
  rw [List.takeWhile_append_of_pos goesOn, List.takeWhile_cons_of_neg (by decide),
    List.append_nil]

section Users

variable {front : List Char} (chars : ∀ c ∈ front, IsHostChar c) (tail : List Char)
include chars

/-- Without an at sign there is no user. -/
theorem readUser_none :
    readUser .web (front ++ '/' :: tail) = .ok ("", "", front ++ '/' :: tail) := by
  have absent : front.contains '@' = false := by
    rw [List.contains_eq_mem, decide_eq_false_iff_not]
    exact fun member => (chars '@' member).noUser rfl
  rw [readUser]
  simp only [takeWhile_authority fun c member => .inr (chars c member), absent,
    Bool.false_eq_true, if_false]

/-- In front of an at sign the user is read back. -/
theorem readUser_some (userStands : ∀ c ∈ user.toList, Stands escapedInUser c)
    (passwordStands : ∀ c ∈ password.toList, Stands escapedInUser c) (present : front ≠ []) :
    readUser .web (userText user password ++ '@' :: front ++ '/' :: tail) =
      .ok (user, password, front ++ '/' :: tail) := by
  have inside : ∀ c ∈ userText user password ++ '@' :: front, c = '@' ∨ IsHostChar c := by
    intro c member
    rcases List.mem_append.mp member with inUser | behind
    · exact .inr (isHostChar_userText userStands passwordStands c inUser)
    · exact (List.mem_cons.mp behind).imp_right (chars c)
  have marked : (userText user password ++ '@' :: front).contains '@' = true := by simp
  have some : front.isEmpty = false := by simpa using present
  have noUser : ∀ c ∈ front, c ≠ '@' := fun c member => (chars c member).noUser
  have rest : (userText user password ++ '@' :: front ++ '/' :: tail).drop
      ((userText user password).length + 1) = front ++ '/' :: tail := by
    rw [List.append_assoc, List.drop_append, List.drop_of_length_le (Nat.le_succ _),
      Nat.add_sub_cancel_left]
    rfl
  rw [readUser]
  simp only [takeWhile_authority inside, marked, if_true, splitUser_append noUser, some,
    Bool.false_and, Bool.false_eq_true, if_false, takeWhile_userText userStands, drop_userText,
    keepUser_of_stands userStands, keepUser_of_stands passwordStands, rest]

/-- The user is read back, whatever host and path follow. -/
theorem readUser_userPart (userStands : ∀ c ∈ user.toList, Stands escapedInUser c)
    (passwordStands : ∀ c ∈ password.toList, Stands escapedInUser c) (present : front ≠ []) :
    readUser .web (userPart user password ++ (front ++ '/' :: tail)) =
      .ok (user, password, front ++ '/' :: tail) := by
  by_cases empty : userText user password = []
  · obtain ⟨rfl, rfl⟩ := userText_eq_nil empty
    rw [userPart, if_pos empty, List.nil_append]
    exact readUser_none chars tail
  · have authority : userPart user password ++ (front ++ '/' :: tail) =
        userText user password ++ '@' :: front ++ '/' :: tail := by
      rw [userPart, if_neg empty]
      simp
    rw [authority]
    exact readUser_some chars tail userStands passwordStands present

end Users

/-! ### Ports -/

/-- The digits of a port give the port. -/
theorem portNumber_toString {port : Nat} (fits : port ≤ 65535) :
    portNumber (toString port).toList = port := by
  rw [Nat.toString_eq_ofList_toDigits, String.toList_ofList]
  induction port using Nat.strongRecOn with
  | ind port inductionHypothesis =>
    by_cases single : port < 10
    · rw [Nat.toDigits_of_lt_base single, portNumber, List.foldl_cons, List.foldl_nil,
        Number.digitValue_digitChar single]
      omega
    · have shorter : port / 10 < port := Nat.div_lt_self (by omega) (by decide)
      have front := inductionHypothesis _ shorter (by omega)
      rw [portNumber] at front
      rw [Nat.toDigits_of_base_le (by decide) (Nat.not_lt.mp single), portNumber,
        List.foldl_append, front, List.foldl_cons, List.foldl_nil,
        Number.digitValue_digitChar (Nat.mod_lt _ (by decide))]
      omega

theorem isHostChar_portPart (port : Option Nat) : ∀ c ∈ portPart port, IsHostChar c := by
  cases port with
  | none => exact fun c member => absurd member List.not_mem_nil
  | some port =>
    refine List.forall_mem_cons.mpr ⟨by decide, fun c member => ?_⟩
    exact (isLabelChar_of_isDigit (Number.isDigit_of_mem_toString member)).1.isPlainHostChar.1

/-- The port is read back, whatever path follows. -/
theorem portBehind_portPart {scheme : String} {host : Host} {port : Option Nat}
    (settled : IsSettledHost host)
    (fits : ∀ number, port = some number → number ≤ 65535 ∧ usualPort? scheme ≠ some number)
    (tail : List Char) :
    portBehind scheme host (portPart port ++ '/' :: tail) = .ok (port, '/' :: tail) := by
  cases port with
  | none => rfl
  | some number =>
    obtain ⟨small, unusual⟩ := fits number rfl
    have present : (host == .empty) = false := by
      rw [beq_eq_false_iff_ne]
      rintro rfl
      exact settled.elim
    have digits : ((toString number).toList ++ '/' :: tail).takeWhile (·.isDigit) =
        (toString number).toList := by
      rw [List.takeWhile_append_of_pos fun c member => Number.isDigit_of_mem_toString member,
        List.takeWhile_cons_of_neg (by decide), List.append_nil]
    have someDigits : (toString number).toList.isEmpty = false := by simp
    have valid : (decide (65535 < number) || !endsPort ('/' :: tail)) = false := by
      rw [Bool.or_eq_false_iff]
      exact ⟨decide_eq_false (Nat.not_lt.mpr small), by simp [endsPort]⟩
    have written : (usualPort? scheme == some number) = false := beq_eq_false_iff_ne.mpr unusual
    have text : portPart (some number) ++ '/' :: tail =
        ':' :: ((toString number).toList ++ '/' :: tail) := rfl
    rw [text, portBehind, present, if_neg (by decide), readPort]
    simp only [digits, List.drop_left, portNumber_toString small, valid, someDigits, written,
      Bool.or_self, Bool.false_eq_true, if_false]

/-! ### Paths -/

theorem isPathChar_of_settled {segment : String} (settled : IsSettledSegment segment) :
    ∀ c ∈ segment.toList, endsPath c = false ∧ 0x20 < c.toNat := by
  intro c member
  have every : ∀ c ∈ Text.asciiChars, escapedInPath c = false →
      endsPath c = false ∧ 0x20 < c.toNat := Text.forall_of_all (by decide)
  have stands := (settled.stands c member).1
  exact every c (Text.mem_asciiChars stands.2) stands.1

theorem escapeText_of_settled {segment : String} (settled : IsSettledSegment segment) :
    escapeText escapedInPath segment.toList = segment.toList :=
  escapeText_of_stands fun c member => (settled.stands c member).1

/-- Settled segments are put down one after the other. -/
theorem walk_of_settled {segments done : List String}
    (settled : ∀ segment ∈ segments, IsSettledSegment segment) :
    walk .web (segments.map String.toList) done = done ++ segments := by
  induction segments generalizing done with
  | nil => exact (List.append_nil done).symm
  | cons segment rest inductionHypothesis =>
    rw [List.forall_mem_cons] at settled
    cases rest with
    | nil =>
      rw [List.map_singleton, walk, escapeText_of_settled settled.1, settled.1.stays]
    | cons next rest =>
      have later : walk .web ((next :: rest).map String.toList) (done ++ [segment]) =
          done ++ [segment] ++ next :: rest := inductionHypothesis settled.2
      rw [List.map_cons, walk.eq_3 _ _ _ _ (by simp), escapeText_of_settled settled.1,
        settled.1.stays]
      dsimp only
      rw [later, List.append_assoc]
      rfl

theorem pathPart_cons (segment : String) (rest : List String) :
    pathPart (segment :: rest) =
      '/' :: ['/'].intercalate ((segment :: rest).map String.toList) := by
  induction rest generalizing segment with
  | nil => simp [pathPart]
  | cons next rest inductionHypothesis =>
    rw [List.map_cons, List.map_cons, List.intercalate_cons_cons, List.append_assoc,
      List.singleton_append, ← List.map_cons, ← inductionHypothesis]
    rfl

/-- What follows a path: nothing, or what ends one. -/
def EndsPath (rest : List Char) : Prop :=
  ∀ c ∈ rest.head?, endsPath c = true

theorem takeWhile_path {text rest : List Char} (inside : ∀ c ∈ text, endsPath c = false)
    (ends : EndsPath rest) : (text ++ rest).takeWhile (!endsPath ·) = text := by
  rw [List.takeWhile_append_of_pos fun c member => by rw [inside c member]; rfl]
  cases rest with
  | nil => exact List.append_nil text
  | cons c rest =>
    have isEnd := ends c rfl
    rw [List.takeWhile_cons_of_neg (by simp [isEnd]), List.append_nil]

/-- The path is read back, whatever query and fragment follow. -/
theorem readPathStart_pathPart {segments : List String} (present : segments ≠ [])
    (settled : ∀ segment ∈ segments, IsSettledSegment segment) {rest : List Char}
    (ends : EndsPath rest) :
    readPathStart .web (pathPart segments ++ rest) = (segments, rest) := by
  obtain ⟨segment, others, rfl⟩ := List.exists_cons_of_ne_nil present
  have pieces : ∀ piece ∈ (segment :: others).map String.toList, ∀ c ∈ piece,
      isSlash .web c = false ∧ endsPath c = false := by
    intro piece isPiece c member
    obtain ⟨source, isSegment, rfl⟩ := List.mem_map.mp isPiece
    exact ⟨((settled source isSegment).stands c member).2,
      (isPathChar_of_settled (settled source isSegment) c member).1⟩
  have inside : ∀ c ∈ ['/'].intercalate ((segment :: others).map String.toList),
      endsPath c = false := by
    intro c member
    rcases mem_intercalate member with rfl | ⟨piece, isPiece, inPiece⟩
    · decide
    · exact (pieces piece isPiece c inPiece).2
  have cuts : Text.splitAt (isSlash .web)
      (['/'].intercalate ((segment :: others).map String.toList)) =
        (segment :: others).map String.toList :=
    Text.splitAt_intercalate (by decide)
      (fun piece isPiece c member => (pieces piece isPiece c member).1) (by simp)
  rw [pathPart_cons, List.cons_append, readPathStart, if_pos (by decide), readSegments]
  simp only [takeWhile_path inside ends, cuts, walk_of_settled settled, List.nil_append,
    List.drop_left]
  rfl

/-! ### Queries and fragments -/

theorem endsPath_endPart (query fragment : Option String) :
    EndsPath (queryPart query ++ fragmentPart fragment) := by
  intro c isHead
  cases query with
  | some query => exact Option.some.inj isHead ▸ by decide
  | none =>
    cases fragment with
    | some fragment => exact Option.some.inj isHead ▸ by decide
    | none => exact absurd isHead (by simp [queryPart, fragmentPart])

theorem isQueryChar_of_stands {special : Bool} {c : Char}
    (stands : Stands (escapedInQuery special) c) : c ≠ '#' ∧ 0x20 < c.toNat := by
  have every : ∀ c ∈ Text.asciiChars, ∀ special, escapedInQuery special c = false →
      c ≠ '#' ∧ 0x20 < c.toNat := Text.forall_of_all (by decide)
  exact every c (Text.mem_asciiChars stands.2) special stands.1

theorem visible_of_stands_fragment {c : Char} (stands : Stands escapedInFragment c) :
    0x20 < c.toNat := by
  have every : ∀ c ∈ Text.asciiChars, escapedInFragment c = false → 0x20 < c.toNat :=
    Text.forall_of_all (by decide)
  exact every c (Text.mem_asciiChars stands.2) stands.1

theorem readFragment_fragmentPart {fragment : Option String}
    (stands : ∀ text, fragment = some text → ∀ c ∈ text.toList, Stands escapedInFragment c) :
    readFragment? (fragmentPart fragment) = fragment := by
  cases fragment with
  | none => rfl
  | some text =>
    rw [fragmentPart, readFragment?, escapeText_of_stands (stands text rfl), String.ofList_toList]

/-- The query and the fragment are read back. -/
theorem readEnd_endPart {kind : Kind} {query fragment : Option String}
    (queryStands : ∀ text, query = some text →
      ∀ c ∈ text.toList, Stands (escapedInQuery kind.isSpecial) c)
    (fragmentStands : ∀ text, fragment = some text →
      ∀ c ∈ text.toList, Stands escapedInFragment c) :
    readEnd kind (queryPart query ++ fragmentPart fragment) = (query, fragment) := by
  have fragmentRead := readFragment_fragmentPart fragmentStands
  cases query with
  | none =>
    cases fragment with
    | none => rfl
    | some text =>
      rw [fragmentPart] at fragmentRead
      show (none, readFragment? ('#' :: text.toList)) = _
      rw [fragmentRead]
  | some query =>
    have stands := queryStands query rfl
    have upToHash : (query.toList ++ fragmentPart fragment).takeWhile (· != '#') =
        query.toList := by
      rw [List.takeWhile_append_of_pos fun c member =>
        bne_iff_ne.mpr (isQueryChar_of_stands (stands c member)).1]
      cases fragment with
      | none => exact List.append_nil _
      | some text =>
        rw [fragmentPart, List.takeWhile_cons_of_neg (by decide), List.append_nil]
    rw [queryPart, List.cons_append, readEnd]
    simp only [upToHash, List.drop_left, escapeText_of_stands stands, String.ofList_toList,
      fragmentRead]

/-! ### Whole addresses -/

theorem hostOf_writeHost {host : Host} (settled : IsSettledHost host) :
    hostOf .web (writeHost host).toList = .ok host := by
  have present : (writeHost host).toList.isEmpty = false := by
    simpa using writeHost_ne_nil settled
  rw [hostOf, if_pos (by decide), present, if_neg (by decide), readHost_writeHost settled]

theorem stopsHost_portPart (port : Option Nat) (tail : List Char) :
    StopsHost .web (portPart port ++ '/' :: tail) := by
  intro c isHead
  cases port with
  | none => exact .inr (.inl (Option.some.inj isHead ▸ by decide))
  | some port => exact .inl (Option.some.inj isHead).symm

/-- Everything behind the two slashes is read back. -/
theorem readAuthority_parts {url : Url} {host : Host} {segments : List String}
    (settled : IsSettled url) (web : kindOf url.scheme = .web) (hostEq : url.host = some host)
    (pathEq : url.path = .segments segments) :
    readAuthority url.scheme (userPart url.user url.password ++ ((writeHost host).toList ++
      (portPart url.port ++ (pathPart segments ++
        (queryPart url.query ++ fragmentPart url.fragment))))) = .ok url := by
  obtain ⟨userStands, passwordStands, ⟨host', hostEq', hostSettled⟩, portFits,
    ⟨segments', pathEq', present, each⟩⟩ := settled.front web
  obtain rfl : host' = host := Option.some.inj (hostEq'.symm.trans hostEq)
  obtain rfl : segments' = segments := UrlPath.segments.inj (pathEq'.symm.trans pathEq)
  obtain ⟨tail, slash⟩ : ∃ tail, pathPart segments' ++
      (queryPart url.query ++ fragmentPart url.fragment) = '/' :: tail := by
    obtain ⟨segment, others, rfl⟩ := List.exists_cons_of_ne_nil present
    exact ⟨_, by rw [pathPart_cons, List.cons_append]⟩
  have frontChars : ∀ c ∈ (writeHost host').toList ++ portPart url.port, IsHostChar c := by
    intro c member
    rcases List.mem_append.mp member with inHost | inPort
    · exact isHostChar_writeHost hostSettled inHost
    · exact isHostChar_portPart url.port c inPort
  have frontPresent : (writeHost host').toList ++ portPart url.port ≠ [] :=
    List.append_ne_nil_of_left_ne_nil (writeHost_ne_nil hostSettled) _
  have userRead := readUser_userPart frontChars tail userStands passwordStands frontPresent
  have hostRead := splitHost_writeHost hostSettled (stopsHost_portPart url.port tail)
  have portRead := portBehind_portPart hostSettled portFits tail
  have pathRead := readPathStart_pathPart present each (endsPath_endPart url.query url.fragment)
  have queryStands := settled.query
  rw [web] at queryStands
  have endRead := readEnd_endPart queryStands settled.fragment
  rw [List.append_assoc] at userRead
  rw [slash] at pathRead
  rw [slash, readAuthority, web]
  simp only [bind, Except.bind, userRead, hostRead, hostOf_writeHost hostSettled, portRead,
    pathRead, withEnd, endRead, pure, Except.pure]
  rw [← hostEq, ← pathEq]

theorem isBreak_of_visible {c : Char} (visible : 0x20 < c.toNat) : (!isBreak c) = true := by
  simp only [isBreak, Bool.not_eq_true', Bool.or_eq_false_iff, beq_eq_false_iff_ne]
  refine ⟨⟨?_, ?_⟩, ?_⟩ <;> rintro rfl <;> exact absurd visible (by decide)

/-- A text whose characters all are seen is not changed by tidying. -/
theorem tidy_of_visible {text : String} (visible : ∀ c ∈ text.toList, 0x20 < c.toNat) :
    tidy text = text.toList := by
  have noEdge : ∀ chars : List Char, (∀ c ∈ chars, 0x20 < c.toNat) →
      chars.dropWhile (fun c => decide (c.toNat ≤ 0x20)) = chars := by
    intro chars visible
    cases chars with
    | nil => rfl
    | cons c rest =>
      have seen := visible c List.mem_cons_self
      exact List.dropWhile_cons_of_neg (by simpa using seen)
  rw [tidy]
  simp only [noEdge text.toList visible]
  rw [noEdge text.toList.reverse fun c member => visible c (List.mem_reverse.mp member),
    List.reverse_reverse,
    List.filter_eq_self.mpr fun c member => isBreak_of_visible (visible c member)]

theorem mem_webSchemes {scheme : String} (web : kindOf scheme = .web) :
    scheme ∈ ["http", "https", "ws", "wss", "ftp"] := by
  unfold kindOf at web
  split at web
  · exact absurd web (by decide)
  · split at web
    · next isWeb => exact List.contains_iff_mem.mp isWeb
    · exact absurd web (by decide)

theorem splitScheme_web {scheme : String} (web : kindOf scheme = .web) (rest : List Char) :
    splitScheme? (scheme.toList ++ ':' :: rest) = some (scheme, rest) := by
  have isWeb := mem_webSchemes web
  simp only [List.mem_cons, List.not_mem_nil, or_false] at isWeb
  rcases isWeb with rfl | rfl | rfl | rfl | rfl <;> rfl

/-- Behind two slashes and no third, the rest of an address of the web is read. -/
theorem readBehindScheme_web {scheme : String} (web : kindOf scheme = .web) {first : Char}
    (noSlash : first ≠ '/' ∧ first ≠ '\\') (rest : List Char) :
    readBehindScheme none scheme ('/' :: '/' :: first :: rest) =
      readAuthority scheme (first :: rest) := by
  have slashes : ('/' :: '/' :: first :: rest).takeWhile (fun c => c == '/' || c == '\\') =
      ['/', '/'] := by
    rw [List.takeWhile_cons_of_pos (by decide), List.takeWhile_cons_of_pos (by decide),
      List.takeWhile_cons_of_neg (by simp [noSlash.1, noSlash.2])]
  rw [readBehindScheme, web]
  simp only [slashes]
  rfl

section Parts

variable {url : Url} {host : Host} {segments : List String}

/-- The user and the host start with no slash. -/
theorem userPart_head (front : IsSettledFront url) (hostSettled : IsSettledHost host)
    (tail : List Char) : ∃ first rest,
      userPart url.user url.password ++ ((writeHost host).toList ++ tail) = first :: rest ∧
        (first ≠ '/' ∧ first ≠ '\\') := by
  by_cases empty : userText url.user url.password = []
  · obtain ⟨first, rest, text⟩ := List.exists_cons_of_ne_nil (writeHost_ne_nil hostSettled)
    refine ⟨first, rest ++ tail, ?_, ?_⟩
    · rw [userPart, if_pos empty, text]
      rfl
    · exact (isHostChar_writeHost hostSettled (text ▸ List.mem_cons_self)).noSlash
  · obtain ⟨first, rest, text⟩ := List.exists_cons_of_ne_nil empty
    refine ⟨first, rest ++ '@' :: ((writeHost host).toList ++ tail), ?_, ?_⟩
    · rw [userPart, if_neg empty, text]
      simp
    · exact (isHostChar_userText front.user front.password first
        (text ▸ List.mem_cons_self)).noSlash

theorem visible_userPart (front : IsSettledFront url) :
    ∀ c ∈ userPart url.user url.password, 0x20 < c.toNat := by
  intro c member
  unfold userPart at member
  split at member
  · exact absurd member List.not_mem_nil
  · rcases List.mem_append.mp member with inUser | mark
    · exact (isHostChar_userText front.user front.password c inUser).visible
    · rw [List.mem_singleton.mp mark]
      decide

theorem visible_pathPart (each : ∀ segment ∈ segments, IsSettledSegment segment) :
    ∀ c ∈ pathPart segments, 0x20 < c.toNat := by
  intro c member
  obtain ⟨segment, isSegment, inSegment⟩ := List.mem_flatMap.mp member
  rcases List.mem_cons.mp inSegment with rfl | inside
  · decide
  · exact (isPathChar_of_settled (each segment isSegment) c inside).2

theorem visible_endPart (settled : IsSettled url) :
    ∀ c ∈ queryPart url.query ++ fragmentPart url.fragment, 0x20 < c.toNat := by
  intro c member
  rcases List.mem_append.mp member with inQuery | inFragment
  · cases found : url.query with
    | none => rw [found] at inQuery; exact absurd inQuery List.not_mem_nil
    | some query =>
      rw [found] at inQuery
      rcases List.mem_cons.mp inQuery with rfl | inside
      · decide
      · exact (isQueryChar_of_stands (settled.query query found c inside)).2
  · cases found : url.fragment with
    | none => rw [found] at inFragment; exact absurd inFragment List.not_mem_nil
    | some fragment =>
      rw [found] at inFragment
      rcases List.mem_cons.mp inFragment with rfl | inside
      · decide
      · exact visible_of_stands_fragment (settled.fragment fragment found c inside)

theorem visible_scheme (web : kindOf url.scheme = .web) :
    ∀ c ∈ url.scheme.toList, 0x20 < c.toNat := by
  have every : ∀ scheme ∈ ["http", "https", "ws", "wss", "ftp"],
      scheme.toList.all (fun c => decide (0x20 < c.toNat)) = true :=
    Text.forall_of_all (by decide)
  exact fun c member => of_decide_eq_true
    (List.all_eq_true.mp (every url.scheme (mem_webSchemes web)) c member)

end Parts

/-- An address of the web that was read reads as itself. -/
theorem read_of_settled {url : Url} (settled : IsSettled url) (web : kindOf url.scheme = .web) :
    read (write url) = .ok url := by
  have front := settled.front web
  obtain ⟨host, hostEq, hostSettled⟩ := front.host
  obtain ⟨segments, pathEq, -, each⟩ := front.path
  have text := toList_write hostEq pathEq
  have visible : ∀ c ∈ (write url).toList, 0x20 < c.toNat := by
    intro c member
    rw [text] at member
    simp only [List.mem_append, List.mem_cons] at member
    rcases member with inScheme | rfl | rfl | rfl | inUser | inHost | inPort | inPath | inEnd
    · exact visible_scheme web c inScheme
    · decide
    · decide
    · decide
    · exact visible_userPart front c inUser
    · exact (isHostChar_writeHost hostSettled inHost).visible
    · exact (isHostChar_portPart url.port c inPort).visible
    · exact visible_pathPart each c inPath
    · exact visible_endPart settled c (List.mem_append.mpr inEnd)
  obtain ⟨first, rest, head, noSlash⟩ := userPart_head front hostSettled
    (portPart url.port ++ (pathPart segments ++ (queryPart url.query ++ fragmentPart url.fragment)))
  unfold read readBelow
  rw [tidy_of_visible visible, text]
  dsimp only
  rw [splitScheme_web web]
  dsimp only
  rw [head, readBehindScheme_web web noSlash, ← head]
  exact readAuthority_parts settled web hostEq pathEq

end Metasearch.Url
