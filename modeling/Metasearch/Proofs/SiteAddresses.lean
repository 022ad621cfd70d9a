/-
This file settles which addresses a path stays on a site for. A path that names no scheme and no
host is read with those of the address that it is relative to, whatever else is in it. Only in a
file's address may a path still leave the host: one that names a drive has none.
-/
import Metasearch.Url.Query
import Metasearch.Url.Reader

namespace Metasearch.Url

/-! ### Paths -/

/-- The text starts as the host of an address does, with two slashes of either kind. -/
def startsWithHost (text : List Char) : Bool :=
  match text with
  | first :: second :: _ => (first == '/' || first == '\\') && (second == '/' || second == '\\')
  | _ => false

/-- A text that names neither a scheme nor a host. -/
def IsPath (text : String) : Prop :=
  splitScheme? (tidy text) = none ∧ startsWithHost (tidy text) = false

instance (text : String) : Decidable (IsPath text) :=
  inferInstanceAs (Decidable (_ ∧ _))

/-! ### Sites -/

/-- The address has the scheme, the host and the port of another; or it is a file's without a
host, as the other is a file's. -/
def SameSite (place url : Url) : Prop :=
  url.scheme = place.scheme ∧
    (url.host = place.host ∧ url.port = place.port ∨
      place.scheme = "file" ∧ url.host = some .empty ∧ url.port = none)

instance (place url : Url) : Decidable (SameSite place url) :=
  inferInstanceAs (Decidable (_ ∧ _))

variable {place url : Url}

theorem sameSite_refl (url : Url) : SameSite url url :=
  ⟨rfl, .inl ⟨rfl, rfl⟩⟩

theorem SameSite.trans {other : Url} (first : SameSite place other) (second : SameSite other url) :
    SameSite place url := by
  obtain ⟨firstScheme, firstHost⟩ := first
  obtain ⟨secondScheme, secondHost⟩ := second
  refine ⟨secondScheme.trans firstScheme, ?_⟩
  rcases secondHost with ⟨host, port⟩ | ⟨isFile, host, port⟩
  · rcases firstHost with ⟨otherHost, otherPort⟩ | ⟨isFile, otherHost, otherPort⟩
    · exact .inl ⟨host.trans otherHost, port.trans otherPort⟩
    · exact .inr ⟨isFile, host.trans otherHost, port.trans otherPort⟩
  · exact .inr ⟨firstScheme ▸ isFile, host, port⟩

theorem sameSite_withEnd (kind : Kind) (text : List Char) (same : SameSite place url) :
    SameSite place (withEnd kind url text) := same

theorem sameSite_withFragment (text : List Char) (same : SameSite place url) :
    SameSite place (withFragment url text) := same

theorem sameSite_withPath (kind : Kind) (segments : List String) (text : List Char) :
    SameSite place (withEnd kind { place with path := .segments segments } text) :=
  sameSite_withEnd kind text (sameSite_refl place)

theorem sameSite_fileAt (isFile : place.scheme = "file") (segments : List String)
    (text : List Char) :
    SameSite place (withEnd .file (fileAt .empty segments) text) :=
  ⟨isFile.symm, .inr ⟨isFile, rfl, rfl⟩⟩

theorem sameSite_withPairs (url : Url) (pairs : List (String × String)) :
    SameSite url (withPairs url pairs) := by
  unfold withPairs
  split <;> exact sameSite_refl url

/-! ### Paths from a place -/

theorem readRelative_sameSite {text : List Char} (path : startsWithHost text = false)
    (read : readRelative place text = .ok url) : SameSite place url := by
  unfold readRelative at read
  dsimp only at read
  split at read
  · exact Except.ok.inj read ▸ sameSite_refl place
  · exact Except.ok.inj read ▸ sameSite_withEnd _ _ (sameSite_refl place)
  · exact Except.ok.inj read ▸ sameSite_withFragment _ (sameSite_refl place)
  · next first rest _ _ =>
    split at read
    · next slash =>
      split at read
      · next second more =>
        have single : (second == '/' || second == '\\') = false := by
          rw [startsWithHost, slash, Bool.true_and] at path
          exact path
        rw [single, if_neg Bool.false_ne_true] at read
        exact Except.ok.inj read ▸ sameSite_withPath _ _ _
      · exact Except.ok.inj read ▸ sameSite_withPath _ _ _
    · exact Except.ok.inj read ▸ sameSite_withPath _ _ _

theorem fresh_sameSite (isFile : place.scheme = "file") (text : List Char) :
    SameSite place (readFile.fresh text) :=
  sameSite_fileAt isFile _ _

theorem below_sameSite (isFile : place.scheme = "file") (text : List Char) :
    SameSite place (readFile.below (some place) text) := by
  unfold readFile.below
  dsimp only
  split
  · exact fresh_sameSite isFile text
  · split
    · split
      · exact sameSite_fileAt isFile _ _
      · exact sameSite_withPath _ _ _
    · exact fresh_sameSite isFile text

theorem readFile_sameSite {text : List Char} (isFile : place.scheme = "file")
    (path : startsWithHost text = false) (read : readFile (some place) text = .ok url) :
    SameSite place url := by
  unfold readFile at read
  split at read
  · next second rest =>
    have single : (second == '/' || second == '\\') = false := path
    rw [single, if_neg Bool.false_ne_true] at read
    exact Except.ok.inj read ▸ below_sameSite isFile _
  · next second rest =>
    have single : (second == '/' || second == '\\') = false := path
    rw [single, if_neg Bool.false_ne_true] at read
    exact Except.ok.inj read ▸ below_sameSite isFile _
  · exact Except.ok.inj read ▸ below_sameSite isFile _
  · exact Except.ok.inj read ▸ below_sameSite isFile _
  · dsimp only at read
    split at read
    · exact Except.ok.inj read ▸ sameSite_refl place
    · exact Except.ok.inj read ▸ sameSite_withEnd _ _ (sameSite_refl place)
    · exact Except.ok.inj read ▸ sameSite_withFragment _ (sameSite_refl place)
    · split at read
      · exact Except.ok.inj read ▸ fresh_sameSite isFile text
      · exact Except.ok.inj read ▸ sameSite_withPath _ _ _

/-- A path leads to an address of the site that it is read from. -/
theorem join_sameSite {text : String} (path : IsPath text) (read : place.join text = .ok url) :
    SameSite place url := by
  obtain ⟨noScheme, noHost⟩ := path
  unfold join readBelow at read
  dsimp only at read
  rw [noScheme] at read
  dsimp only at read
  split at read
  · exact Except.ok.inj read ▸ sameSite_withFragment _ (sameSite_refl place)
  · split at read
    · cases read
    · split at read
      · next isFile => exact readFile_sameSite (beq_iff_eq.mp isFile) noHost read
      · exact readRelative_sameSite noHost read

end Metasearch.Url
