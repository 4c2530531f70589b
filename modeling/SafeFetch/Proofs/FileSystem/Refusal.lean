import SafeFetch.Proofs.Failure
import SafeFetch.Proofs.FileSystem.Below

/-!
# Why a path cannot be looked up

A walk that makes nothing is refused for one of four reasons: a name is missing, is no directory or
is too long, or there are too many links. A path that leads nowhere for one of the others is simply
no directory; only a name that is too long keeps a program from knowing whether it leads to one.
Such a name stands in the path itself, or in the target of a link.

## Main definitions

* `HoldsLong`: a name among some is too long to be looked up;
* `Explains`: how names and the links of a file system bring about a refusal.

## Main results

* `explains_of_walk`: every refusal of a walk is explained;
* `isDirectory_eq_error_iff`: when nobody can tell whether a path leads to a directory;
* `stat_of_long_first`: a path that begins with a long name is too long for a request;
* `isOverlong_of_stat`: a path that is too long for a request has too many bytes, or leads to a long
  name.
-/

namespace SafeFetch.FileSystem

open SafeFetch.Text

variable {fs : FileSystem} {ending : Ending} {links : Nat} {here : Place} {name target : List Char}
  {names rest : List (List Char)} {error : SystemError} {failure : Failure} {path : String}

/-! ## Refusals of walks -/

/-- Some name is too long to be looked up. -/
def HoldsLong (names : List (List Char)) : Prop :=
  ∃ name ∈ names, maxNameBytes < (Utf8.encode name).length

/-- A link leads along a name that is too long. -/
def LinksLong (fs : FileSystem) : Prop :=
  ∃ place target, fs.get? place = some (.link target) ∧ HoldsLong (splitAll '/' target)

/-- How names and the links of a file system bring about a refusal, if nothing is to be made. -/
def Explains (fs : FileSystem) (names : List (List Char)) : SystemError → Prop
  | .nameTooLong => HoldsLong names ∨ LinksLong fs
  | .noEntry | .notDirectory | .tooManyLinks => True
  | .entryExists | .isDirectory => False

/-- What explains a refusal explains it of more names too. -/
theorem Explains.mono (explains : Explains fs rest error) (among : ∀ name ∈ rest, name ∈ names) :
    Explains fs names error := by
  cases error with
  | nameTooLong =>
    rcases explains with ⟨name, isIn, long⟩ | linked
    · exact .inl ⟨name, among name isIn, long⟩
    · exact .inr linked
  | noEntry | notDirectory | tooManyLinks => trivial
  | entryExists | isDirectory => exact explains

/-- A refusal behind a link is explained by its target, or by the names that were to follow it. -/
theorem Explains.ofTarget {place : Place} (link : fs.get? place = some (.link target))
    (explains : Explains fs (splitAll '/' target ++ rest) error) :
    Explains fs (name :: rest) error := by
  cases error with
  | nameTooLong =>
    rcases explains with ⟨long, isIn, tooLong⟩ | linked
    · rcases List.mem_append.mp isIn with inTarget | inRest
      · exact .inr ⟨place, target, link, long, inTarget, tooLong⟩
      · exact .inl ⟨long, List.mem_cons_of_mem name inRest, tooLong⟩
    · exact .inr linked
  | noEntry | notDirectory | tooManyLinks => trivial
  | entryExists | isDirectory => exact explains

/-- A walk along names is refused with an explanation, if the walks beyond links are. -/
theorem explains_of_walkNames (unmade : ending ≠ .makesFile)
    (beyond : ∀ here names, follows fs ending links here names = .error error →
      Explains fs names error)
    (refused : walkNames fs ending (follows fs ending links) here names = .error error) :
    Explains fs names error := by
  -- On the names: each is passed over, refused, or looked up.
  induction names generalizing here with
  | nil => cases refused
  | cons name rest ih =>
    have later (here : Place)
        (refused : walkNames fs ending (follows fs ending links) here rest = .error error) :
        Explains fs (name :: rest) error := by
      apply (ih refused).mono
      exact fun other isIn => List.mem_cons_of_mem name isIn
    rw [walkNames] at refused
    split at refused
    · exact later here refused
    split at refused
    · exact later here.tail refused
    split at refused
    next making => exact absurd making.1 unmade
    split at refused
    next long =>
      obtain rfl := Except.error.inj refused
      exact .inl ⟨name, List.mem_cons_self, long⟩
    -- What stands under the name decides.
    split at refused
    · split at refused
      · cases refused
      · obtain rfl := Except.error.inj refused
        trivial
    · exact later _ refused
    · split at refused
      · cases refused
      · obtain rfl := Except.error.inj refused
        trivial
    next target link =>
      split at refused
      · cases refused
      · exact .ofTarget link (beyond _ _ refused)

/-- Every refusal of a walk is explained. -/
theorem explains_of_walk (unmade : ending ≠ .makesFile)
    (refused : walk fs ending links here names = .error error) : Explains fs names error := by
  -- The walk beyond a link has one link less.
  induction links generalizing here names with
  | zero =>
    rw [walk_eq_walkNames] at refused
    apply explains_of_walkNames unmade _ refused
    intro here names tooMany
    obtain rfl := Except.error.inj tooMany
    trivial
  | succ links ih =>
    rw [walk_eq_walkNames] at refused
    apply explains_of_walkNames unmade _ refused
    intro here names beyond
    rw [follows_succ] at beyond
    exact ih beyond

/-! ## Requests -/

/-- A path has too many bytes, or a name that is too long stands in it or in the target of a
link. -/
def IsOverlong (fs : FileSystem) (path : String) : Prop :=
  pathBytesLimit ≤ (Utf8.encode path.toList).length ∨ HoldsLong (splitAll '/' path.toList) ∨
    LinksLong fs

/-- A path that cannot be looked up leads nowhere, unless it is too long. -/
theorem resolve_error (unmade : ending ≠ .makesFile)
    (refused : fs.resolve ending path.toList = .error error) :
    (error = .nameTooLong ∧ IsOverlong fs path) ∨
      error = .noEntry ∨ error = .notDirectory ∨ error = .tooManyLinks := by
  rw [resolve] at refused
  split at refused
  · obtain rfl := Except.error.inj refused
    exact .inr (.inl rfl)
  split at refused
  next long =>
    obtain rfl := Except.error.inj refused
    exact .inl ⟨rfl, .inl long⟩
  have explains := explains_of_walk unmade refused
  cases error with
  | nameTooLong => exact .inl ⟨rfl, .inr explains⟩
  | noEntry => exact .inr (.inl rfl)
  | notDirectory => exact .inr (.inr (.inl rfl))
  | tooManyLinks => exact .inr (.inr (.inr rfl))
  | entryExists | isDirectory => exact explains.elim

/-- What a path leads to cannot be told because it leads nowhere, or because it is too long. -/
theorem stat_error (unfound : fs.stat path = .error failure) :
    meansNowhere failure = true ∨
      failure = .system .nameTooLong (some path) ∧ IsOverlong fs path := by
  rw [stat, spotAt] at unfound
  split at unfound
  next refused =>
    obtain rfl := Except.error.inj unfound
    split at refused
    · obtain rfl := Except.error.inj refused
      exact .inl rfl
    rcases resolved : fs.resolve .followsLink path.toList with error | spot
    · rw [resolved] at refused
      obtain rfl := Except.error.inj refused
      rcases resolve_error (by decide) resolved with ⟨rfl, overlong⟩ | rfl | rfl | rfl
      · exact .inr ⟨rfl, overlong⟩
      all_goals exact .inl rfl
    · rw [resolved] at refused
      cases refused
  · cases unfound
  · obtain rfl := Except.error.inj unfound
    exact .inl rfl

/-- A path that is too long for a request has too many bytes, or leads to a name that is too
long. -/
theorem isOverlong_of_stat
    (unfound : fs.stat path = .error (.system .nameTooLong (some path))) : IsOverlong fs path := by
  rcases stat_error unfound with nowhere | ⟨-, overlong⟩
  · cases nowhere
  · exact overlong

/-- Nobody can tell whether a path leads to a directory exactly if it is too long for a request. -/
theorem isDirectory_eq_error_iff :
    fs.isDirectory path = .error failure ↔
      failure = .system .nameTooLong (some path) ∧
        fs.stat path = .error (.system .nameTooLong (some path)) := by
  rw [isDirectory, entryHas]
  constructor
  · intro unclear
    split at unclear
    · cases unclear
    next other unfound =>
      split at unclear
      · cases unclear
      next somewhere =>
        obtain rfl := Except.error.inj unclear
        rcases stat_error unfound with nowhere | ⟨rfl, -⟩
        · exact absurd nowhere somewhere
        · exact ⟨rfl, unfound⟩
  · rintro ⟨rfl, unfound⟩
    rw [unfound]
    rfl

/-- A path that begins with a name that is too long is too long for a request, in any file
system. -/
theorem stat_of_long_first (fs : FileSystem) {p : Path} (proper : p.IsProper)
    (sendable : IsSendable p.text) (first : p.names = name :: rest)
    (long : maxNameBytes < (Utf8.encode name).length) :
    fs.stat p.text = .error (.system .nameTooLong (some p.text)) := by
  obtain ⟨silent, split, silence⟩ := proper.splitAll_chars
  obtain ⟨nulFree, more, brief⟩ := sendable
  obtain ⟨said, notDot, -⟩ := isPathName_iff.mp (proper name (by simp [first]))
  have notUp : name ≠ ['.', '.'] := by
    rintro rfl
    revert long
    decide
  have refused : fs.resolve .followsLink p.text.toList = .error .nameTooLong := by
    rw [resolve, if_neg (by simpa using more), if_neg (Nat.not_le.mpr brief), Path.text,
      String.toList_ofList, split, walk_silent_append silence, first, walk_eq_walkNames, walkNames,
      if_neg (by simp [said, notDot]), if_neg notUp, if_neg (by simp), if_pos long]
  rw [stat, spotAt, if_neg (by simpa using nulFree), refused]
  rfl

end SafeFetch.FileSystem
