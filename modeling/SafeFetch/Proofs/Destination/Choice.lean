import SafeFetch.Proofs.Destination
import SafeFetch.Proofs.FileInfo
import SafeFetch.Proofs.FileSystem.Refusal
import SafeFetch.Proofs.Utf8

/-!
# Where a file goes

A response goes to the path that its destination says, unless that is a directory or is written as
one; then it goes into the directory, under the name that is chosen for it. The name is a safe one,
so whatever the server says the file is a direct child of the directory.

Nobody can tell whether a path that is too long for a request is a directory. The request fails
then, and so does the choice.

## Main definitions

* `Given`: a destination as it is given, as a text or as a path;
* `IsChild`: a path names a direct child of a directory;
* `GoesInto`: a response goes into a directory, or has no name there;
* `Settles`: what a destination decides about all responses;
* `Given.IsUnclear`: nobody can tell whether a destination is a directory.

## Main results

* `isChild_child`: a safe name below a path is a direct child of what the path leads to;
* `settles_iff`: a destination decides where responses go unless it is unclear.
-/

namespace SafeFetch.Destination

open SafeFetch.FileSystem SafeFetch.Text

/-! ## Destinations -/

/-- A destination as it is given: a text, or the path that a text stands for. -/
inductive Given where
  | text (spelled : String)
  | path (spelled : String)
  deriving DecidableEq, Repr

variable {s : Session} {fs : FileSystem} {given : Given} {directory : Path} {name : String}

namespace Given

/-- The text of a destination. A path is written without the parts that say nothing. -/
def written : Given → String
  | .text spelled => spelled
  | .path spelled => (Path.ofText spelled).text

/-- The path that a destination stands for. -/
def target : Given → Path
  | .text spelled | .path spelled => .ofText spelled

/-- Whether a destination is written as a directory. Only a text can be. -/
def IsMarked : Given → Prop
  | .text spelled => endsInSlash spelled = true
  | .path _ => False

/-- Nobody can tell whether a destination is a directory, because a name is too long for that. -/
def IsUnclear (given : Given) (fs : FileSystem) : Prop :=
  ¬ given.IsMarked ∧
    fs.stat given.target.text = .error (.system .nameTooLong (some given.target.text))

theorem isProper_target (given : Given) : given.target.IsProper := by
  cases given <;> exact Path.isProper_ofText _

/-- A destination is read back from its text. -/
@[simp]
theorem ofText_written (given : Given) : Path.ofText given.written = given.target := by
  cases given with
  | text spelled => rfl
  | path spelled => exact (Path.isProper_ofText spelled).ofText_text

end Given

/-- A path leads to a directory, through links or without. -/
def LeadsToDirectory (fs : FileSystem) (path : Path) : Prop :=
  ∃ mode, fs.stat path.text = .ok (.directory mode)

/-- A destination is written as a directory, or is one. -/
def Given.IsDirectory (given : Given) (fs : FileSystem) : Prop :=
  given.IsMarked ∨ LeadsToDirectory fs given.target

/-- What is unclear is not known to be a directory. -/
theorem Given.IsUnclear.not_isDirectory (unclear : given.IsUnclear fs) :
    ¬ given.IsDirectory fs := by
  rintro (marked | ⟨mode, there⟩)
  · exact unclear.1 marked
  · cases unclear.2.symm.trans there

/-- A destination that ends in a slash is written as a directory, or is the root. -/
theorem Given.isDirectory_of_slash (tree : fs.IsTree)
    (slash : endsInSlash given.written = true) : given.IsDirectory fs := by
  cases given with
  | text spelled => exact .inl slash
  | path spelled =>
    have proper := Path.isProper_ofText spelled
    have ends : (Path.ofText spelled).chars.getLast? = some '/' := by
      simpa [endsInSlash, Given.written, Path.text] using slash
    have root := isDirectory_of_names_nil tree (proper.names_eq_nil_of_slash ends)
    exact .inr (isDirectory_eq_true_iff.mp root)

/-! ## Children -/

/-- A path names a direct child of a directory. Wherever the path leads, one name stands below what
the directory leads to. -/
structure IsChild (directory : Path) (name : String) (chosen : Path) : Prop where
  parent : chosen.parent = directory
  last : chosen.names.getLast? = some name.toList
  safe : FileName.IsSafe name
  below : ∀ {fs : FileSystem} {spot}, fs.IsTree → fs.spotAt .keepsLink chosen.text = .ok spot →
    ∃ place mode, fs.spotAt .followsLink directory.text = .ok (.entry place (.directory mode)) ∧
      spot.place = name.toList :: place

/-- A safe name below a path names a direct child of what the path leads to. -/
theorem isChild_child (proper : directory.IsProper) (safe : FileName.IsSafe name) :
    IsChild directory name (directory.child name) := by
  obtain ⟨isName, notUp⟩ := FileName.sanitize?_proper (FileName.sanitize?_eq_self_iff.mpr safe)
  rw [Path.child_eq_further directory isName]
  refine ⟨Path.parent_further directory _, ?_, safe, ?_⟩
  · simp [Path.further]
  · intro fs spot tree found
    have properChild := Path.isProper_further.mpr ⟨proper, isName⟩
    -- The last name is looked up in the directory, where a safe name does not lead elsewhere.
    obtain ⟨place, mode, links, above, leads⟩ := directory_of_further tree properChild found
    refine ⟨place, mode, above, ?_⟩
    rw [leads.last_eq isName notUp (.inl rfl), Spot.place_of]

section

variable [Platform]

/-- A response goes into a directory under the name that is chosen for it, or nowhere if it has
none. -/
inductive GoesInto (directory : Path) (info : FileInfo) : Except Failure Path → Prop
  | unnamed {failure : Failure} (refuses : info.chooseName.1 = .error failure) :
      GoesInto directory info (.error failure)
  | named {name : String} {chosen : Path} (chooses : info.chooseName.1 = .ok name)
      (child : IsChild directory name chosen) : GoesInto directory info (.ok chosen)

/-! ## What a destination decides -/

/-- What a destination decides. Responses go into a directory, and into what is written as one;
anything else is where they all go, with or without a name of their own. -/
structure Settles (given : Given) (s : Session) : Prop where
  into : given.IsDirectory s.fs →
    ∀ info, GoesInto given.target info ((resolve given.written info).runOn s).1
  itself : ¬ given.IsDirectory s.fs →
    ∀ info, ((resolve given.written info).runOn s).1 = .ok given.target

/-- A response goes into a directory, and into what is written as one. -/
theorem goesInto_of_directory (into : given.IsDirectory s.fs) (info : FileInfo) :
    GoesInto given.target info ((resolve given.written info).runOn s).1 := by
  have goes : ((resolve given.written info).runOn s).1 =
      info.chooseName.1.map given.target.child := by
    rw [fst_resolve, Given.ofText_written]
    rcases into with marked | there
    · have slash : endsInSlash given.written = true := by
        cases given with
        | text spelled => exact marked
        | path spelled => exact marked.elim
      rw [slash]
      rfl
    · rw [isDirectory_eq_true_iff.mpr there, ite_self]
      rfl
  rw [goes]
  rcases chooses : info.chooseName.1 with failure | name
  · exact .unnamed chooses
  · obtain ⟨candidate, kept⟩ := FileInfo.exists_sanitize?_of_chooseName chooses
    apply GoesInto.named chooses
    exact isChild_child given.isProper_target (FileName.isSafe_of_sanitize? kept)

/-- What is neither a directory nor written as one is left to whether it is a directory. -/
theorem fst_resolve_of_elsewhere (tree : s.fs.IsTree) (elsewhere : ¬ given.IsDirectory s.fs)
    (info : FileInfo) :
    ((resolve given.written info).runOn s).1 =
      (s.fs.isDirectory given.target.text).map fun _ => given.target := by
  have unslashed : endsInSlash given.written = false := by
    rw [Bool.eq_false_iff]
    exact fun slash => elsewhere (Given.isDirectory_of_slash tree slash)
  rw [fst_resolve, Given.ofText_written, unslashed]
  rcases looked : s.fs.isDirectory given.target.text with failure | _ | _
  · rfl
  · rfl
  · exact absurd (.inr (isDirectory_eq_true_iff.mp looked)) elsewhere

/-- Where nobody can tell whether a destination is a directory, all responses fail alike. -/
theorem fst_resolve_of_isUnclear (tree : s.fs.IsTree) (unclear : given.IsUnclear s.fs)
    (info : FileInfo) :
    ((resolve given.written info).runOn s).1 =
      .error (.system .nameTooLong (some given.target.text)) := by
  rw [fst_resolve_of_elsewhere tree unclear.not_isDirectory,
    isDirectory_eq_error_iff.mpr ⟨rfl, unclear.2⟩]
  rfl

/-- An unclear destination decides nothing. -/
theorem not_settles_of_isUnclear (tree : s.fs.IsTree) (unclear : given.IsUnclear s.fs) :
    ¬ Settles given s := by
  intro settles
  -- It is not known to be a directory, so each response would go to the destination itself.
  have fails := fst_resolve_of_isUnclear tree unclear ⟨"", none, none⟩
  cases fails.symm.trans (settles.itself unclear.not_isDirectory _)

/-- A destination decides where responses go unless nobody can tell whether it is a directory. That
happens only where something is too long, and keeps every response from having a path. -/
theorem settles_iff (tree : s.fs.IsTree) (given : Given) :
    (Settles given s ↔ ¬ given.IsUnclear s.fs) ∧
      (given.IsUnclear s.fs → IsOverlong s.fs given.target.text ∧
        ∀ info, ((resolve given.written info).runOn s).1 =
          .error (.system .nameTooLong (some given.target.text))) := by
  refine ⟨⟨fun settles unclear => ?_, fun clear => ⟨?_, ?_⟩⟩, fun unclear => ⟨?_, ?_⟩⟩
  · exact not_settles_of_isUnclear tree unclear settles
  · exact goesInto_of_directory
  · intro elsewhere info
    rw [fst_resolve_of_elsewhere tree elsewhere]
    rcases looked : s.fs.isDirectory given.target.text with failure | isDirectory
    · obtain ⟨-, unfound⟩ := isDirectory_eq_error_iff.mp looked
      exact absurd ⟨fun marked => elsewhere (.inl marked), unfound⟩ clear
    · rfl
  · exact isOverlong_of_stat unclear.2
  · exact fst_resolve_of_isUnclear tree unclear

end

/-- A working directory with a link to the directory above it. -/
def withLinkUp : FileSystem := (FileSystem.empty [] 0o022).put ["up".toList] (.link "..".toList)

theorem isTree_withLinkUp : withLinkUp.IsTree :=
  (isTree_empty [] 0o022).put (hasDirectory_nil _) rfl _

/-- A link to a directory is settled as a directory, and a missing path as a file. -/
theorem settles_of_link :
    withLinkUp.IsTree ∧ LeadsToDirectory withLinkUp (Given.path "up/").target ∧
      Settles (.path "up/") (.start withLinkUp none) ∧
      Settles (.text "new") (.start withLinkUp none) := by
  have clear {given : Given}
      (looked : (withLinkUp.isDirectory given.target.text).toOption.isSome = true) :
      ¬ given.IsUnclear withLinkUp := by
    intro unclear
    rw [isDirectory_eq_error_iff.mpr ⟨rfl, unclear.2⟩] at looked
    cases looked
  refine ⟨isTree_withLinkUp, ⟨_, rfl⟩, ?_, ?_⟩
  · exact (settles_iff (s := .start withLinkUp none) isTree_withLinkUp _).1.mpr
      (clear (by decide +kernel))
  · exact (settles_iff (s := .start withLinkUp none) isTree_withLinkUp _).1.mpr
      (clear (by decide +kernel))

/-- A name that is too long to be looked up is an unclear destination, in any file system. -/
theorem isUnclear_of_long {name : List Char} (isName : isPathName name = true)
    (nulFree : '\x00' ∉ name) (long : maxNameBytes < (Utf8.encode name).length)
    (brief : (Utf8.encode name).length < pathBytesLimit) (fs : FileSystem) :
    (Given.text (String.ofList name)).IsUnclear fs := by
  obtain ⟨said, -, slashFree⟩ := isPathName_iff.mp isName
  have proper : Path.IsProper { root := .relative, names := [name] } := by
    simpa [Path.IsProper] using isName
  have written : Path.text { root := .relative, names := [name] } = String.ofList name := by
    rw [Path.text, proper.chars_eq (.inr (by simp))]
    simp [Root.slashes]
  have target : (Given.text (String.ofList name)).target =
      { root := .relative, names := [name] } := by
    rw [← written]
    exact proper.ofText_text
  constructor
  · intro marked
    rw [Given.IsMarked, endsInSlash, String.toList_ofList] at marked
    exact slashFree (List.mem_of_getLast? (of_decide_eq_true marked))
  · rw [target]
    apply stat_of_long_first fs proper _ rfl long
    rw [written]
    constructor <;> rwa [String.toList_ofList]

/-- Nothing stands in an empty working directory, but a name that is too long decides nothing. -/
theorem not_settles_of_long_name :
    (FileSystem.empty [] 0o022).IsTree ∧
      ¬ Settles (.text (String.ofList (List.replicate 256 'a')))
        (.start (FileSystem.empty [] 0o022) none) := by
  have isA {c : Char} (isIn : c ∈ List.replicate 256 'a') : c = 'a' := List.eq_of_mem_replicate isIn
  have isName : isPathName (List.replicate 256 'a') = true := by
    refine isPathName_iff.mpr ⟨?_, ?_, ?_⟩
    · exact List.ne_nil_of_length_pos (by rw [List.length_replicate]; omega)
    · intro same
      have length := congrArg List.length same
      rw [List.length_replicate, List.length_singleton] at length
      omega
    · exact fun slash => absurd (isA slash) (by decide)
  have size : (Utf8.encode (List.replicate 256 'a')).length = 256 := by
    rw [Utf8.length_encode_eq_iff.mpr, List.length_replicate]
    intro c isIn
    rw [isA isIn]
    decide
  have tree := isTree_empty [] 0o022
  refine ⟨tree, not_settles_of_isUnclear tree (isUnclear_of_long isName ?_ ?_ ?_ _)⟩
  · exact fun nul => absurd (isA nul) (by decide)
  · rw [size]
    decide
  · rw [size]
    decide

end SafeFetch.Destination
