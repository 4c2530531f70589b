import Mathlib.Data.List.Flatten
import SafeFetch.Proofs.Ancestors
import SafeFetch.Proofs.FileSystem.Unlinked

/-!
# Making ready for a file

Making the directories above a file never takes anything away. However it ends, what stood in the
file system stands there still, and what is new is a directory with the mode of new directories.
After a success the directory of the file is there, so doing it again changes nothing.

In a file system without links, and for a path of moderate size that does not lead up, more can be
said: only a file in the place of a directory above is in the way. It is met before anything is
made, so the file system stays as it was; otherwise all the missing directories above are made, and
nothing else. A NUL in the path above the file keeps all of this from happening, because no file
system can be asked about such a path.

## Main definitions

* `Upkeeps`: what making ready does to any file system, however it ends;
* `IsModest`: the text of a path stays within the limits of a file system;
* `Blocks`: something else than a directory stands where a path leads;
* `Provides`: exactly the missing directories above a file are made, unless one is blocked.

## Main results

* `upkeeps_prepare`: making ready keeps what there is, and is done once;
* `provides_iff`: a path of moderate size is provided for, unless it holds a NUL above the file.
-/

namespace SafeFetch.Destination

open SafeFetch.FileSystem SafeFetch.Text

variable {s s' : Session} {path file above p : Path} {makeAbove : Action Unit} {root : Root}
  {room : Nat} {names : List (List Char)} {text : String}
  {fs fs' : FileSystem}

/-! ## Any file system -/

/-- The mode of a new directory has the bits of the mode that is asked for, but for those of the
umask. -/
theorem testBit_maskedMode (fs : FileSystem) {mode : Nat} (isMode : mode < 0x200) (bit : Nat) :
    (fs.maskedMode mode).testBit bit = (mode.testBit bit && !fs.umask.testBit bit) := by
  have ones : ∀ bit < 9, Nat.testBit 0o777 bit = true := by decide
  by_cases low : bit < 9
  · rw [maskedMode, Nat.testBit_and, Nat.testBit_xor, Nat.testBit_and, ones bit low, Bool.and_true,
      Bool.true_xor]
  -- A mode has no bits beyond those of the permissions.
  · have unset : mode.testBit bit = false := by
      apply Nat.testBit_lt_two_pow
      apply Nat.lt_of_lt_of_le isMode
      exact Nat.pow_le_pow_right Nat.two_pos (Nat.not_lt.mp low)
    rw [maskedMode, Nat.testBit_and, unset, Bool.false_and, Bool.false_and]

/-- What making ready for a file does, however it ends: what there was is still there, and what is
new is a directory with the mode of new directories. After a success the directory of the file is
there, and making ready again does nothing. -/
structure Upkeeps [Platform] (file : Path) (s : Session) (outcome : Except Failure Unit)
    (s' : Session) : Prop where
  kept : ∀ place entry, s.fs.get? place = some entry → s'.fs.get? place = some entry
  new : ∀ place entry, s.fs.get? place = none → s'.fs.get? place = some entry →
    ∃ mode, entry = .directory mode ∧
      ∀ bit, mode.testBit bit = (Nat.testBit directoryMode bit && !s.fs.umask.testBit bit)
  ready : outcome = .ok () → s'.fs.isDirectory file.parent.text = .ok true
  again : outcome = .ok () →
    ∀ later : Session, later.fs = s'.fs → (prepare file).runOn later = (.ok (), later)

/-- Making ready for a file comes to an end, keeps what there is, and is done once. -/
theorem upkeeps_prepare [Platform] (tree : s.fs.IsTree) (text : String) :
    ∃ outcome s', (prepare (.ofText text)).runOn s = (outcome, s') ∧
      Upkeeps (.ofText text) s outcome s' := by
  rcases run : (prepare (.ofText text)).runOn s with ⟨outcome, s'⟩
  -- However it ends, directories are all that has been added.
  have grown := leaves_prepare (.ofText text) s tree
  rw [run] at grown
  obtain ⟨grows, tree'⟩ := grown
  have ready := prepare_ok_iff tree (Path.isProper_ofText text) run
  refine ⟨outcome, s', rfl, fun place entry standing => grows.get?_of_some standing, ?_, ready.mp,
    fun succeeds later same => ?_⟩
  · intro place entry isFree standing
    rcases grows.get?_eq place with kept | ⟨-, made⟩
    · cases standing.symm.trans (kept.trans isFree)
    · obtain rfl := Option.some.inj (standing.symm.trans made)
      exact ⟨_, rfl, testBit_maskedMode s.fs (by decide)⟩
  · obtain ⟨mode, there⟩ := isDirectory_eq_true_iff.mp (ready.mp succeeds)
    exact prepare_of_directory (same ▸ there)

/-- A working directory with a link that leads nowhere. -/
def withDangling : FileSystem :=
  (FileSystem.empty [] 0o027).put ["link".toList] (.link "gone/away".toList)

theorem isTree_withDangling : withDangling.IsTree :=
  (isTree_empty [] 0o027).put (hasDirectory_nil _) rfl _

/-- Making ready passes a missing directory on the way up again. Below a link that leads nowhere it
fails, after it made a directory. -/
theorem upkeeps_of_dangling :
    withDangling.IsTree ∧
      (∃ s', (prepare (.ofText "new/../other/file")).runOn (.start withDangling none) =
          (.ok (), s') ∧
        Upkeeps (.ofText "new/../other/file") (.start withDangling none) (.ok ()) s') ∧
      ∃ failure s', (prepare (.ofText "new/../link/below/file")).runOn (.start withDangling none) =
          (.error failure, s') ∧
        Upkeeps (.ofText "new/../link/below/file") (.start withDangling none) (.error failure)
          s' := by
  refine ⟨isTree_withDangling, ?_, ?_⟩
  · have succeeds : ((prepare (.ofText "new/../other/file")).runOn
        (.start withDangling none)).1.toOption = some () := by
      decide +kernel
    obtain ⟨outcome, s', run, upkeeps⟩ :=
      upkeeps_prepare (s := .start withDangling none) isTree_withDangling "new/../other/file"
    rw [run] at succeeds
    obtain rfl : outcome = .ok () := Action.eq_ok_of_toOption succeeds
    exact ⟨s', run, upkeeps⟩
  · have fails : ((prepare (.ofText "new/../link/below/file")).runOn
        (.start withDangling none)).1.toOption = none := by
      decide +kernel
    obtain ⟨outcome, s', run, upkeeps⟩ :=
      upkeeps_prepare (s := .start withDangling none) isTree_withDangling "new/../link/below/file"
    rw [run] at fails
    cases outcome with
    | ok _ => cases fails
    | error failure => exact ⟨failure, s', run, upkeeps⟩

/-! ## File systems without links -/

/-- One directory is there in the end if it can be made, or has appeared, once those above it are
made. -/
theorem exists_makeOne (missing : s.fs.isDirectory path.text = .ok false)
    (above : makeAbove.runOn s = (.ok (), s'))
    (ready : (∃ fs, s'.fs.makeDirectory path.text directoryMode = .ok fs) ∨
      s'.fs.isDirectory path.text = .ok true) :
    ∃ s'', (makeDirectories.makeOne path makeAbove).runOn s = (.ok (), s'') := by
  rw [makeDirectories.makeOne, Action.runOn_bind, Action.runOn_query, missing]
  simp only [Bool.false_eq_true, if_false, Action.runOn_bind, above, Action.runOn_tryCatch,
    Action.runOn_change]
  rcases made : s'.fs.makeDirectory path.text directoryMode with failure | fs
  · -- The directory could not be made, so it is there already.
    have found : s'.fs.isDirectory path.text = .ok true := by
      apply ready.resolve_left
      rintro ⟨fs, isMade⟩
      cases made.symm.trans isMade
    obtain ⟨mode, there⟩ := isDirectory_eq_true_iff.mp found
    obtain rfl := Except.error.inj ((makeDirectory_of_stat there).symm.trans made)
    simp only [Action.runOn_bind, Action.runOn_query, found, if_true, Action.runOn_pure]
    exact ⟨s', rfl⟩
  · exact ⟨{ s' with fs }, rfl⟩

/-- A directory that is there need not be made. -/
theorem makeOne_of_found (found : s.fs.isDirectory path.text = .ok true) :
    (makeDirectories.makeOne path makeAbove).runOn s = (.ok (), s) := by
  rw [makeDirectories.makeOne, Action.runOn_bind, Action.runOn_query, found]
  rfl

/-- Directories that are made do not move the place of a path. -/
theorem place_of_grows {mode : Nat} (grows : Grows mode fs fs') (p : Path) :
    p.place fs' = p.place fs := by
  rw [Path.place, Path.place, Path.start, Path.start, grows.home]

/-- Below a directory that is there, one more can be made or has appeared, unless a file stands in
its place. -/
theorem ready_of_hasDirectory {name : List Char} (tree : fs.IsTree) (unlinked : fs.IsUnlinked)
    (level : (p.further name).IsLevel) (sendable : IsSendable (p.further name).text)
    (directory : fs.HasDirectory (p.place fs))
    (fileless : ∀ contents modified,
      fs.get? (name :: p.place fs) ≠ some (.file contents modified)) :
    (∃ fs', fs.makeDirectory (p.further name).text directoryMode = .ok fs') ∨
      fs.isDirectory (p.further name).text = .ok true := by
  by_cases isThere : fs.HasDirectory (name :: p.place fs)
  · rw [← Path.place_further] at isThere
    exact .inr ((isDirectory_iff_place tree unlinked level sendable).mpr isThere)
  rcases unlinked.takesFile isThere with isFree | ⟨contents, modified, file⟩
  · have found : fs.spotAt .keepsLink (p.further name).text = _ :=
      spotAt_of_free tree level sendable (by simp) (.refl _) directory isFree
    rw [if_pos rfl] at found
    exact .inl ⟨_, makeDirectory_eq_ok_iff.mpr ⟨_, found, rfl⟩⟩
  · exact absurd file (fileless contents modified)

/-- The directories of a path can be made if no file is on the way and there is room for them. -/
theorem exists_makeDirectories (tree : s.fs.IsTree) (unlinked : s.fs.IsUnlinked)
    (level : Path.IsLevel { root, names := names.reverse })
    (sendable : IsSendable (Path.text { root, names := names.reverse }))
    (clear : ¬ s.fs.IsObstructed { root, names := names.reverse }) (enough : names.length ≤ room) :
    ∃ s', (makeDirectories root room names).runOn s = (.ok (), s') := by
  -- On the names from the innermost one on: those above it are made first.
  induction names generalizing room with
  | nil => exact ⟨s, makeOne_of_found (isDirectory_of_names_nil tree rfl)⟩
  | cons name names ih =>
    rw [path_cons] at level sendable clear
    have begins := Path.begins_further { root, names := names.reverse } name
    have levelAbove := level.of_begins begins
    have sendableAbove := isSendable_of_begins level.proper sendable begins
    rcases hasDirectory_or_free tree unlinked level sendable clear with directory | ⟨-, missing⟩
    · have found := (isDirectory_iff_place tree unlinked level sendable).mpr directory
      rw [← path_cons] at found
      exact ⟨s, makeOne_of_found found⟩
    have clearAbove : ¬ s.fs.IsObstructed { root, names := names.reverse } := by
      rintro ⟨above, contents, modified, isAbove, file⟩
      exact clear ⟨above, contents, modified, isAbove.trans begins, file⟩
    rw [List.length_cons] at enough
    have enoughAbove : names.length ≤ room - 1 := by omega
    obtain ⟨s', made⟩ := ih levelAbove sendableAbove clearAbove enoughAbove
    have leaves := leaves_makeDirectories root (room - 1) names s
    rw [made] at leaves
    obtain ⟨grows, tree'⟩ := leaves tree
    have unlinked' := unlinked.grow grows
    have directory : s'.fs.HasDirectory (Path.place { root, names := names.reverse } s'.fs) := by
      rw [← isDirectory_iff_place tree' unlinked' levelAbove sendableAbove]
      exact (makeDirectories_ok_iff tree levelAbove.proper made).mp rfl
    -- A file in the place of the directory was there before those above it were made.
    have ready := ready_of_hasDirectory tree' unlinked' level sendable directory
      fun contents modified file => by
        refine clear ⟨_, contents, modified, .refl _, ?_⟩
        rw [Path.place_further, ← place_of_grows grows]
        exact grows.get?_of_leaf file (by simp)
    rw [← path_cons] at missing ready
    refine exists_makeOne ?_ ?_ ready
    · rw [isDirectory, entryHas, missing]
      rfl
    · rw [within, if_neg (by omega)]
      exact made

/-- Making ready succeeds if no file is in the place of a directory above. -/
theorem exists_prepare [Platform] (tree : s.fs.IsTree) (unlinked : s.fs.IsUnlinked)
    (level : file.parent.IsLevel) (sendable : IsSendable file.parent.text)
    (few : file.parent.names.length ≤ Platform.directoryLimit)
    (clear : ¬ s.fs.IsObstructed file.parent) :
    ∃ s', (prepare file).runOn s = (.ok (), s') := by
  rcases hasDirectory_or_free tree unlinked level sendable clear with directory | ⟨-, missing⟩
  · have found := (isDirectory_iff_place tree unlinked level sendable).mpr directory
    obtain ⟨mode, there⟩ := isDirectory_eq_true_iff.mp found
    exact ⟨s, prepare_of_directory there⟩
  have isParent :
      ({ root := file.parent.root, names := file.parent.names.reverse.reverse } : Path) =
        file.parent := by
    rw [List.reverse_reverse]
  rw [prepare, Action.runOn_bind, Action.runOn_get]
  simp only [missing, Action.runOn_bind, Action.runOn_report]
  rw [← isParent] at level sendable clear
  rw [← List.length_reverse] at few
  exact exists_makeDirectories tree unlinked level sendable clear few

/-- No file system can be asked about a path with a NUL. -/
theorem prepare_of_nul [Platform] (nul : '\x00' ∈ file.parent.text.toList) :
    (prepare file).runOn s = (.error .nulInPath, s) := by
  have unfound : s.fs.stat file.parent.text = .error .nulInPath := by
    rw [stat, spotAt, if_pos (by simpa using nul)]
  rw [prepare, Action.runOn_bind, Action.runOn_get]
  simp only [unfound, Action.runOn_throw]

/-! ## Paths of moderate size -/

/-- The text of a path stays within the limits of a file system, and does not lead up. -/
structure IsModest (text : String) : Prop where
  level : ['.', '.'] ∉ (Path.ofText text).names
  short : ∀ name ∈ (Path.ofText text).names, (Utf8.encode name).length ≤ 255
  few : (Path.ofText text).names.length < 500
  brief : (Utf8.encode text.toList).length < 4096

theorem IsModest.isLevel (modest : IsModest text) : (Path.ofText text).parent.IsLevel where
  proper := (Path.isProper_ofText text).parent
  notUp isIn := modest.level ((List.dropLast_sublist _).subset isIn)
  short name isIn := modest.short name ((List.dropLast_sublist _).subset isIn)

/-- The path above a file has no more characters than the text that the file was read from. -/
theorem IsModest.isSendable (modest : IsModest text)
    (nulFree : '\x00' ∉ (Path.ofText text).parent.text.toList) :
    IsSendable (Path.ofText text).parent.text := by
  refine ⟨nulFree, ?_, ?_⟩
  · rw [Path.text, String.toList_ofList, Path.chars]
    split <;> simp_all
  · rw [Path.text, String.toList_ofList]
    have written : (Path.ofText text).parent.chars = ['.'] ∨
        (Path.ofText text).parent.chars.Sublist text.toList :=
      Path.chars_sublist rfl (List.dropLast_sublist _)
    rcases written with silent | written
    -- A path without names is written with one dot.
    · rw [silent]
      decide
    · exact Nat.lt_of_le_of_lt (written.flatMap _).length_le modest.brief

/-- Something else than a directory stands where a path leads. -/
def Blocks (fs : FileSystem) (above : Path) : Prop :=
  ∃ entry, fs.get? (above.place fs) = some entry ∧ ∀ mode, entry ≠ .directory mode

/-- What is in the way in a file system without links is a file. -/
theorem Blocks.exists_file (unlinked : fs.IsUnlinked) (blocks : Blocks fs above) :
    ∃ contents modified, fs.get? (above.place fs) = some (.file contents modified) := by
  obtain ⟨entry, standing, other⟩ := blocks
  cases entry with
  | file contents modified => exact ⟨contents, modified, standing⟩
  | directory mode => exact absurd rfl (other mode)
  | link target => exact absurd standing (unlinked _ target)

section

variable [Platform]

/-- What is in the place of a directory above is met before anything is made. -/
theorem prepare_of_blocks (tree : s.fs.IsTree) (unlinked : s.fs.IsUnlinked)
    (level : file.parent.IsLevel) (sendable : IsSendable file.parent.text)
    (isAbove : above.IsAbove file) (blocks : Blocks s.fs above) :
    (prepare file).runOn s =
      (.error (if above = file.parent then .notDirectory file.parent.text
        else .system .notDirectory (some file.parent.text)), s) := by
  obtain ⟨contents, modified, isFile⟩ := blocks.exists_file unlinked
  have found := stat_of_file tree level sendable ⟨isAbove.root, isAbove.names⟩ isFile
  rw [prepare, Action.runOn_bind, Action.runOn_get]
  by_cases same : above = file.parent
  · rw [if_pos same] at found ⊢
    simp only [found, Action.runOn_throw]
  · rw [if_neg same] at found ⊢
    simp only [found, Action.runOn_throw]

/-- Making ready for a file succeeds exactly if nothing is in the place of a directory above it.
Then the new entries are directories, and they are exactly those above the file that were missing.
What is in the way is told by the failure, and nothing has changed. -/
structure Provides (file : Path) (s : Session) : Prop where
  succeeds_iff : ((prepare file).runOn s).1 = .ok () ↔
    ∀ above : Path, above.IsAbove file → ¬ Blocks s.fs above
  kept : ((prepare file).runOn s).1 = .ok () → ∀ place entry,
    s.fs.get? place = some entry → ((prepare file).runOn s).2.fs.get? place = some entry
  new_iff : ((prepare file).runOn s).1 = .ok () → ∀ place entry, s.fs.get? place = none →
    (((prepare file).runOn s).2.fs.get? place = some entry ↔
      entry = .directory (s.fs.maskedMode directoryMode) ∧
        ∃ above : Path, above.IsAbove file ∧ above.place s.fs = place)
  blocked : ∀ above : Path, above.IsAbove file → Blocks s.fs above →
    (prepare file).runOn s =
      (.error (if above = file.parent then .notDirectory file.parent.text
        else .system .notDirectory (some file.parent.text)), s)

/-- What is new after a success is a directory, and stands at a place above the file. -/
theorem new_iff_of_prepare {place : Place} {entry : Entry} (tree : s.fs.IsTree)
    (unlinked : s.fs.IsUnlinked) (level : file.parent.IsLevel)
    (sendable : IsSendable file.parent.text) (proper : file.IsProper)
    (run : (prepare file).runOn s = (.ok (), s')) (isFree : s.fs.get? place = none) :
    s'.fs.get? place = some entry ↔
      entry = .directory (s.fs.maskedMode directoryMode) ∧
        ∃ above : Path, above.IsAbove file ∧ above.place s.fs = place := by
  have grown := leaves_prepare file s tree
  rw [run] at grown
  obtain ⟨grows, tree'⟩ := grown
  have unlinked' := unlinked.grow grows
  -- In the end a directory stands at the place of every path above the file.
  have isThere {above : Path} (isAbove : above.IsAbove file) :
      ∃ mode, s'.fs.spotAt .followsLink above.text =
        .ok (.entry (above.place s.fs) (.directory mode)) := by
    have begins : above.Begins file.parent := ⟨isAbove.root, isAbove.names⟩
    have directory := (isDirectory_iff_place tree' unlinked' level sendable).mp
      ((prepare_ok_iff tree proper run).mp rfl)
    obtain ⟨below, places⟩ := begins.place_eq s'.fs
    rw [← place_of_grows grows]
    exact spotAt_of_hasDirectory tree' (level.of_begins begins)
      (isSendable_of_begins level.proper sendable begins) ((places ▸ directory).of_append tree')
  constructor
  · intro standing
    rcases prepare_isMadeFor tree run place with same | ⟨-, above, isAbove, found⟩
    · cases standing.symm.trans (same.trans isFree)
    · obtain ⟨mode, found'⟩ := isThere isAbove
      obtain ⟨rfl, -⟩ := Spot.entry.inj (Except.ok.inj (found.symm.trans found'))
      have made : s'.fs.get? (above.place s.fs) = _ := isIn_of_spotAt tree' found
      exact ⟨Option.some.inj (standing.symm.trans made), above, isAbove, rfl⟩
  · rintro ⟨rfl, above, isAbove, rfl⟩
    obtain ⟨mode, found⟩ := isThere isAbove
    have standing : s'.fs.get? (above.place s.fs) = some (.directory mode) :=
      isIn_of_spotAt tree' found
    rcases grows.get?_eq (above.place s.fs) with same | ⟨-, made⟩
    · cases standing.symm.trans (same.trans isFree)
    · exact made

/-- The directories above a file are provided for a path of moderate size without a NUL. -/
theorem provides_of_nulFree (tree : s.fs.IsTree) (unlinked : s.fs.IsUnlinked)
    (modest : IsModest text) (nulFree : '\x00' ∉ (Path.ofText text).parent.text.toList) :
    Provides (.ofText text) s := by
  have level := modest.isLevel
  have sendable := modest.isSendable nulFree
  have few : (Path.ofText text).parent.names.length ≤ Platform.directoryLimit := by
    have fewer : (Path.ofText text).parent.names.length ≤ (Path.ofText text).names.length :=
      (List.dropLast_sublist _).length_le
    have limit := modest.few
    have enough := Platform.directoryLimit_ge
    omega
  have isRun (succeeds : ((prepare (.ofText text)).runOn s).1 = .ok ()) :
      (prepare (.ofText text)).runOn s = (.ok (), ((prepare (.ofText text)).runOn s).2) :=
    Prod.ext succeeds rfl
  refine ⟨⟨fun succeeds above isAbove blocks => ?_, fun unblocked => ?_⟩,
    fun _ place entry standing => ?_, fun succeeds place entry isFree => ?_,
    fun above isAbove blocks => prepare_of_blocks tree unlinked level sendable isAbove blocks⟩
  · rw [prepare_of_blocks tree unlinked level sendable isAbove blocks] at succeeds
    cases succeeds
  · have clear : ¬ s.fs.IsObstructed (Path.ofText text).parent := by
      rintro ⟨above, contents, modified, begins, isFile⟩
      exact unblocked above ⟨begins.root, begins.names⟩ ⟨_, isFile, by simp⟩
    obtain ⟨s', run⟩ := exists_prepare tree unlinked level sendable few clear
    rw [run]
  · exact (leaves_prepare (.ofText text) s tree).1.get?_of_some standing
  · exact new_iff_of_prepare tree unlinked level sendable (Path.isProper_ofText text)
      (isRun succeeds) isFree

/-- A NUL above the file keeps it from being provided for. -/
theorem not_provides_of_nul (nul : '\x00' ∈ (Path.ofText text).parent.text.toList) :
    ¬ Provides (.ofText text) s := by
  intro provides
  have fails := prepare_of_nul (s := s) nul
  -- Making ready fails, but with no failure that tells of something in the way.
  by_cases unblocked : ∀ above : Path, above.IsAbove (.ofText text) → ¬ Blocks s.fs above
  · have succeeds := provides.succeeds_iff.mpr unblocked
    rw [fails] at succeeds
    cases succeeds
  · simp only [Classical.not_forall, Classical.not_not] at unblocked
    obtain ⟨above, isAbove, blocks⟩ := unblocked
    have told := provides.blocked above isAbove blocks
    rw [fails] at told
    split at told <;> cases told

/-- In a file system without links, a path of moderate size is provided for exactly if it has no NUL
above the file. Otherwise the request fails, and nothing has changed. -/
theorem provides_iff (tree : s.fs.IsTree) (unlinked : s.fs.IsUnlinked) (modest : IsModest text) :
    (Provides (.ofText text) s ↔ '\x00' ∉ (Path.ofText text).parent.text.toList) ∧
      ('\x00' ∈ (Path.ofText text).parent.text.toList →
        (prepare (.ofText text)).runOn s = (.error .nulInPath, s)) := by
  refine ⟨⟨fun provides nul => ?_, fun nulFree => ?_⟩, fun nul => prepare_of_nul nul⟩
  · exact not_provides_of_nul nul provides
  · exact provides_of_nulFree tree unlinked modest nulFree

end

/-- A working directory with a file in it. -/
def withTaken : FileSystem := (FileSystem.empty [] 0o022).put ["taken".toList] (.file [1] none)

theorem isTree_withTaken : withTaken.IsTree :=
  (isTree_empty [] 0o022).put (hasDirectory_nil _) rfl _

theorem isUnlinked_withTaken : withTaken.IsUnlinked := (isUnlinked_empty [] 0o022).put_file _ _

/-- Two missing directories are made beside a file; below the file nothing is made. -/
theorem provides_of_taken :
    withTaken.IsTree ∧ withTaken.IsUnlinked ∧
      IsModest "new/below/file" ∧ Provides (.ofText "new/below/file") (.start withTaken none) ∧
      IsModest "taken/below/file" ∧
        Provides (.ofText "taken/below/file") (.start withTaken none) := by
  have apart : IsModest "new/below/file" := by constructor <;> decide
  have below : IsModest "taken/below/file" := by constructor <;> decide
  refine ⟨isTree_withTaken, isUnlinked_withTaken, apart, ?_, below, ?_⟩
  · apply (provides_iff (s := .start withTaken none) isTree_withTaken isUnlinked_withTaken
      apart).1.mpr
    decide
  · apply (provides_iff (s := .start withTaken none) isTree_withTaken isUnlinked_withTaken
      below).1.mpr
    decide

/-- Nothing is in the way in an empty working directory, but a directory with a NUL is not made. -/
theorem not_provides_of_nul_above :
    (FileSystem.empty [] 0o022).IsTree ∧ (FileSystem.empty [] 0o022).IsUnlinked ∧
      IsModest "a\x00/b" ∧ ¬ Provides (.ofText "a\x00/b") (.start (.empty [] 0o022) none) := by
  refine ⟨isTree_empty [] 0o022, isUnlinked_empty [] 0o022, ?_, ?_⟩
  · constructor <;> decide
  · apply not_provides_of_nul
    decide

end SafeFetch.Destination
