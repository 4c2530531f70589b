import SafeFetch.FileSystem.Basic

/-!
# Trees

A file system hangs together: every entry stands in a directory, and the working directory is one.
The entries that the calls of a program put and take away keep it so.

## Main definitions

* `FileSystem.HasDirectory`: a directory stands at a place;
* `FileSystem.IsTree`: every entry stands in a directory;
* `FileSystem.AgreesOff`: two file systems differ at one place at most;
* `FileSystem.Grows`: a file system has some more directories than another one.
-/

namespace SafeFetch.FileSystem

variable {fs fs' fs'' : FileSystem} {place other : Place} {name : List Char} {entry : Entry}

/-- A directory stands at a place. -/
def HasDirectory (fs : FileSystem) (place : Place) : Prop :=
  ∃ mode, fs.get? place = some (.directory mode)

/-- Every entry stands in a directory, and the working directory is one. -/
structure IsTree (fs : FileSystem) : Prop where
  home : fs.HasDirectory fs.workingDirectory
  above {name : List Char} {place : Place} {entry : Entry} :
    fs.get? (name :: place) = some entry → fs.HasDirectory place

/-- The root is a directory. -/
theorem hasDirectory_nil (fs : FileSystem) : fs.HasDirectory [] := ⟨rootMode, get?_nil fs⟩

/-- Above a directory of a tree there is another one; the root is above itself. -/
theorem HasDirectory.tail (tree : fs.IsTree) (directory : fs.HasDirectory place) :
    fs.HasDirectory place.tail := by
  obtain ⟨mode, standing⟩ := directory
  cases place with
  | nil => exact hasDirectory_nil fs
  | cons name place => exact tree.above standing

/-- Nothing stands below a place of a tree that is no directory. -/
theorem IsTree.get?_below (tree : fs.IsTree) (free : ¬ fs.HasDirectory place) (name : List Char) :
    fs.get? (name :: place) = none := by
  cases standing : fs.get? (name :: place) with
  | none => rfl
  | some entry => exact absurd (tree.above standing) free

/-- A place that is free is no directory. -/
theorem not_hasDirectory_of_none (free : fs.get? place = none) : ¬ fs.HasDirectory place := by
  rintro ⟨mode, standing⟩
  simp [free] at standing

/-- A place where a file or a link stands is no directory. -/
theorem not_hasDirectory_of_some (standing : fs.get? place = some entry)
    (other : ∀ mode, entry ≠ .directory mode) : ¬ fs.HasDirectory place := by
  rintro ⟨mode, directory⟩
  exact other mode (Option.some.inj (standing.symm.trans directory))

/-- A place that is no directory is not the root. -/
theorem ne_nil_of_not_hasDirectory (free : ¬ fs.HasDirectory place) : place ≠ [] := by
  rintro rfl
  exact free (hasDirectory_nil fs)

/-- The working directory and those above it are what a new file system has. -/
theorem get?_empty (home : Place) (umask : Nat) (place : Place) :
    (empty home umask).get? place =
      if place <:+ home then some (.directory rootMode) else none := by
  have found : (empty home umask).entries.lookup place.key =
      if place ≠ [] ∧ place <:+ home then some (.directory rootMode) else none := by
    rw [empty]
    induction home with
    | nil =>
      simp only [lineage, List.map_nil, List.lookup_nil, List.suffix_nil]
      rw [if_neg (by simp)]
    | cons name home ih =>
      rw [lineage, List.map_cons, List.lookup_cons]
      by_cases same : place = name :: home
      · subst same
        simp
      · have differs : (place.key == Place.key (name :: home)) = false := by simpa using same
        simp [differs, ih, List.suffix_cons_iff, same]
  rw [get?]
  by_cases root : place = []
  · simp [root]
  · simp [root, found]

/-- A new file system is a tree. -/
theorem isTree_empty (home : Place) (umask : Nat) : (empty home umask).IsTree where
  home := ⟨rootMode, by
    rw [get?_empty]
    exact if_pos List.suffix_rfl⟩
  above {name place entry} standing := by
    rw [get?_empty] at standing
    split at standing
    next above =>
      refine ⟨rootMode, ?_⟩
      rw [get?_empty]
      exact if_pos ((List.suffix_cons name place).trans above)
    next => cases standing

/-! ## Changes at one place -/

/-- Two file systems have the same working directory and umask, and differ at one place at most. -/
structure AgreesOff (place : Place) (fs fs' : FileSystem) : Prop where
  home : fs'.workingDirectory = fs.workingDirectory
  umask : fs'.umask = fs.umask
  get?_eq {other : Place} : other ≠ place → fs'.get? other = fs.get? other

theorem AgreesOff.refl (place : Place) (fs : FileSystem) : AgreesOff place fs fs :=
  ⟨rfl, rfl, fun _ => rfl⟩

theorem AgreesOff.symm (h : AgreesOff place fs fs') : AgreesOff place fs' fs :=
  ⟨h.home.symm, h.umask.symm, fun off => (h.get?_eq off).symm⟩

theorem AgreesOff.trans (h : AgreesOff place fs fs') (h' : AgreesOff place fs' fs'') :
    AgreesOff place fs fs'' :=
  ⟨h'.home.trans h.home, h'.umask.trans h.umask,
    fun off => (h'.get?_eq off).trans (h.get?_eq off)⟩

/-- Putting an entry changes its place only. -/
theorem agreesOff_put (fs : FileSystem) (place : Place) (entry : Entry) :
    AgreesOff place fs (fs.put place entry) :=
  ⟨rfl, rfl, fun off => get?_put_of_ne fs off entry⟩

/-- Taking an entry away changes its place only. -/
theorem agreesOff_erase (fs : FileSystem) (place : Place) : AgreesOff place fs (fs.erase place) :=
  ⟨rfl, rfl, fun off => get?_erase_of_ne fs off⟩

/-- The entry that was put last counts. -/
@[simp]
theorem put_put (fs : FileSystem) (place : Place) (first second : Entry) :
    (fs.put place first).put place second = fs.put place second := by
  simp [put, List.filter_filter]

/-- What was put can be taken away with what stood there before. -/
@[simp]
theorem erase_put (fs : FileSystem) (place : Place) (entry : Entry) :
    (fs.put place entry).erase place = fs.erase place := by
  simp [put, erase, List.filter_filter]

/-- A directory elsewhere stays where it is. -/
theorem AgreesOff.hasDirectory (h : AgreesOff place fs fs') (off : other ≠ place)
    (directory : fs.HasDirectory other) : fs'.HasDirectory other := by
  obtain ⟨mode, standing⟩ := directory
  exact ⟨mode, (h.get?_eq off).trans standing⟩

/-- A tree stays one when a place in a directory changes that is no directory itself. -/
theorem IsTree.of_agreesOff (tree : fs.IsTree) (h : AgreesOff (name :: place) fs fs')
    (above : fs.HasDirectory place) (leaf : ¬ fs.HasDirectory (name :: place)) :
    fs'.IsTree := by
  have kept {other : Place} (directory : fs.HasDirectory other) : fs'.HasDirectory other :=
    h.hasDirectory (fun same => leaf (same ▸ directory)) directory
  refine ⟨?_, fun {next other entry} standing => ?_⟩
  · rw [h.home]
    exact kept tree.home
  · by_cases same : next :: other = name :: place
    · obtain ⟨-, rfl⟩ := List.cons.inj same
      exact kept above
    · rw [h.get?_eq same] at standing
      exact kept (tree.above standing)

/-- A tree stays one when an entry is put at a free place in a directory. -/
theorem IsTree.put (tree : fs.IsTree) (above : fs.HasDirectory place)
    (free : fs.get? (name :: place) = none) (entry : Entry) :
    (fs.put (name :: place) entry).IsTree :=
  tree.of_agreesOff (agreesOff_put fs _ entry) above (not_hasDirectory_of_none free)

/-- A tree stays one when a file or a link is taken away. -/
theorem IsTree.erase (tree : fs.IsTree) (standing : fs.get? place = some entry)
    (leaf : ∀ mode, entry ≠ .directory mode) : (fs.erase place).IsTree := by
  have free := not_hasDirectory_of_some standing leaf
  obtain ⟨name, above, rfl⟩ := List.exists_cons_of_ne_nil (ne_nil_of_not_hasDirectory free)
  exact tree.of_agreesOff (agreesOff_erase fs _) (tree.above standing) free

/-! ## Growth -/

/-- A file system has some more directories than another one, all made with a mode. -/
structure Grows (mode : Nat) (fs fs' : FileSystem) : Prop where
  home : fs'.workingDirectory = fs.workingDirectory
  umask : fs'.umask = fs.umask
  get?_eq (place : Place) : fs'.get? place = fs.get? place ∨
    fs.get? place = none ∧ fs'.get? place = some (.directory (fs.maskedMode mode))

theorem Grows.refl (mode : Nat) (fs : FileSystem) : Grows mode fs fs :=
  ⟨rfl, rfl, fun _ => .inl rfl⟩

theorem Grows.trans {mode : Nat} (h : Grows mode fs fs') (h' : Grows mode fs' fs'') :
    Grows mode fs fs'' := by
  have sameMode : fs'.maskedMode mode = fs.maskedMode mode := by simp [maskedMode, h.umask]
  refine ⟨h'.home.trans h.home, h'.umask.trans h.umask, fun place => ?_⟩
  rcases h.get?_eq place with same | ⟨free, made⟩
  · rcases h'.get?_eq place with same' | ⟨free', made'⟩
    · exact .inl (same'.trans same)
    · exact .inr ⟨same ▸ free', sameMode ▸ made'⟩
  · rcases h'.get?_eq place with same' | ⟨free', -⟩
    · exact .inr ⟨free, same'.trans made⟩
    · simp [made] at free'

/-- What stands in a file system stands there after it has grown. -/
theorem Grows.get?_of_some {mode : Nat} (h : Grows mode fs fs')
    (standing : fs.get? place = some entry) : fs'.get? place = some entry := by
  rcases h.get?_eq place with same | ⟨free, -⟩
  · exact same.trans standing
  · simp [free] at standing

/-- A file or a link in a file system that has grown was there before. -/
theorem Grows.get?_of_leaf {mode : Nat} (h : Grows mode fs fs')
    (standing : fs'.get? place = some entry) (other : ∀ mode, entry ≠ .directory mode) :
    fs.get? place = some entry := by
  rcases h.get?_eq place with same | ⟨-, made⟩
  · exact same.symm.trans standing
  · exact absurd (Option.some.inj (standing.symm.trans made)) (other _)

/-- A place that is free in a file system that has grown was free before. -/
theorem Grows.get?_of_none {mode : Nat} (h : Grows mode fs fs') (free : fs'.get? place = none) :
    fs.get? place = none := by
  rcases h.get?_eq place with same | ⟨free', -⟩
  · exact same.symm.trans free
  · exact free'

/-- A directory of a file system is one after it has grown. -/
theorem Grows.hasDirectory {mode : Nat} (h : Grows mode fs fs')
    (directory : fs.HasDirectory place) : fs'.HasDirectory place := by
  obtain ⟨mode, standing⟩ := directory
  exact ⟨mode, h.get?_of_some standing⟩

/-- A directory can be made at a free place. -/
theorem grows_put (mode : Nat) (free : fs.get? place = none) :
    Grows mode fs (fs.put place (.directory (fs.maskedMode mode))) := by
  have below : place ≠ [] := ne_nil_of_not_hasDirectory (not_hasDirectory_of_none free)
  refine ⟨rfl, rfl, fun other => ?_⟩
  by_cases same : other = place
  · subst same
    exact .inr ⟨free, get?_put_self fs below _⟩
  · exact .inl (get?_put_of_ne fs same _)

end SafeFetch.FileSystem
