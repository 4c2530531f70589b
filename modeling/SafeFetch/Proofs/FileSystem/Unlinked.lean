import Mathlib.Data.List.Induction
import SafeFetch.Proofs.FileSystem.Below

/-!
# File systems without links

Where no link stands, a path that does not lead up goes straight down: each of its names stands
below the one before. So the place that a path means can be spelled from its names alone, and what a
request finds is decided by the first name on the way that is no directory.

## Main definitions

* `FileSystem.IsUnlinked`: no link stands anywhere;
* `Path.IsLevel`: the names of a path are proper, do not lead up and are not too long;
* `Path.Begins`: a path is on the way to another one, or is the other one;
* `Path.place`: the place that the names of a path spell.

## Main results

* `walk_down`: a walk goes down to a directory that stands at the place of its names;
* `stat_of_file`: a request that meets a file on the way;
* `hasDirectory_or_free`: without a file on the way, a path leads to a directory or is missing;
* `isDirectory_iff_place`: a path leads to a directory exactly if one stands at its place.
-/

namespace SafeFetch

open SafeFetch.Text

namespace Path

/-- The names of a path are proper, none of them leads up, and none is too long to be looked up. -/
structure IsLevel (p : Path) : Prop where
  proper : p.IsProper
  notUp : ['.', '.'] ∉ p.names
  short : ∀ name ∈ p.names, (Utf8.encode name).length ≤ FileSystem.maxNameBytes

/-- A path has the root of another one and some of its first names, or all of them. -/
structure Begins (p q : Path) : Prop where
  root : p.root = q.root
  names : p.names <+: q.names

theorem Begins.refl (p : Path) : p.Begins p := ⟨rfl, List.prefix_rfl⟩

theorem Begins.trans {p q r : Path} (first : p.Begins q) (second : q.Begins r) : p.Begins r :=
  ⟨first.root.trans second.root, first.names.trans second.names⟩

/-- A path is on the way to any path that goes one name further. -/
theorem begins_further (p : Path) (name : List Char) : p.Begins (p.further name) :=
  ⟨rfl, List.prefix_append p.names [name]⟩

/-- What is on the way to a level path is level. -/
theorem IsLevel.of_begins {p q : Path} (level : q.IsLevel) (begins : p.Begins q) : p.IsLevel where
  proper name isName := level.proper name (begins.names.subset isName)
  notUp isIn := level.notUp (begins.names.subset isIn)
  short name isName := level.short name (begins.names.subset isName)

/-- A name of a level path may be looked up on the way. -/
theorem IsLevel.passes {p : Path} {ending : FileSystem.Ending} {name : List Char}
    {rest : List (List Char)} (level : p.IsLevel) (isName : name ∈ p.names)
    (unmade : ending ≠ .makesFile) : FileSystem.Passes ending name rest := by
  obtain ⟨said, notDot, -⟩ := isPathName_iff.mp (level.proper name isName)
  refine ⟨said, notDot, ?_, fun made => absurd made unmade, level.short name isName⟩
  rintro rfl
  exact level.notUp isName

/-- The place that the names of a path spell, one below the other. -/
def place (p : Path) (fs : FileSystem) : Place := p.names.reverse ++ p.start fs

/-- A further name is spelled below the names before it. -/
@[simp]
theorem place_further (p : Path) (name : List Char) (fs : FileSystem) :
    (p.further name).place fs = name :: p.place fs := by
  rw [place, further, List.reverse_append]
  rfl

/-- The place of a path lies below the places on the way to it. -/
theorem Begins.place_eq {p q : Path} (begins : p.Begins q) (fs : FileSystem) :
    ∃ further, q.place fs = further ++ p.place fs := by
  obtain ⟨root, names⟩ := p
  obtain ⟨root', names'⟩ := q
  obtain ⟨rfl, further, rfl⟩ := begins
  refine ⟨further.reverse, ?_⟩
  rw [place, place, List.reverse_append, List.append_assoc]
  rfl

end Path

namespace FileSystem

variable {fs fs' : FileSystem} {ending : Ending} {links : Nat} {p q above : Path} {here : Place}
  {name : List Char} {names rest : List (List Char)} {contents : List UInt8}
  {modified : Option Int}

/-! ## No links -/

/-- No link stands anywhere. -/
def IsUnlinked (fs : FileSystem) : Prop := ∀ place target, fs.get? place ≠ some (.link target)

/-- Directories that are made are no links. -/
theorem IsUnlinked.grow {mode : Nat} (unlinked : fs.IsUnlinked) (grows : Grows mode fs fs') :
    fs'.IsUnlinked :=
  fun place target link => unlinked place target (grows.get?_of_leaf link (by simp))

/-- A new file system has no links. -/
theorem isUnlinked_empty (home : Place) (umask : Nat) : (empty home umask).IsUnlinked := by
  intro place target link
  rw [get?_empty] at link
  split at link <;> cases link

/-- A file that is put into a file system is no link. -/
theorem IsUnlinked.put_file (unlinked : fs.IsUnlinked) (name : List Char) (place : Place) :
    (fs.put (name :: place) (.file contents modified)).IsUnlinked := by
  intro other target link
  by_cases same : other = name :: place
  · rw [same, get?_put_self fs (by simp)] at link
    cases link
  · rw [get?_put_of_ne fs same] at link
    exact unlinked other target link

/-- No path names a link where there is none. -/
theorem IsUnlinked.spotAt_ne {ending : Ending} {path : String} (unlinked : fs.IsUnlinked)
    (place : Place) (target : List Char) :
    fs.spotAt ending path ≠ .ok (.entry place (.link target)) :=
  fun found => unlinked place target (get?_of_spotAt found (by simp))

/-- What stands at a place without links and directories is a file, or nothing. -/
theorem IsUnlinked.takesFile {place : Place} (unlinked : fs.IsUnlinked)
    (free : ¬ fs.HasDirectory place) : fs.TakesFile place := by
  rcases standing : fs.get? place with _ | entry
  · exact .inl standing
  · cases entry with
    | file contents modified => exact .inr ⟨contents, modified, standing⟩
    | directory mode => exact absurd ⟨mode, standing⟩ free
    | link target => exact absurd standing (unlinked place target)

/-! ## The way down -/

/-- A directory of a tree stands in directories. -/
theorem HasDirectory.of_append (tree : fs.IsTree) (directory : fs.HasDirectory (names ++ here)) :
    fs.HasDirectory here := by
  induction names with
  | nil => exact directory
  | cons name names ih => exact ih (directory.tail tree)

/-- Nothing stands below a free place of a tree. -/
theorem IsTree.get?_of_free_above (tree : fs.IsTree) (isFree : fs.get? here = none) :
    fs.get? (names ++ here) = none := by
  cases names with
  | nil => exact isFree
  | cons name names =>
    refine tree.get?_below (fun directory => ?_) name
    exact not_hasDirectory_of_none isFree (directory.of_append tree)

/-- A walk goes down to a directory that stands at the place of its names. -/
theorem walk_down (tree : fs.IsTree) (passes : ∀ name ∈ names, ∀ rest, Passes ending name rest)
    (directory : fs.HasDirectory (names.reverse ++ here)) :
    walk fs ending links here (names ++ rest) =
      walk fs ending links (names.reverse ++ here) rest := by
  induction names generalizing here with
  | nil => rfl
  | cons name names ih =>
    have below : (name :: names).reverse ++ here = names.reverse ++ name :: here := by simp
    rw [below] at directory ⊢
    -- The first name is a directory, because the last one stands below it.
    obtain ⟨mode, standing⟩ := directory.of_append tree
    rw [List.cons_append, walk_of_directory (passes name List.mem_cons_self _) standing]
    exact ih (fun other isName => passes other (List.mem_cons_of_mem name isName)) directory

/-- A request for a level path is a walk along its names. -/
theorem spotAt_text (proper : p.IsProper) (sendable : IsSendable p.text) :
    fs.spotAt ending p.text =
      (walk fs ending maxLinks (p.start fs) p.names).mapError (.system · (some p.text)) := by
  obtain ⟨silent, split, silence⟩ := proper.splitAll_chars
  rw [spotAt_of_sendable sendable, startOf_text proper, Path.text, String.toList_ofList, split,
    walk_silent_append silence]

/-- What is on the way to a path that may be sent may be sent. -/
theorem isSendable_of_begins (proper : q.IsProper) (sendable : IsSendable q.text)
    (begins : p.Begins q) : IsSendable p.text := by
  obtain ⟨root, names⟩ := p
  obtain ⟨root', names'⟩ := q
  obtain ⟨rfl, further, rfl⟩ := begins
  -- The further names are left out one by one, from the last one on.
  induction further using List.reverseRecOn with
  | nil => simpa using sendable
  | append_singleton further name ih =>
    rw [← List.append_assoc] at proper sendable
    exact ih (Path.isProper_further (p := ⟨root, names ++ further⟩).mp proper).1
      (isSendable_of_further (p := ⟨root, names ++ further⟩) proper sendable)

/-- A path leads to a directory that stands at its place. -/
theorem spotAt_of_hasDirectory (tree : fs.IsTree) (level : p.IsLevel)
    (sendable : IsSendable p.text) (directory : fs.HasDirectory (p.place fs)) :
    ∃ mode, fs.spotAt .followsLink p.text = .ok (.entry (p.place fs) (.directory mode)) := by
  obtain ⟨mode, standing⟩ := directory
  refine ⟨mode, ?_⟩
  have down : walk fs .followsLink maxLinks (p.start fs) (p.names ++ []) = _ :=
    walk_down tree (fun name isName rest => level.passes isName (by simp)) ⟨mode, standing⟩
  rw [List.append_nil] at down
  rw [spotAt_text level.proper sendable, down, walk_eq_walkNames, walkNames]
  rw [Path.place] at standing ⊢
  rw [standing]
  rfl

/-- A walk comes down to the name below a directory on its way. -/
theorem walk_to (tree : fs.IsTree) (level : p.IsLevel) (unmade : ending ≠ .makesFile)
    (begins : (above.further name).Begins p) (directory : fs.HasDirectory (above.place fs)) :
    ∃ rest, walk fs ending maxLinks (p.start fs) p.names =
        walk fs ending maxLinks (above.place fs) (name :: rest) ∧
      (∀ other ∈ rest, other ∈ p.names) ∧ Passes ending name rest ∧
        (rest = [] ↔ above.further name = p) := by
  obtain ⟨root, names⟩ := p
  obtain ⟨rfl, rest, rfl⟩ := begins
  have split : (above.further name).names ++ rest = above.names ++ name :: rest := by
    simp [Path.further]
  dsimp only [Path.start] at *
  rw [split] at level ⊢
  refine ⟨rest, ?_, by simp +contextual, level.passes (by simp) unmade, by simp [Path.further]⟩
  exact walk_down tree (fun other isOther _ => level.passes (List.mem_append_left _ isOther) unmade)
    directory

/-- A free name below a directory is found if it is the last one, and keeps any other request from
going on. -/
theorem spotAt_of_free (tree : fs.IsTree) (level : p.IsLevel) (sendable : IsSendable p.text)
    (unmade : ending ≠ .makesFile) (begins : (above.further name).Begins p)
    (directory : fs.HasDirectory (above.place fs))
    (isFree : fs.get? (name :: above.place fs) = none) :
    fs.spotAt ending p.text =
      if above.further name = p then .ok (.vacant (name :: above.place fs))
      else .error (.system .noEntry (some p.text)) := by
  obtain ⟨rest, down, isRest, passes, isLast⟩ := walk_to tree level unmade begins directory
  rw [spotAt_text level.proper sendable, down, walk_of_none passes isFree]
  -- What says nothing is no name, so the rest is blank only if there is none.
  have isBlank : rest.all (·.isEmpty) = true ↔ rest = [] := by
    constructor
    · intro blank
      cases rest with
      | nil => rfl
      | cons next rest =>
        have said := (isPathName_iff.mp (level.proper next (isRest next List.mem_cons_self))).1
        simp [said] at blank
    · rintro rfl
      rfl
  simp only [isBlank, isLast]
  split <;> rfl

/-- A file below a directory is found if it stands at the end, and keeps any other request from
going on. -/
theorem spotAt_of_file (tree : fs.IsTree) (level : p.IsLevel) (sendable : IsSendable p.text)
    (unmade : ending ≠ .makesFile) (begins : (above.further name).Begins p)
    (file : fs.get? (name :: above.place fs) = some (.file contents modified)) :
    fs.spotAt ending p.text =
      if above.further name = p then .ok (.entry (name :: above.place fs) (.file contents modified))
      else .error (.system .notDirectory (some p.text)) := by
  obtain ⟨rest, down, -, passes, isLast⟩ := walk_to tree level unmade begins (tree.above file)
  rw [spotAt_text level.proper sendable, down, walk_eq_walkNames, walkNames_of_passes passes, file]
  simp only [List.isEmpty_iff, isLast]
  split <;> rfl

/-! ## What is on the way -/

/-- A path that no directory stands at goes through a first name that is no directory. -/
theorem exists_gap (tree : fs.IsTree) (free : ¬ fs.HasDirectory (p.place fs)) :
    ∃ (above : Path) (name : List Char), (above.further name).Begins p ∧
      fs.HasDirectory (above.place fs) ∧ ¬ fs.HasDirectory (name :: above.place fs) := by
  obtain ⟨root, names⟩ := p
  -- From the last name on, up to one that stands in a directory.
  induction names using List.reverseRecOn with
  | nil => exact absurd (tree.hasDirectory_pathStart ⟨root, []⟩) free
  | append_singleton names name ih =>
    by_cases directory : fs.HasDirectory (Path.place ⟨root, names⟩ fs)
    · have place := Path.place_further ⟨root, names⟩ name fs
      exact ⟨⟨root, names⟩, name, .refl _, directory, place ▸ free⟩
    · obtain ⟨above, first, begins, isThere, isGap⟩ := ih directory
      exact ⟨above, first, begins.trans (Path.begins_further ⟨root, names⟩ name), isThere, isGap⟩

/-- Some path on the way to another one, or that path itself, leads to a file. -/
def IsObstructed (fs : FileSystem) (p : Path) : Prop :=
  ∃ (above : Path) (contents : List UInt8) (modified : Option Int), above.Begins p ∧
    fs.get? (above.place fs) = some (.file contents modified)

/-- What a request finds where a file is on the way. -/
theorem stat_of_file (tree : fs.IsTree) (level : p.IsLevel) (sendable : IsSendable p.text)
    (begins : above.Begins p) (file : fs.get? (above.place fs) = some (.file contents modified)) :
    fs.stat p.text =
      if above = p then .ok (.file contents modified)
      else .error (.system .notDirectory (some p.text)) := by
  -- A file has a name, because a path without names leads to a directory.
  have more : above.names ≠ [] := by
    intro bare
    refine not_hasDirectory_of_some file (by simp) ?_
    rw [Path.place, bare]
    exact tree.hasDirectory_pathStart above
  obtain ⟨name, isFurther⟩ := Path.exists_eq_further more
  rw [isFurther] at begins file ⊢
  rw [Path.place_further] at file
  rw [stat, spotAt_of_file tree level sendable (by simp) begins file]
  by_cases last : above.parent.further name = p
  · rw [if_pos last, if_pos last]
  · rw [if_neg last, if_neg last]

/-- Without a file on the way, a directory stands at the place of a path, or the path is missing. -/
theorem hasDirectory_or_free (tree : fs.IsTree) (unlinked : fs.IsUnlinked) (level : p.IsLevel)
    (sendable : IsSendable p.text) (clear : ¬ fs.IsObstructed p) :
    fs.HasDirectory (p.place fs) ∨
      fs.get? (p.place fs) = none ∧ fs.stat p.text = .error (.system .noEntry (some p.text)) := by
  by_cases directory : fs.HasDirectory (p.place fs)
  · exact .inl directory
  obtain ⟨above, name, begins, isThere, isGap⟩ := exists_gap tree directory
  -- The first name that is no directory is no file, so it is free.
  have isFree : fs.get? (name :: above.place fs) = none := by
    rcases unlinked.takesFile isGap with isFree | ⟨contents, modified, file⟩
    · exact isFree
    · refine absurd ⟨above.further name, contents, modified, begins, ?_⟩ clear
      rw [Path.place_further]
      exact file
  refine .inr ⟨?_, ?_⟩
  · obtain ⟨further, below⟩ := begins.place_eq fs
    rw [below, Path.place_further]
    exact tree.get?_of_free_above isFree
  · rw [stat, spotAt_of_free tree level sendable (by simp) begins isThere isFree]
    by_cases last : above.further name = p
    · rw [if_pos last]
      rfl
    · rw [if_neg last]

/-- A path leads to a directory exactly if one stands at its place. -/
theorem isDirectory_iff_place (tree : fs.IsTree) (unlinked : fs.IsUnlinked) (level : p.IsLevel)
    (sendable : IsSendable p.text) :
    fs.isDirectory p.text = .ok true ↔ fs.HasDirectory (p.place fs) := by
  rw [isDirectory_eq_true_iff]
  constructor
  · rintro ⟨mode, there⟩
    by_cases obstructed : fs.IsObstructed p
    -- A file on the way is no directory, and keeps the request from finding one.
    · obtain ⟨above, contents, modified, begins, file⟩ := obstructed
      rw [stat_of_file tree level sendable begins file] at there
      split at there <;> cases there
    · refine (hasDirectory_or_free tree unlinked level sendable obstructed).resolve_right ?_
      rintro ⟨-, missing⟩
      cases there.symm.trans missing
  · intro directory
    obtain ⟨mode, found⟩ := spotAt_of_hasDirectory tree level sendable directory
    exact ⟨mode, stat_eq_ok_iff.mpr ⟨p.place fs, found⟩⟩

end FileSystem

end SafeFetch
