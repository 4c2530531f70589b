import SafeFetch.Proofs.Destination

/-!
# Directories above a file

Making ready for a file may add directories, and each of them is on the way to the file: one of the
paths above the file leads to it. This holds of every path, also of one that leads up or passes
links, so it tells of a new directory what it was made for.

## Main definitions

* `Path.IsAbove`: a path begins another one and is shorter;
* `IsMadeFor`: a directory is new, and a path above a file leads to it.

## Main results

* `makeDirectories_leads`: what was made is where a part of the names leads;
* `prepare_isMadeFor`: what is new after making ready for a file was made for it.
-/

namespace SafeFetch

/-- A path is one of those above a file: it has some of the first names, but not the last one. -/
structure Path.IsAbove (above file : Path) : Prop where
  root : above.root = file.root
  names : above.names <+: file.names.dropLast

namespace Destination

open SafeFetch.FileSystem

variable {s s' : Session} {root : Root} {room : Nat} {names : List (List Char)} {file : Path}
  {fs fs' fs'' : FileSystem} {place other : Place}

/-- A directory was made on the way to a file: it is new, and a path above the file leads to it. -/
def IsMadeFor (fs fs' : FileSystem) (file : Path) (place : Place) : Prop :=
  fs.get? place = none ∧
    ∃ above : Path, above.IsAbove file ∧
      fs'.spotAt .followsLink above.text =
        .ok (.entry place (.directory (fs.maskedMode directoryMode)))

/-- A directory that was made is still the one on the way after a file was written elsewhere. -/
theorem IsMadeFor.put {contents : List UInt8} {modified : Option Int} (tree : fs'.IsTree)
    (made : IsMadeFor fs fs' file other) (takes : fs'.TakesFile place) :
    IsMadeFor fs (fs'.put place (.file contents modified)) file other := by
  obtain ⟨isFree, above, isAbove, found⟩ := made
  have standing : fs'.get? other = some (.directory (fs.maskedMode directoryMode)) :=
    isIn_of_spotAt tree found
  refine ⟨isFree, above, isAbove, ?_⟩
  exact spotAt_elsewhere (agreesOff_put fs' place _) takes found (takes.ne_of_directory standing)

/-- Some of the names, innermost first, lead to a directory at a place. -/
def Reaches (root : Root) (names : List (List Char)) (fs : FileSystem) (place : Place) : Prop :=
  ∃ above mode, above <:+ names ∧
    fs.spotAt .followsLink (Path.text { root, names := above.reverse }) =
      .ok (.entry place (.directory mode))

/-- More names reach what some of them do. -/
theorem Reaches.cons (reaches : Reaches root names fs place) (name : List Char) :
    Reaches root (name :: names) fs place := by
  obtain ⟨above, mode, isAbove, found⟩ := reaches
  exact ⟨above, mode, isAbove.trans (List.suffix_cons name names), found⟩

/-- What is reached is reached after directories were made. -/
theorem Reaches.grow {mode : Nat} (tree : fs.IsTree) (grows : Grows mode fs fs')
    (reaches : Reaches root names fs place) : Reaches root names fs' place := by
  obtain ⟨above, mode, isAbove, found⟩ := reaches
  exact ⟨above, mode, isAbove, spotAt_grow tree grows found⟩

/-- Every entry is as it was, or is a directory that some of the names reach. -/
def IsOnTheWay (root : Root) (names : List (List Char)) (fs fs' : FileSystem) : Prop :=
  ∀ place, fs'.get? place = fs.get? place ∨ Reaches root names fs' place

/-- One directory more is made at the end of the way. -/
theorem IsOnTheWay.make {name : List Char} (tree : fs'.IsTree)
    (way : IsOnTheWay root names fs fs')
    (made : fs'.makeDirectory (Path.text { root, names := (name :: names).reverse })
      directoryMode = .ok fs'') :
    IsOnTheWay root (name :: names) fs fs'' := by
  obtain ⟨new, vacant, rfl⟩ := makeDirectory_eq_ok_iff.mp made
  have grows := grows_put directoryMode (isIn_of_spotAt tree vacant).1
  intro place
  by_cases isNew : place = new
  · subst isNew
    exact .inr ⟨name :: names, _, List.suffix_rfl, spotAt_made tree vacant _⟩
  · rw [get?_put_of_ne fs' isNew]
    rcases way place with same | reaches
    · exact .inl same
    · exact .inr ((reaches.grow tree grows).cons name)

/-- What was made is where a part of the names leads. -/
theorem makeDirectories_leads (tree : s.fs.IsTree)
    (run : (makeDirectories root room names).runOn s = (.ok (), s')) :
    IsOnTheWay root names s.fs s'.fs := by
  -- The directories above are made first, and the innermost one is added to what they reach.
  induction names generalizing room s s' with
  | nil =>
    have found : s.fs.isDirectory (Path.text { root, names := [].reverse }) = .ok true :=
      isDirectory_of_names_nil tree rfl
    intro place
    cases makesOne run with
    | found => exact .inl rfl
    | made missing => cases found.symm.trans missing
    | appeared missing => cases found.symm.trans missing
  | cons name names ih =>
    have leaves := leaves_makeDirectories root (room - 1) names s
    cases makesOne run with
    | found => exact fun _ => .inl rfl
    | made _ above made =>
      have above := runOn_of_within above
      rw [above] at leaves
      exact (ih tree above).make (leaves tree).2 made
    | appeared _ above =>
      intro place
      exact (ih tree (runOn_of_within above) place).imp id fun reaches => reaches.cons name

/-- What is new after making ready for a file was made for it. -/
theorem prepare_isMadeFor [Platform] (tree : s.fs.IsTree)
    (run : (prepare file).runOn s = (.ok (), s')) (place : Place) :
    s'.fs.get? place = s.fs.get? place ∨ IsMadeFor s.fs s'.fs file place := by
  have grown := leaves_prepare file s tree
  rw [run] at grown
  obtain ⟨grows, tree'⟩ := grown
  rcases prepare_cases run with ⟨-, rfl, -⟩ | ⟨failed, -, -⟩ | ⟨start, same, made⟩
  · exact .inl rfl
  · exact absurd rfl failed
  rcases makeDirectories_leads (same ▸ tree) made place with kept | ⟨above, mode, isAbove, found⟩
  · exact .inl (kept.trans (congrArg (·.get? place) same))
  -- What is reached is as it was, or it is new and has the mode of new directories.
  rcases grows.get?_eq place with kept | ⟨isFree, standing⟩
  · exact .inl kept
  · have there : s'.fs.get? place = some (.directory mode) := isIn_of_spotAt tree' found
    obtain rfl := Entry.directory.inj (Option.some.inj (there.symm.trans standing))
    refine .inr ⟨isFree, { root := file.root, names := above.reverse }, ⟨rfl, ?_⟩, found⟩
    have reversed : above.reverse.reverse <:+ file.parent.names.reverse := by
      rwa [List.reverse_reverse]
    exact List.reverse_suffix.mp reversed

end Destination

end SafeFetch
