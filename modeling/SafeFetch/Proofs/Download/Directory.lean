import SafeFetch.Proofs.Download.Upkeep
import SafeFetch.Proofs.FileSystem.Unlinked

/-!
# Downloads into a directory

A download into a directory of a file system without links. The file goes directly into the
directory, under the name that is chosen for the response, and no other place changes. What stands
there afterwards is what stood there before, or the whole body, or nothing.

## Main definitions

* `FileSystem.Offers`: a path leads to a directory, in a tree without links;
* `FileSystem.Alters`: the file at one place is written or removed, or nothing changes;
* `Download.Succeeds`: the ways in which a download into a directory succeeds.

## Main results

* `Offers.place_of_opens`: where a file in the directory is opened;
* `Offers.alters` and `Opens.alters`: the directory is still there afterwards, and its files;
* `succeeds_of_run`: how a download into a directory succeeds;
* `alters_of_run`: what any download into a directory does.
-/

namespace SafeFetch

namespace FileSystem

variable {fs fs' : FileSystem} {directory : Path} {above place other : Place} {name : List Char}
  {isGood : List UInt8 → Prop} {contents : List UInt8} {modified : Option Int}

/-- A path leads to the directory at a place of a tree without links. -/
structure Offers (fs : FileSystem) (directory : Path) (above : Place) : Prop where
  tree : fs.IsTree
  unlinked : fs.IsUnlinked
  found : ∃ mode, fs.spotAt .followsLink directory.text = .ok (.entry above (.directory mode))

/-- The path of a directory that is offered leads to one. -/
theorem Offers.stat_eq (offers : Offers fs directory above) :
    ∃ mode, fs.stat directory.text = .ok (.directory mode) := by
  obtain ⟨mode, found⟩ := offers.found
  exact ⟨mode, stat_eq_ok_iff.mpr ⟨above, found⟩⟩

/-- A file in a directory is opened under its name there. -/
theorem Offers.place_of_opens (offers : Offers fs directory above)
    (proper : (directory.further name).IsProper) (notUp : name ≠ ['.', '.'])
    (opens : Opens fs (directory.further name).text place) : place = name :: above := by
  obtain ⟨mode, found⟩ := offers.found
  obtain ⟨other, _, links, foundAbove, leads⟩ :=
    directory_of_further offers.tree proper opens.spotAt_followsLink
  obtain ⟨rfl, -⟩ := Spot.entry.inj (Except.ok.inj (foundAbove.symm.trans found))
  -- No link stands at the name, so the name leads to what stands there.
  have spot := leads.last_eq (Path.isProper_further.mp proper).2 notUp
    (.inr fun target => offers.unlinked _ target)
  simpa using congrArg Spot.place spot

/-! ## Changes of one file -/

/-- The file at a place is written or removed, or nothing changes. What may be written is given. -/
inductive Alters (isGood : List UInt8 → Prop) (fs : FileSystem) (place : Place) :
    FileSystem → Prop
  | same : Alters isGood fs place fs
  | written {contents : List UInt8} {modified : Option Int} (takes : fs.TakesFile place)
      (good : isGood contents) : Alters isGood fs place (fs.put place (.file contents modified))
  | removed (takes : fs.TakesFile place) : Alters isGood fs place (fs.erase place)

/-- What stands anywhere after a change of one file stood there before, except for that file. -/
theorem Alters.get?_cases (alters : Alters isGood fs place fs') (other : Place) :
    fs'.get? other = fs.get? other ∨
      other = place ∧ (fs'.get? other = none ∨ ∃ contents modified,
        fs'.get? other = some (.file contents modified) ∧ isGood contents) := by
  cases alters with
  | same => exact .inl rfl
  | written takes good =>
    by_cases isThere : other = place
    · have more : other ≠ [] :=
        isThere ▸ ne_nil_of_not_hasDirectory takes.not_hasDirectory
      subst isThere
      exact .inr ⟨rfl, .inr ⟨_, _, get?_put_self fs more _, good⟩⟩
    · exact .inl (get?_put_of_ne fs isThere _)
  | removed takes =>
    by_cases isThere : other = place
    · have more : other ≠ [] :=
        isThere ▸ ne_nil_of_not_hasDirectory takes.not_hasDirectory
      subst isThere
      exact .inr ⟨rfl, .inl (get?_erase_self fs more)⟩
    · exact .inl (get?_erase_of_ne fs isThere)

/-- A file after a change of one file was there before, or it is the one that was written. -/
theorem Alters.file (alters : Alters isGood fs place fs')
    (file : fs'.get? other = some (.file contents modified)) :
    fs.get? other = some (.file contents modified) ∨ other = place ∧ isGood contents := by
  rcases alters.get?_cases other with same | ⟨isThere, gone | ⟨bytes, _, standing, good⟩⟩
  · exact .inl (same.symm.trans file)
  · cases gone.symm.trans file
  · obtain ⟨rfl, -⟩ := Entry.file.inj (Option.some.inj (standing.symm.trans file))
    exact .inr ⟨isThere, good⟩

/-- A change of one file makes no link. -/
theorem Alters.unlinked (alters : Alters isGood fs place fs') (unlinked : fs.IsUnlinked) :
    fs'.IsUnlinked := by
  intro other target link
  rcases alters.get?_cases other with same | ⟨-, gone | ⟨_, _, standing, -⟩⟩
  · exact unlinked other target (same.symm.trans link)
  · cases gone.symm.trans link
  · cases standing.symm.trans link

/-- A directory is still offered after a change of a file in it. -/
theorem Offers.alters (offers : Offers fs directory above)
    (alters : Alters isGood fs (name :: above) fs') : Offers fs' directory above := by
  have unlinked := alters.unlinked offers.unlinked
  -- The directory stands elsewhere than the file, and the path to it does not see the change.
  have changed (takes : fs.TakesFile (name :: above)) (agrees : AgreesOff (name :: above) fs fs') :
      Offers fs' directory above := by
    obtain ⟨mode, found⟩ := offers.found
    have standing : fs.get? above = some (.directory mode) := isIn_of_spotAt offers.tree found
    have off : above ≠ name :: above := takes.ne_of_directory standing
    refine ⟨?_, unlinked, mode, spotAt_elsewhere agrees takes found off⟩
    exact offers.tree.of_agreesOff agrees ⟨mode, standing⟩ takes.not_hasDirectory
  cases alters with
  | same => exact offers
  | written takes _ => exact changed takes (agreesOff_put fs _ _)
  | removed takes => exact changed takes (agreesOff_erase fs _)

/-- A path opens the same file after a change of one file, be it this one or another. -/
theorem Opens.alters {path : String} (tree : fs.IsTree) (opens : Opens fs path place)
    (alters : Alters isGood fs other fs') : Opens fs' path place := by
  cases alters with
  | same => exact opens
  | written takes _ =>
    have more := ne_nil_of_not_hasDirectory takes.not_hasDirectory
    exact opens.stays tree (agreesOff_put fs _ _) takes (.inr ⟨_, _, get?_put_self fs more _⟩)
  | removed takes =>
    have more := ne_nil_of_not_hasDirectory takes.not_hasDirectory
    exact opens.stays tree (agreesOff_erase fs _) takes (.inl (get?_erase_self fs more))

end FileSystem

namespace Download

open SafeFetch.FileSystem SafeFetch.Transfer

variable {s s' : Session} {transport : Http.Transport} {options : DownloadOptions}
  {directory : Path} {above place : Place} {name : List Char}

/-- A body that is written into a directory ends up whole in a file of its own, or not at all. -/
theorem Rewrites.alters {body : List Item} {path : Path} {fs fs' : FileSystem}
    (offers : Offers fs directory above) (opens : Opens fs path.text place)
    (rewrites : Rewrites body fs path place fs') :
    Alters (received? body = some ·) fs place fs' := by
  cases rewrites with
  | kept _ received => exact .written opens.takes received
  | removed _ removed =>
    obtain ⟨rfl, -⟩ := removed.eq_erase offers.tree opens fun other target =>
      offers.unlinked.spotAt_ne other target
    exact .removed opens.takes

variable [Platform]

/-- Writing a body into a directory changes the file of its name there, or nothing. -/
theorem Writes.alters {delivery : Delivery} {hasher : Option Hasher} {ready : Session}
    {outcome : Except Failure DownloadResult} {fs' : FileSystem}
    (offers : Offers ready.fs directory above) (isFurther : delivery.path = directory.further name)
    (proper : (directory.further name).IsProper) (notUp : name ≠ ['.', '.'])
    (writes : Writes options delivery hasher ready outcome fs') :
    Alters (received? delivery.response.bodyItems = some ·) ready.fs (name :: above) fs' := by
  rcases writes.cases with ⟨failure, shut, left⟩ | ⟨place, opens, rewrites⟩
  · have same : fs' = ready.fs := by
      rcases left with removed | same
      · -- Only a link could be removed where no file can be opened.
        rcases removeIfPresent_of_shut offers.tree shut removed with same | ⟨_, _, link, -⟩
        · exact same
        · exact absurd link (offers.unlinked.spotAt_ne _ _)
      · exact same
    rw [same]
    exact .same
  · have alters := rewrites.alters offers opens
    rw [isFurther] at opens
    rwa [offers.place_of_opens proper notUp opens] at alters

/-- How a download into a directory succeeds: the file of a name is there and is left alone, or the
whole body is written to it, which may replace a file only if that is asked for. -/
inductive Succeeds (options : DownloadOptions) (directory : Path) (above : Place)
    (fs : FileSystem) (name : List Char) : DownloadResult → FileSystem → Prop
  | skipped : Succeeds options directory above fs name
      { path := directory.further name, bytesWritten := 0, digest := none, isSkipped := true } fs
  | written {hasher : Option Hasher} {chunks : List (List UInt8)} {count : Nat}
      {modified : Option Int} {digest : Option (List UInt8)}
      (starts : startHasher? options.hasher = .ok hasher)
      (opens : Opens fs (directory.further name).text (name :: above))
      (digested : digestOf? (hasher.map (hasherAfter · chunks)) = .ok digest)
      (free : options.force = false → fs.get? (name :: above) = none) :
      Succeeds options directory above fs name
        { path := directory.further name, bytesWritten := count, digest, isSkipped := false }
        (fs.put (name :: above) (.file chunks.flatten modified))

/-- A download into a directory that succeeds does so in one of these ways, for a name that does not
lead up. -/
theorem succeeds_of_run {result : DownloadResult} (proper : directory.IsProper)
    (offers : Offers s.fs directory above) (into : options.destination = directory.text)
    (run : (run transport options).runOn s = (.ok result, s')) :
    ∃ name, isPathName name = true ∧ name ≠ ['.', '.'] ∧
      Succeeds options directory above s.fs name result s'.fs := by
  have found := isDirectory_eq_true_iff.mpr offers.stat_eq
  obtain ⟨delivery, name, -, -, chooses, puts⟩ := puts_of_run offers.tree proper found into run
  obtain ⟨isName, notUp⟩ := delivery.info.chooseName_proper chooses
  rw [Path.child_eq_further directory isName] at puts
  refine ⟨name.toList, isName, notUp, ?_⟩
  generalize s'.fs = after at puts ⊢
  cases puts with
  | skipped => exact .skipped
  | written starts opens free digested _ =>
    obtain rfl :=
      offers.place_of_opens (Path.isProper_further.mpr ⟨proper, isName⟩) notUp opens
    exact .written starts opens digested free

/-- What a download into a directory does: nothing, or the file of the name that is chosen for a
successful response is another one, and if it is there, it holds the whole body. -/
theorem alters_of_run (transport : Http.Transport) (options : DownloadOptions)
    (proper : directory.IsProper) (offers : Offers s.fs directory above)
    (into : options.destination = directory.text) :
    ((run transport options).runOn s).2.fs = s.fs ∨
      ∃ (delivery : Delivery) (name : String),
        (Http.exchange transport options.followsRedirects options.url).answer =
            .ok (delivery.url, delivery.response) ∧
          delivery.response.refusal? delivery.url = none ∧
          delivery.info.chooseName.1 = .ok name ∧
          Alters (received? delivery.response.bodyItems = some ·) s.fs (name.toList :: above)
            ((run transport options).runOn s).2.fs := by
  rcases running : (run transport options).runOn s with ⟨outcome, s'⟩
  have found := isDirectory_eq_true_iff.mpr offers.stat_eq
  rcases enters_or_same offers.tree proper found into running with
    @⟨delivery, name, hasher, ready, answer, accepted, chooses, isPath, -, -, same, writes⟩ |
      ⟨same, -⟩
  · obtain ⟨isName, notUp⟩ := delivery.info.chooseName_proper chooses
    rw [Path.child_eq_further directory isName] at isPath
    have properPath : (directory.further name.toList).IsProper :=
      Path.isProper_further.mpr ⟨proper, isName⟩
    rw [← same] at offers ⊢
    exact .inr ⟨delivery, name, answer, accepted, chooses,
      writes.alters offers isPath properPath notUp⟩
  · exact .inl same

end Download

end SafeFetch
