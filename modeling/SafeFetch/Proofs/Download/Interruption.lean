import SafeFetch.Proofs.Download.Stages

/-!
# Interrupted downloads

A copy is interrupted by a fault of the body, by the cancel signal or by the hasher. The download
then fails with what stopped the copy, and takes back what it did: nothing is left at the path of
the file, and of everything else at most the directories on the way to it are new.

## Main results

* `run_of_interrupted`: what an interrupted download leaves.
-/

namespace SafeFetch.Download

open SafeFetch.FileSystem SafeFetch.Transfer SafeFetch.Destination

variable {s : Session} {transport : Http.Transport} {options : DownloadOptions} {path : Path}
  {delivery : Delivery} {failure : Failure}

/-- A file system is as it was before a file was asked for at a path: nothing is at the path, and
nothing else has changed, except that directories on the way may have been made. -/
structure IsTakenBack (fs fs' : FileSystem) (path : Path) : Prop where
  home : fs'.workingDirectory = fs.workingDirectory
  umask : fs'.umask = fs.umask
  others : ∃ place, fs'.spotAt .keepsLink path.text = .ok (.vacant place) ∧
    ∀ other, other ≠ place → fs'.get? other = fs.get? other ∨
      fs.get? other = none ∧ other <:+ place ∧
        fs'.get? other = some (.directory (fs.maskedMode directoryMode))

/-- What making ready for a file changes on the way to it, along a path that does not lead up. -/
theorem digs_of_setUp [Platform] {hasher : Option Hasher} {ready : Session} (tree : s.fs.IsTree)
    (proper : path.IsProper) (level : ['.', '.'] ∉ path.names)
    (setsUp : (setUp options path).runOn s = (.ok hasher, ready)) :
    Digs s.fs ready.fs path.parent := by
  obtain ⟨-, prepared, prepares, same⟩ := setUp_ok setsUp
  rw [same]
  exact prepare_digs tree proper level prepares

/-- A file system whose directories were dug differs from what it was on the way down only. -/
theorem others_of_digs {fs fs' : FileSystem} {place : Place} {name : List Char} {spot : Spot}
    {ending : FileSystem.Ending} (tree : fs.IsTree) (tree' : fs'.IsTree)
    (grows : Grows directoryMode fs fs') (proper : (path.further name).IsProper)
    (notUp : name ≠ ['.', '.']) (digs : Digs fs fs' path)
    (found : fs'.spotAt ending (path.further name).text = .ok spot) (isThere : spot.place = place)
    (other : Place) : fs'.get? other = fs.get? other ∨
      fs.get? other = none ∧ other <:+ place ∧
        fs'.get? other = some (.directory (fs.maskedMode directoryMode)) := by
  rcases digs.spot_of_further tree tree' proper notUp found with rfl | ⟨above, rfl, others⟩
  · exact .inl rfl
  obtain rfl := isThere
  rcases others other with same | isAbove
  · exact .inl same
  · exact (grows.get?_eq other).imp id fun ⟨isFree, made⟩ =>
      ⟨isFree, isAbove.trans (List.suffix_cons name above), made⟩

/-- No link stands at the path of a file that was made ready for, if there was none before. -/
theorem unlinked_of_digs {fs fs' : FileSystem} {name : List Char} (tree : fs.IsTree)
    (tree' : fs'.IsTree) (proper : (path.further name).IsProper) (notUp : name ≠ ['.', '.'])
    (digs : Digs fs fs' path)
    (unlinked : ∀ other target,
      fs.spotAt .keepsLink (path.further name).text ≠ .ok (.entry other (.link target)))
    (other : Place) (target : List Char) :
    fs'.spotAt .keepsLink (path.further name).text ≠ .ok (.entry other (.link target)) := by
  intro link
  rcases digs.spot_of_further tree tree' proper notUp link with rfl | ⟨_, vacant, -⟩
  · exact unlinked other target link
  · cases vacant

/-- An interrupted download fails with what stopped the copy, and the file that it opened is
removed. -/
theorem Copies.removed [Platform] (tree : s.fs.IsTree)
    (interrupted : Copies transport options s delivery (.error failure)) :
    ∃ located ready hasher s' place bytes, located.fs = s.fs ∧ delivery.path.IsProper ∧
      (setUp options delivery.path).runOn located = (.ok hasher, ready) ∧ ready.fs.IsTree ∧
        Opens ready.fs delivery.path.text place ∧
          (run transport options).runOn s = (.error failure, s') ∧
            IsRemoved (ready.fs.store place bytes) delivery.path.text place s'.fs := by
  obtain @⟨located, ready, isThere, hasher, _, _, locates, looks, unskipped, setsUp, opened,
    stops⟩ := interrupted
  have same := fs_of_locate locates
  have grown := leaves_setUp options delivery.path located (same ▸ tree)
  rw [setsUp] at grown
  rcases filling : (fill options.url delivery.path hasher delivery.response.bodyItems).runOn ready
    with ⟨outcome, s'⟩
  -- The copy was stopped, so of the ways to fill a file only the interruption is left.
  obtain ⟨place, bytes, opens, rfl, removed⟩ : ∃ place bytes,
      Opens ready.fs delivery.path.text place ∧ outcome = .error failure ∧
        IsRemoved (ready.fs.store place bytes) delivery.path.text place s'.fs := by
    have fills := fills grown.2 filling
    generalize s'.fs = after at fills ⊢
    cases fills with
    | filled _ copied => cases stops.symm.trans copied
    | interrupted opens copied _ removed =>
      exact ⟨_, _, opens, (congrArg Except.error (Except.error.inj (stops.symm.trans copied))).symm,
        removed⟩
    | refused shut => cases opened.symm.trans shut
  refine ⟨located, ready, hasher, s', place, bytes, same, isProper_of_locate locates, setsUp,
    grown.2, opens, ?_, removed⟩
  rw [runOn_run_of_locate locates looks unskipped, runOn_complete_of_setUp setsUp, filling]

/-- An interrupted download fails with what stopped the copy, and takes back what it did. -/
theorem run_of_interrupted [Platform] (tree : s.fs.IsTree)
    (interrupted : Copies transport options s delivery (.error failure))
    (level : ['.', '.'] ∉ delivery.path.names)
    (unlinked : ∀ place target,
      s.fs.spotAt .keepsLink delivery.path.text ≠ .ok (.entry place (.link target))) :
    ∃ s', (run transport options).runOn s = (.error failure, s') ∧
      IsTakenBack s.fs s'.fs delivery.path := by
  obtain ⟨located, ready, hasher, s', place, bytes, same, proper, setsUp, tree', opens, runs,
    removed⟩ := interrupted.removed tree
  refine ⟨s', runs, ?_⟩
  rw [← same] at tree unlinked ⊢
  obtain ⟨grows, -⟩ : Grows directoryMode located.fs ready.fs ∧ _ := by
    have grown := leaves_setUp options delivery.path located tree
    rwa [setsUp] at grown
  have digs := digs_of_setUp tree proper level setsUp
  -- The file stands right below the directory that was made for it.
  obtain ⟨above, name, isFurther, isAbove, notUp⟩ := opens.exists_eq_further tree' level
  rw [isAbove] at digs
  generalize delivery.path = path at *
  subst isFurther
  have unlinked := unlinked_of_digs tree tree' proper notUp digs unlinked
  -- No link names the file, so the file itself was removed, not a link.
  obtain ⟨erased, vacant⟩ := removed.eq_erase tree' opens unlinked
  refine ⟨?_, ?_, place, vacant, fun other off => ?_⟩
  · rw [erased]
    exact grows.home
  · rw [erased]
    exact grows.umask
  · rw [erased, get?_erase_of_ne ready.fs off]
    exact others_of_digs tree tree' grows proper notUp digs opens.found (Spot.place_of place _) other

/-- A body that breaks off leaves no file in a directory that was made for it. -/
theorem run_of_broken_body :
    (FileSystem.empty [] 0o022).IsTree ∧ ['.', '.'] ∉ (Path.ofText "d/out").names ∧
      ∃ s', (run (serving [.chunk [1, 2], .fault (.trouble .read "reset")])
          (plain "d/out")).runOn (.start (.empty [] 0o022) none) =
            (.error (.trouble .read "reset"), s') ∧
        IsTakenBack (.empty [] 0o022) s'.fs (.ofText "d/out") := by
  have interrupted := @Copies.intro _
    (serving [.chunk [1, 2], .fault (.trouble .read "reset")]) (plain "d/out")
    (.start (.empty [] 0o022) none) _ _ _ _ false _ _ _ rfl rfl nofun rfl rfl rfl
  have nowhere : (FileSystem.empty [] 0o022).spotAt .keepsLink (Path.ofText "d/out").text =
    .error (.system .noEntry (some "d/out")) := rfl
  have tree := isTree_empty [] 0o022
  have level : ['.', '.'] ∉ (Path.ofText "d/out").names := by decide
  refine ⟨tree, level, run_of_interrupted tree interrupted level fun place target link => ?_⟩
  cases nowhere.symm.trans link

end SafeFetch.Download
