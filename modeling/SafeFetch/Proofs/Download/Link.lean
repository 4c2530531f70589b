import SafeFetch.Proofs.Download.Stages
import SafeFetch.Proofs.FileSystem.Below

/-!
# Downloads to links

A download may go to the name of a link: one that dangles, or one that leads to a file that is to be
replaced. Opening the file follows the link, and the clean-up after a failure does not. So a download
that fails takes the link away, and the file that the link led to keeps what was copied until then.

## Main definitions

* `HasFilesOf`: every file of a file system was one of another, with the same contents;
* `Unfilled`: a download comes to filling its file, and that fails.

## Main results

* `fs_of_fill_of_link`: what filling a file through a link leaves if it fails;
* `hasFilesOf_iff_of_link`: when a download that fails leaves no file behind a link;
* `not_hasFilesOf_of_dangling`: a download that leaves one.
-/

namespace SafeFetch

open SafeFetch.FileSystem SafeFetch.Transfer

namespace FileSystem

variable {fs fs' : FileSystem} {path : String} {place linkPlace : Place} {target : List Char}
  {bytes : List UInt8}

/-! ## Links that are removed -/

/-- The link that a path names is removed, whatever it leads to. -/
theorem removeIfPresent_of_link
    (link : fs.spotAt .keepsLink path = .ok (.entry linkPlace (.link target))) :
    fs.removeIfPresent path = .ok (fs.erase linkPlace) := by
  rw [removeIfPresent, remove_eq link (by simp)]

/-- A link stands elsewhere than the file that it leads to. -/
theorem Opens.ne_of_link (opens : Opens fs path place)
    (link : fs.spotAt .keepsLink path = .ok (.entry linkPlace (.link target))) :
    linkPlace ≠ place :=
  opens.takes.ne_of_link (get?_of_spotAt link (by simp))

/-- A link still stands after a file was written through it. -/
theorem Opens.keepsLink_of_store (opens : Opens fs path place)
    (link : fs.spotAt .keepsLink path = .ok (.entry linkPlace (.link target)))
    (bytes : List UInt8) :
    (fs.store place bytes).spotAt .keepsLink path = .ok (.entry linkPlace (.link target)) :=
  spotAt_elsewhere (agreesOff_put fs place _) opens.takes link (opens.ne_of_link link)

/-- A link is named in a directory that is there. -/
theorem stat_parent_of_link {path : Path} (tree : fs.IsTree) (proper : path.IsProper)
    (link : fs.spotAt .keepsLink path.text = .ok (.entry linkPlace (.link target))) :
    ∃ mode, fs.stat path.parent.text = .ok (.directory mode) := by
  by_cases bare : path.names = []
  · -- A path without names leads to a directory.
    obtain ⟨-, leads⟩ := (spotAt_text_iff proper).mp link
    obtain ⟨place, mode, leads'⟩ :=
      @leads_nil fs .keepsLink maxLinks _ (tree.hasDirectory_pathStart path)
    rw [bare] at leads
    cases leads.unique leads'
  · obtain ⟨name, isFurther⟩ := Path.exists_eq_further bare
    rw [isFurther] at link proper
    obtain ⟨directory, mode, -, found, -⟩ := directory_of_further tree proper link
    exact ⟨mode, stat_eq_ok_iff.mpr ⟨directory, found⟩⟩

/-! ## Files from before -/

/-- Every file of the second file system is one of the first, with the same contents. -/
def HasFilesOf (fs fs' : FileSystem) : Prop :=
  ∀ place contents modified, fs'.get? place = some (.file contents modified) →
    ∃ earlier, fs.get? place = some (.file contents earlier)

/-- No file is new where something was taken away. -/
theorem hasFilesOf_erase (fs : FileSystem) (place : Place) : HasFilesOf fs (fs.erase place) := by
  intro other contents modified file
  by_cases same : other = place
  · subst same
    by_cases root : other = []
    · subst root
      cases file
    · cases (get?_erase_self fs root).symm.trans file
  · exact ⟨modified, (get?_erase_of_ne fs same).symm.trans file⟩

/-- Where a file was written and something else was taken away, no file is new if that file was
there with the same contents. -/
theorem hasFilesOf_store_iff (opens : Opens fs path place) (off : linkPlace ≠ place) :
    HasFilesOf fs ((fs.store place bytes).erase linkPlace) ↔
      ∃ earlier, fs.get? place = some (.file bytes earlier) := by
  have more : place ≠ [] := ne_nil_of_not_hasDirectory opens.takes.not_hasDirectory
  have written : ((fs.store place bytes).erase linkPlace).get? place = some (.file bytes none) :=
    (get?_erase_of_ne _ off.symm).trans (get?_put_self fs more _)
  constructor
  · exact fun earlier => earlier place bytes none written
  · rintro ⟨modified, there⟩ other contents modified' file
    by_cases same : other = place
    · subst same
      obtain ⟨rfl, -⟩ := Entry.file.inj (Option.some.inj (written.symm.trans file))
      exact ⟨modified, there⟩
    · -- All other files are those of before.
      obtain ⟨_, stored⟩ := hasFilesOf_erase (fs.store place bytes) linkPlace other contents _ file
      exact ⟨_, (get?_put_of_ne fs same _).symm.trans stored⟩

end FileSystem

namespace Download

variable {s s' : Session} {transport : Http.Transport} {options : DownloadOptions} {path : Path}
  {hasher : Option Hasher} {body : List Item} {failure : Failure} {url : String}
  {delivery : Delivery} {linkPlace : Place} {target : List Char}

section

variable [Platform]

/-! ## Filling a file through a link -/

/-- Filling a file through a link removes the link if it fails: nothing else has changed if no file
was opened, and the file that was opened keeps what was copied. -/
theorem fs_of_fill_of_link (tree : s.fs.IsTree)
    (link : s.fs.spotAt .keepsLink path.text = .ok (.entry linkPlace (.link target)))
    (run : (fill url path hasher body).runOn s = (.error failure, s')) :
    (∃ shut, s.fs.create path.text = .error shut ∧ s'.fs = s.fs.erase linkPlace) ∨
      ∃ place bytes, Opens s.fs path.text place ∧ bytes <+: arriving body ∧
        s'.fs = (s.fs.store place bytes).erase linkPlace := by
  rw [fill, Action.runOn_onFailure, runOn_writeBody] at run
  rcases opened : s.fs.create path.text with shut | ⟨place, fs⟩
  · rw [opened] at run
    simp only [runOn_discard, removeIfPresent_of_link link] at run
    obtain ⟨-, rfl⟩ := Prod.mk.inj run
    exact .inl ⟨shut, rfl, rfl⟩
  · obtain ⟨opens, rfl⟩ := (create_eq_ok_iff tree).mp opened
    obtain ⟨chunks, sink, begins, -⟩ := copy_after (.stream body) (freshSink path hasher) s.signal
    have stored : (s.fs.store place []).store place chunks.flatten =
        s.fs.store place chunks.flatten := put_put s.fs place _ _
    -- What was copied is stored before the clean-up, which finds the link where it was.
    have removes := removeIfPresent_of_link (opens.keepsLink_of_store link chunks.flatten)
    rw [opened] at run
    simp only [copyOf, sink, contentsOf_after, stored] at run
    rcases copied : (copy (.stream body) (freshSink path hasher) s.signal).1 with stopped | count
    · rw [copied] at run
      simp only [Except.map, runOn_discard, removes] at run
      obtain ⟨-, rfl⟩ := Prod.mk.inj run
      exact .inr ⟨place, chunks.flatten, opens, begins, rfl⟩
    · rw [copied] at run
      cases run

/-! ## Downloads that fail -/

/-- A download comes to filling its file, and that fails: the file cannot be opened, or copying the
body into it stops. -/
inductive Unfilled (transport : Http.Transport) (options : DownloadOptions) (s : Session)
    (delivery : Delivery) (failure : Failure) : Prop
  | intro {located ready s' : Session} {isThere : Bool} {hasher : Option Hasher}
      (locates : (locate transport options).runOn s = (.ok delivery, located))
      (looks : located.fs.leadsSomewhere delivery.path.text = .ok isThere)
      (unskipped : isThere = true → options.force = true)
      (setsUp : (setUp options delivery.path).runOn located = (.ok hasher, ready))
      (fails : (fill options.url delivery.path hasher delivery.response.bodyItems).runOn ready =
        (.error failure, s'))

/-- A download that fails through a link leaves what filling the file leaves. -/
theorem Unfilled.run (tree : s.fs.IsTree)
    (unfilled : Unfilled transport options s delivery failure)
    (link : s.fs.spotAt .keepsLink delivery.path.text = .ok (.entry linkPlace (.link target))) :
    ∃ s', (run transport options).runOn s = (.error failure, s') ∧
      ((∃ shut, s.fs.create delivery.path.text = .error shut ∧ s'.fs = s.fs.erase linkPlace) ∨
        ∃ place bytes, Opens s.fs delivery.path.text place ∧
          bytes <+: arriving delivery.response.bodyItems ∧
            s'.fs = (s.fs.store place bytes).erase linkPlace) := by
  obtain @⟨located, ready, s', isThere, hasher, locates, looks, unskipped, setsUp, fails⟩ :=
    unfilled
  have same : located.fs = s.fs := fs_of_locate locates
  -- The link is there, so its directory is, and nothing has to be made for the file.
  have proper := isProper_of_locate locates
  obtain ⟨mode, there⟩ := stat_parent_of_link tree proper link
  rw [← same] at there
  have same : ready.fs = s.fs := (fs_of_setUp there setsUp).trans same
  refine ⟨s', ?_, ?_⟩
  · rw [runOn_run_of_locate locates looks unskipped, runOn_complete_of_setUp setsUp, fails]
  · rw [← same] at tree link ⊢
    exact fs_of_fill_of_link tree link fails

/-- A download that fails through a link takes the link away, and the file that the link led to
holds what was copied. So every file is one from before exactly if this file was there before and
held the very same. -/
theorem hasFilesOf_iff_of_link (tree : s.fs.IsTree)
    (unfilled : Unfilled transport options s delivery failure)
    (link : s.fs.spotAt .keepsLink delivery.path.text = .ok (.entry linkPlace (.link target))) :
    ∃ s', (run transport options).runOn s = (.error failure, s') ∧
      s'.fs.get? linkPlace = none ∧
      (∀ place, Opens s.fs delivery.path.text place →
        ∃ bytes, bytes <+: arriving delivery.response.bodyItems ∧
          s'.fs.get? place = some (.file bytes none)) ∧
      (HasFilesOf s.fs s'.fs ↔ ∀ place, Opens s.fs delivery.path.text place →
        ∃ bytes earlier, s.fs.get? place = some (.file bytes earlier) ∧
          s'.fs.get? place = some (.file bytes none)) := by
  have standing := get?_of_spotAt link (by simp)
  have more : linkPlace ≠ [] :=
    ne_nil_of_not_hasDirectory (not_hasDirectory_of_some standing (by simp))
  obtain ⟨s', runs, ⟨shut, isShut, left⟩ | ⟨place, bytes, opens, begins, left⟩⟩ :=
    unfilled.run tree link
  -- Where no file could be opened, only the link is gone.
  · have unopened (place : Place) : ¬ Opens s.fs delivery.path.text place := fun opens => by
      cases isShut.symm.trans ((create_eq_ok_iff tree).mpr ⟨opens, rfl⟩)
    refine ⟨s', runs, ?_, fun place opens => absurd opens (unopened place), ?_⟩
    · rw [left, get?_erase_self _ more]
    · rw [left]
      exact iff_of_true (hasFilesOf_erase _ _) fun place opens => absurd opens (unopened place)
  -- Otherwise the file behind the link holds what was copied, and the question is what it held before.
  · have off := opens.ne_of_link link
    have written : s'.fs.get? place = some (.file bytes none) := by
      rw [left, get?_erase_of_ne _ off.symm]
      exact (opens.written tree bytes none).2.2
    refine ⟨s', runs, ?_, fun other opens' => ?_, ?_⟩
    · rw [left, get?_erase_self _ more]
    · rw [opens'.unique opens]
      exact ⟨bytes, begins, written⟩
    · rw [left, hasFilesOf_store_iff opens off, ← left]
      constructor
      · rintro ⟨earlier, there⟩ other opens'
        rw [opens'.unique opens]
        exact ⟨bytes, earlier, there, written⟩
      · intro earlier
        obtain ⟨bytes', modified, there, written'⟩ := earlier place opens
        obtain ⟨rfl, -⟩ := Entry.file.inj (Option.some.inj (written.symm.trans written'))
        exact ⟨modified, there⟩

end

/-- A file system with a link that dangles. -/
def dangling : FileSystem := (FileSystem.empty [] 0o022).put ["a".toList] (.link "b".toList)

theorem isTree_dangling : dangling.IsTree :=
  (isTree_empty [] 0o022).put (hasDirectory_nil _) rfl _

/-- A file system with a link to a file. -/
def aliased : FileSystem := dangling.put ["b".toList] (.file [7] (some 0))

theorem isTree_aliased : aliased.IsTree := isTree_dangling.put (hasDirectory_nil _) rfl _

/-- A body that breaks off after one byte. -/
def broken : List Item := [.chunk [1], .fault (.trouble .read "reset")]

/-- A file that was to be replaced through a link is left with the byte that came. -/
theorem hasFilesOf_iff_of_aliased :
    (aliased.IsTree ∧
      Unfilled (serving broken) { plain "a" with force := true } (.start aliased none)
        (served broken (.ofText "a")) (.trouble .read "reset") ∧
      aliased.spotAt .keepsLink (Path.ofText "a").text =
        .ok (.entry ["a".toList] (.link "b".toList))) ∧
    ∃ s', (run (serving broken) { plain "a" with force := true }).runOn (.start aliased none) =
        (.error (.trouble .read "reset"), s') ∧
      s'.fs.get? ["a".toList] = none ∧
      (∀ place, Opens aliased (Path.ofText "a").text place →
        ∃ bytes, bytes <+: arriving broken ∧ s'.fs.get? place = some (.file bytes none)) ∧
      (HasFilesOf aliased s'.fs ↔ ∀ place, Opens aliased (Path.ofText "a").text place →
        ∃ bytes earlier, aliased.get? place = some (.file bytes earlier) ∧
          s'.fs.get? place = some (.file bytes none)) := by
  have unfilled : Unfilled (serving broken) { plain "a" with force := true } (.start aliased none)
      (served broken (.ofText "a")) (.trouble .read "reset") :=
    @Unfilled.intro _ _ _ _ _ _ _ _ _ true _ rfl rfl (fun _ => rfl) rfl rfl
  have link : aliased.spotAt .keepsLink (Path.ofText "a").text =
    .ok (.entry ["a".toList] (.link "b".toList)) := rfl
  exact ⟨⟨isTree_aliased, unfilled, link⟩, hasFilesOf_iff_of_link isTree_aliased unfilled link⟩

/-- A download to a link that dangles makes the file that the link leads to, and when the body breaks
off only the link is removed. -/
theorem not_hasFilesOf_of_dangling :
    dangling.IsTree ∧
      dangling.spotAt .keepsLink (Path.ofText "a").text =
        .ok (.entry ["a".toList] (.link "b".toList)) ∧
      Copies (serving broken) (plain "a") (.start dangling none) (served broken (.ofText "a"))
        (.error (.trouble .read "reset")) ∧
      ∃ s', (run (serving broken) (plain "a")).runOn (.start dangling none) =
          (.error (.trouble .read "reset"), s') ∧
        s'.fs.get? ["b".toList] = some (.file [1] none) ∧ ¬ HasFilesOf dangling s'.fs := by
  have copies : Copies (serving broken) (plain "a") (.start dangling none)
      (served broken (.ofText "a")) (.error (.trouble .read "reset")) :=
    @Copies.intro _ _ _ _ _ _ _ _ false _ _ _ rfl rfl nofun rfl rfl rfl
  refine ⟨isTree_dangling, rfl, copies, _, rfl, rfl, fun earlier => ?_⟩
  obtain ⟨_, there⟩ := earlier ["b".toList] [1] none rfl
  cases (show dangling.get? ["b".toList] = none from rfl).symm.trans there

end Download

end SafeFetch
