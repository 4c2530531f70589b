import SafeFetch.Proofs.Download.Stages
import SafeFetch.Proofs.FileInfo

/-!
# Downloads beside files that are there

A download into a directory that is there. Nothing has to be made on the way to its file, so whether
the file is there can be looked at once and for all: without force, no file is touched that was there
before, whatever becomes of the download. Links may stand anywhere.

## Main definitions

* `FileSystem.KeepsFiles`: all files are still there, as they were;
* `Download.Enters`: a download into a directory comes to writing its file;
* `Download.Puts`: the ways in which it succeeds.

## Main results

* `enters_or_same`: a download into a directory comes to writing its file, or changes nothing;
* `keepsFiles_of_run`: without force it keeps all files that are there;
* `puts_of_run`: if it succeeds, its file is there with the digest that is asked for;
* `Puts.stays` and `Puts.stat_eq`: the directory is still there then, and without force every file.
-/

namespace SafeFetch

/-- The path of a file that is named for its directory leads right into that. -/
theorem FileInfo.parent_child [Platform] {info : FileInfo} {name : String}
    (chooses : info.chooseName.1 = .ok name) (directory : Path) :
    (directory.child name).parent = directory := by
  obtain ⟨isName, -⟩ := info.chooseName_proper chooses
  rw [Path.child_eq_further directory isName, Path.parent_further]

namespace FileSystem

/-- All files of a file system are in another one, as they were. -/
def KeepsFiles (fs fs' : FileSystem) : Prop :=
  ∀ ⦃place : Place⦄ ⦃contents : List UInt8⦄ ⦃modified : Option Int⦄,
    fs.get? place = some (.file contents modified) →
      fs'.get? place = some (.file contents modified)

theorem KeepsFiles.refl (fs : FileSystem) : KeepsFiles fs fs := fun _ _ _ => id

theorem KeepsFiles.trans {fs fs' fs'' : FileSystem} (first : KeepsFiles fs fs')
    (second : KeepsFiles fs' fs'') : KeepsFiles fs fs'' :=
  fun _ _ _ file => second (first file)

/-- Directories that are made leave the files alone. -/
theorem Grows.keepsFiles {fs fs' : FileSystem} {mode : Nat} (grows : Grows mode fs fs') :
    KeepsFiles fs fs' :=
  fun _ _ _ => grows.get?_of_some

/-- Directories that are made bring no file. -/
theorem Grows.keepsFiles_back {fs fs' : FileSystem} {mode : Nat} (grows : Grows mode fs fs') :
    KeepsFiles fs' fs :=
  fun _ _ _ file => grows.get?_of_leaf file nofun

end FileSystem

namespace Download

open SafeFetch.FileSystem SafeFetch.Transfer

variable [Platform] {s s' : Session} {transport : Http.Transport} {options : DownloadOptions}
  {directory : Path} {outcome : Except Failure DownloadResult} {fs' : FileSystem}

/-- The file of a download into a directory gets the name that is chosen for the response. -/
theorem path_of_locate {delivery : Delivery} (proper : directory.IsProper)
    (found : s.fs.isDirectory directory.text = .ok true)
    (into : options.destination = directory.text)
    (locates : (locate transport options).runOn s = (.ok delivery, s')) :
    ∃ name, delivery.info.chooseName.1 = .ok name ∧ delivery.path = directory.child name := by
  obtain ⟨-, -, asked, same, resolves⟩ := deliver_ok (deliver_of_locate locates)
  rw [into] at resolves
  rcases Destination.resolve_ok resolves with ⟨-, -, other⟩ | ⟨name, chooses, isChild⟩
  -- The destination is a directory, so it does not name the file itself.
  · rw [proper.ofText_text, same, found] at other
    cases other
  · rw [proper.ofText_text] at isChild
    exact ⟨name, chooses, isChild⟩

/-- A download into a directory comes to writing its file: nothing had to be made on the way, and
without force the path of the file led nowhere. -/
inductive Enters (transport : Http.Transport) (options : DownloadOptions) (directory : Path)
    (s : Session) (outcome : Except Failure DownloadResult) (fs' : FileSystem) : Prop
  | intro {delivery : Delivery} {name : String} {hasher : Option Hasher} {ready : Session}
      (answer : (Http.exchange transport options.followsRedirects options.url).answer =
        .ok (delivery.url, delivery.response))
      (accepted : delivery.response.refusal? delivery.url = none)
      (chooses : delivery.info.chooseName.1 = .ok name)
      (isPath : delivery.path = directory.child name)
      (free : options.force = false → s.fs.leadsSomewhere delivery.path.text = .ok false)
      (starts : startHasher? options.hasher = .ok hasher)
      (same : ready.fs = s.fs)
      (writes : Writes options delivery hasher ready outcome fs')

/-- A download into a directory comes to writing its file, or changes nothing. If it succeeds
nevertheless, a file was there. -/
theorem enters_or_same (tree : s.fs.IsTree) (proper : directory.IsProper)
    (found : s.fs.isDirectory directory.text = .ok true)
    (into : options.destination = directory.text)
    (run : (run transport options).runOn s = (outcome, s')) :
    Enters transport options directory s outcome s'.fs ∨
      s'.fs = s.fs ∧ ∀ result, outcome = .ok result → ∃ (delivery : Delivery) (name : String),
        (Http.exchange transport options.followsRedirects options.url).answer =
            .ok (delivery.url, delivery.response) ∧
          delivery.response.refusal? delivery.url = none ∧
          delivery.info.chooseName.1 = .ok name ∧ result =
            { path := directory.child name, bytesWritten := 0, digest := none
              isSkipped := true } := by
  cases runs run with
  | unlocated unlocated =>
    have same := leaves_locate transport options s
    rw [unlocated] at same
    exact .inr ⟨same, nofun⟩
  | unclear locates _ => exact .inr ⟨fs_of_locate locates, nofun⟩
  | @skipped delivery _ _ locates _ _ same =>
    obtain ⟨answer, accepted, -⟩ := deliver_ok (deliver_of_locate locates)
    obtain ⟨name, chooses, isPath⟩ := path_of_locate proper found into locates
    refine .inr ⟨same.trans (fs_of_locate locates), ?_⟩
    rintro result isResult
    obtain rfl := Except.ok.inj isResult
    exact ⟨delivery, name, answer, accepted, chooses, by rw [isPath]⟩
  | @completed delivery located _ isThere _ locates looks unskipped completes =>
    obtain ⟨answer, accepted, -⟩ := deliver_ok (deliver_of_locate locates)
    obtain ⟨name, chooses, isPath⟩ := path_of_locate proper found into locates
    have same := fs_of_locate locates
    rw [← same] at tree found ⊢
    obtain ⟨mode, there⟩ := isDirectory_eq_true_iff.mp found
    rw [← FileInfo.parent_child chooses directory, ← isPath] at there
    -- The parent of the file is there, so setting up for it makes no directory.
    rcases complete_cases tree completes with
      ⟨failure, rfl, setsUp⟩ | ⟨hasher, ready, setsUp, writes⟩
    · exact .inr ⟨fs_of_setUp there setsUp, nofun⟩
    · have unchanged := fs_of_setUp there setsUp
      refine .inl ⟨answer, accepted, chooses, isPath, ?_, (setUp_ok setsUp).1,
        unchanged.trans same, writes⟩
      intro unforced
      cases isThere with
      | true => cases unforced.symm.trans (unskipped rfl)
      | false => exact same ▸ looks

omit [Platform] in
/-- A path that leads nowhere opens a free place. -/
theorem get?_of_nowhere {fs : FileSystem} {path : String} {place : Place}
    (opens : Opens fs path place) (nowhere : fs.leadsSomewhere path = .ok false) :
    fs.get? place = none := by
  cases standing : fs.get? place with
  | none => rfl
  | some entry =>
    have leads := opens.spotAt_followsLink
    rw [standing] at leads
    exact absurd (stat_eq_ok_iff.mpr ⟨place, leads⟩) (stat_ne_ok_of_leadsSomewhere nowhere entry)

/-- Without force a download into a directory keeps all files that are there, whatever becomes of
it. -/
theorem keepsFiles_of_run (tree : s.fs.IsTree) (proper : directory.IsProper)
    (found : s.fs.isDirectory directory.text = .ok true)
    (into : options.destination = directory.text) (unforced : options.force = false) :
    KeepsFiles s.fs ((run transport options).runOn s).2.fs := by
  rcases running : (run transport options).runOn s with ⟨outcome, s'⟩
  rcases enters_or_same tree proper found into running with
    ⟨-, -, -, -, free, -, same, writes⟩ | ⟨same, -⟩
  · have nowhere := free unforced
    rw [← same] at tree nowhere ⊢
    rcases writes.cases with ⟨failure, shut, left⟩ | ⟨place, opens, rewrites⟩
    · exact fun _ _ _ => get?_of_shut tree shut left
    -- The place of the new file was free, so the files that were there stand elsewhere.
    · intro other contents modified file
      have isFree := get?_of_nowhere opens nowhere
      have off : other ≠ place := by
        rintro rfl
        cases isFree.symm.trans file
      exact get?_of_rewrites_of_ne rewrites off file
  · rw [same]
    exact .refl s.fs

/-! ## Downloads that succeed -/

/-- How a download into a directory succeeds: it leaves the file at its path alone, or writes it with
the digest that is asked for, without force at a place that was free. -/
inductive Puts (options : DownloadOptions) (fs : FileSystem) (path : Path) :
    DownloadResult → FileSystem → Prop
  | skipped : Puts options fs path
      { path, bytesWritten := 0, digest := none, isSkipped := true } fs
  | written {hasher : Option Hasher} {place : Place} {chunks : List (List UInt8)} {count : Nat}
      {modified : Option Int} {digest : Option (List UInt8)}
      (starts : startHasher? options.hasher = .ok hasher) (opens : Opens fs path.text place)
      (free : options.force = false → fs.get? place = none)
      (digested : digestOf? (hasher.map (hasherAfter · chunks)) = .ok digest)
      (checked : ∀ actual, digest = some actual → ∀ expected, options.expected = some expected →
        expected.decode = .ok actual) :
      Puts options fs path { path, bytesWritten := count, digest, isSkipped := false }
        (fs.put place (.file chunks.flatten modified))

variable {result : DownloadResult} {path : Path}

/-- A download into a directory that succeeds does so in one of these ways, for the name that is
chosen for a successful response. -/
theorem puts_of_run (tree : s.fs.IsTree) (proper : directory.IsProper)
    (found : s.fs.isDirectory directory.text = .ok true)
    (into : options.destination = directory.text)
    (run : (run transport options).runOn s = (.ok result, s')) :
    ∃ (delivery : Delivery) (name : String),
      (Http.exchange transport options.followsRedirects options.url).answer =
          .ok (delivery.url, delivery.response) ∧
        delivery.response.refusal? delivery.url = none ∧ delivery.info.chooseName.1 = .ok name ∧
          Puts options s.fs (directory.child name) result s'.fs := by
  rcases enters_or_same tree proper found into run with
    @⟨delivery, name, _, ready, answer, accepted, chooses, isPath, free, starts, same, writes⟩ |
      ⟨same, skips⟩
  · refine ⟨delivery, name, answer, accepted, chooses, ?_⟩
    rw [← isPath]
    rw [← same] at free ⊢
    -- A result is given only if the file was filled and finished.
    cases writes with
    | filled opens _ _ finishes =>
      generalize s'.fs = after at finishes ⊢
      cases finishes with
      | finished _ digested checked =>
        exact .written starts opens (fun unforced => get?_of_nowhere opens (free unforced)) digested
          checked
  · obtain ⟨delivery, name, answer, accepted, chooses, rfl⟩ := skips result rfl
    rw [same]
    exact ⟨delivery, name, answer, accepted, chooses, .skipped⟩

omit [Platform] in
/-- A directory is still there after a download that succeeds. -/
theorem Puts.stays {fs : FileSystem} {directory : String} (tree : fs.IsTree)
    (found : fs.isDirectory directory = .ok true) (puts : Puts options fs path result fs') :
    fs'.IsTree ∧ fs'.isDirectory directory = .ok true := by
  cases puts with
  | skipped => exact ⟨tree, found⟩
  | @written _ place chunks _ modified _ _ opens =>
    obtain ⟨tree', -, -⟩ := opens.written tree chunks.flatten modified
    exact ⟨tree', isDirectory_elsewhere tree (agreesOff_put fs place _) opens.takes found⟩

omit [Platform] in
/-- Without force a path still leads to its file after a download that succeeds. -/
theorem Puts.stat_eq {fs : FileSystem} {other : String} {contents : List UInt8}
    {modified : Option Int} (tree : fs.IsTree) (unforced : options.force = false)
    (puts : Puts options fs path result fs')
    (there : fs.stat other = .ok (.file contents modified)) :
    fs'.stat other = .ok (.file contents modified) := by
  cases puts with
  | skipped => exact there
  | @written _ place _ _ _ _ _ opens free =>
    obtain ⟨standing, leads⟩ := stat_eq_ok_iff.mp there
    -- The place of the new file was free, so the other one stands elsewhere.
    have off : standing ≠ place := by
      rintro rfl
      cases (free unforced).symm.trans (isIn_of_spotAt tree leads)
    exact stat_eq_ok_iff.mpr
      ⟨standing, spotAt_elsewhere (agreesOff_put fs place _) opens.takes leads off⟩

end Download

end SafeFetch
