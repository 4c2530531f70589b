import SafeFetch.CommandLine.Run
import SafeFetch.Proofs.Checksum
import SafeFetch.Proofs.CommandLine.Arguments
import SafeFetch.Proofs.Download.Directory

/-!
# Files after a run

Where the files come from that are there after a run of the command line, however it ends: a file
was there before, or it stands directly in the directory of the run and holds the whole body of a
successful response, or it is the manifest. A part of a body never stays.

## Main definitions

* `IsProduced`: what a run may leave in a file of its directory;
* `Accounted`: every file was there before or was left by the run.

## Main results

* `Job.leaves_fetchAll` and `Job.leaves_perform`: every step of a run keeps the files accounted for;
* `file_after_run`: where a file comes from that is there after a run.
-/

namespace SafeFetch

open SafeFetch.FileSystem SafeFetch.Transfer

namespace CommandLine

variable {job : Job} {fs fs' : FileSystem} {above place : Place} {name : List Char}
  {contents : List UInt8} {modified : Option Int}

/-- The name of the manifest. -/
def manifestName : List Char := "manifest.json".toList

section

variable [Platform]

/-- What a run may leave in a file of its directory: the whole body of the last response to one of
its URLs, which is a success and gives the file its name, or the manifest, if it is asked for. -/
inductive IsProduced (transport : Http.Transport) (arguments : Arguments) (name : List Char)
    (contents : List UInt8) : Prop
  | body {url : String} {last : Http.Url} {response : Http.Response} (isUrl : url ∈ arguments.urls)
      (answer : (Http.exchange transport true url).answer = .ok (last, response))
      (accepted : Http.Status.isSuccess response.status = true)
      (named : (FileInfo.ofResponse last response.headers).chooseName.1 = .ok (String.ofList name))
      (received : received? response.bodyItems = some contents)
  | manifest (wanted : arguments.manifest = true) (isName : name = manifestName)

/-- The directory of a job is there, and every file was there before the job or was left by it. -/
structure Accounted (job : Job) (above : Place) (fs fs' : FileSystem) : Prop where
  offers : Offers fs' job.directory above
  file {place : Place} {contents : List UInt8} {modified : Option Int} :
    fs'.get? place = some (.file contents modified) →
      fs.get? place = some (.file contents modified) ∨
        ∃ name, place = name :: above ∧
          IsProduced job.surroundings.transport job.arguments name contents

/-- Files stay accounted for when one in the directory is written that may be left there, or
removed. -/
theorem Accounted.alters {before : FileSystem} {isGood : List UInt8 → Prop}
    (accounted : Accounted job above before fs)
    (alters : Alters isGood fs (name :: above) fs')
    (produced : ∀ contents, isGood contents →
      IsProduced job.surroundings.transport job.arguments name contents) :
    Accounted job above before fs' where
  offers := accounted.offers.alters alters
  file {place contents modified} file := by
    rcases alters.file file with earlier | ⟨rfl, good⟩
    · exact accounted.file earlier
    · exact .inr ⟨name, rfl, produced contents good⟩

namespace Job

/-- Steps of a job keep its files accounted for. -/
def Keeps (job : Job) (above : Place) (before fs fs' : FileSystem) : Prop :=
  Accounted job above before fs → Accounted job above before fs'

theorem composes_keeps (job : Job) (above : Place) (before : FileSystem) :
    Action.Composes (job.Keeps above before) :=
  Action.composes_keeps (Accounted job above before)

variable {before : FileSystem} {url : String}

/-- The digest of a file that is already there is computed without a change. -/
theorem leaves_present {R : FileSystem → FileSystem → Prop} (composes : Action.Composes R)
    (job : Job) (path : Path) : Action.Leaves R (job.present path) := by
  rw [present]
  split
  · exact Checksum.leaves_verify composes _ _ _ _
  · exact Checksum.leaves_ofFile composes _ _ _

variable {path : Path} {digest : List UInt8} {s s' : Session}

/-- What is given of a file that is already there is its digest, which is the one of the checksum
unless that is empty. -/
theorem ofFile_of_present (run : (job.present path).runOn s = (.ok digest, s')) :
    (Checksum.ofFile path.text job.hasher job.surroundings.readSize).runOn s =
        (.ok digest, s') ∧
      ∀ digits, job.arguments.checksumDigits? = some digits →
        (Expected.text digits).decode = .ok digest := by
  rw [present] at run
  split at run
  next digits isChecksum =>
    obtain ⟨decoded, computes⟩ := Checksum.ofFile_of_verify run
    refine ⟨computes, ?_⟩
    intro other isOther
    rwa [← Option.some.inj (isChecksum.symm.trans isOther)]
  next isEmpty =>
    refine ⟨run, ?_⟩
    intro other isOther
    cases isEmpty.symm.trans isOther

/-- It is the digest of all bytes of the file, and a read has accepted the size of the pieces. -/
theorem exists_of_present (run : (job.present path).runOn s = (.ok digest, s')) :
    ∃ hasher chunks, job.hasher.start = .ok hasher ∧ s.fs.read path.text = .ok chunks.flatten ∧
      (Download.hasherAfter hasher chunks).digest = .ok digest ∧
      Source.fileFault? job.surroundings.readSize = none ∧
      ∀ digits, job.arguments.checksumDigits? = some digits →
        (Expected.text digits).decode = .ok digest := by
  obtain ⟨computes, isExpected⟩ := ofFile_of_present run
  obtain ⟨hasher, contents, chunks, starts, read, received, digested⟩ := Checksum.ofFile_ok computes
  -- The chunks are all of the file, because a piece has at least one byte.
  have positive : (0 : Int) < job.surroundings.readSize :=
    Int.natCast_pos.mpr job.surroundings.readSize_pos
  obtain ⟨accepted, rfl⟩ := (received?_fileItems_iff positive).mp received
  exact ⟨hasher, chunks, starts, read, digested, accepted, isExpected⟩

/-- The download of a URL keeps the files accounted for. -/
theorem leaves_download (proper : job.directory.IsProper) (isUrl : url ∈ job.arguments.urls) :
    Action.Leaves (job.Keeps above before)
      (Download.run job.surroundings.transport (job.download url)) := by
  intro s accounted
  rcases Download.alters_of_run job.surroundings.transport (job.download url) proper
    accounted.offers rfl with same | ⟨delivery, name, answer, accepted, chooses, alters⟩
  · rw [same]
    exact accounted
  · refine accounted.alters alters fun contents received => ?_
    refine .body isUrl answer ?_ (by rwa [String.ofList_toList]) received
    rw [Http.Response.refusal?] at accepted
    split at accepted
    · assumption
    · cases accepted

/-- Fetching a URL keeps the files accounted for. -/
theorem leaves_fetch (proper : job.directory.IsProper) (isUrl : url ∈ job.arguments.urls) :
    Action.Leaves (job.Keeps above before) (job.fetch url) := by
  have composes := job.composes_keeps above before
  refine .bind composes (leaves_download proper isUrl) fun result => ?_
  dsimp only
  split
  · exact .bind composes (.report composes _ _) fun _ =>
      .bind composes (leaves_present composes job _) fun _ => .pure composes _
  · exact .bind composes (.report composes _ _) fun _ => .pure composes _

/-- Fetching URLs in order keeps the files accounted for. -/
theorem leaves_fetchAll {urls : List String} (proper : job.directory.IsProper)
    (areUrls : ∀ url ∈ urls, url ∈ job.arguments.urls) :
    Action.Leaves (job.Keeps above before) (job.fetchAll urls) := by
  have composes := job.composes_keeps above before
  -- A download that fails ends the run; after any other one the next download starts.
  induction urls with
  | nil => exact .pure composes _
  | cons url rest ih =>
    refine .bind composes (leaves_fetch proper (areUrls url List.mem_cons_self)) fun file => ?_
    refine .bind composes (ih fun other isUrl => ?_) fun files => .pure composes _
    exact areUrls other (List.mem_cons_of_mem _ isUrl)

/-- Writing the manifest keeps the files accounted for. -/
theorem leaves_writeManifest (proper : job.directory.IsProper)
    (files : List (Path × Option String)) :
    Action.Leaves (job.Keeps above before) (job.writeManifest files) := by
  have composes := job.composes_keeps above before
  rw [writeManifest]
  split
  next wanted =>
    refine .bind composes ?_ fun _ => .report composes _ _
    refine .bind composes (.query composes _) fun entries => ?_
    have isName : isPathName manifestName = true := by decide
    have isChild : job.directory.child "manifest.json" = job.directory.further manifestName :=
      Path.child_eq_further job.directory isName
    intro s accounted
    obtain ⟨mode, there⟩ := accounted.offers.stat_eq
    rw [← Path.parent_further job.directory manifestName] at there
    -- The directory is there, so the manifest is written, or no file can be opened.
    simp only [isChild, Action.runOn_bind, Destination.prepare_of_directory there,
      Action.runOn_query]
    rcases opened : s.fs.create (job.directory.further manifestName).text with
      failure | ⟨place, fs⟩
    · exact accounted
    obtain ⟨opens, rfl⟩ := (create_eq_ok_iff accounted.offers.tree).mp opened
    obtain rfl := accounted.offers.place_of_opens
      (Path.isProper_further.mpr ⟨proper, isName⟩) (by decide) opens
    simp only [Action.runOn_modify, store, put_put]
    have written (bytes : List UInt8) : Alters (fun _ => True) s.fs (manifestName :: above)
        (s.fs.put (manifestName :: above) (.file bytes none)) := .written opens.takes trivial
    exact accounted.alters (written _) fun _ _ => .manifest wanted rfl
  next => exact .pure composes ()

/-- All that a job does in its directory keeps the files accounted for. -/
theorem leaves_perform (proper : job.directory.IsProper) :
    Action.Leaves (job.Keeps above before) job.perform :=
  .bind (job.composes_keeps above before) (leaves_fetchAll proper fun _ => id) fun files =>
    leaves_writeManifest proper files

end Job

/-! ## Whole runs -/

omit [Platform] in
/-- The report of a failure changes no file. -/
theorem fs_conclude (outcome : Except Failure Unit × Session) :
    (conclude outcome).2.fs = outcome.2.fs := by
  obtain ⟨failure | _, session⟩ := outcome <;> rfl

/-- A directory that was asked for is offered to what comes after. -/
theorem offers_of_ensure {directory : Path} {session ready : Session} (tree : session.fs.IsTree)
    (unlinked : session.fs.IsUnlinked)
    (ensured : (Destination.ensure directory).runOn session = (.ok (), ready)) :
    ∃ above, Offers ready.fs directory above := by
  have extends' := Destination.leaves_ensure directory session tree
  rw [ensured] at extends'
  obtain ⟨grows, treeReady⟩ := extends'
  obtain ⟨mode, there⟩ := isDirectory_eq_true_iff.mp (Destination.ensure_ok tree ensured)
  obtain ⟨above, found⟩ := stat_eq_ok_iff.mp there
  exact ⟨above, treeReady, unlinked.grow grows, mode, found⟩

/-- A file after a job was there before, or the job has left it in its directory. -/
theorem file_after_job {session : Session} (tree : session.fs.IsTree)
    (unlinked : session.fs.IsUnlinked) (proper : job.directory.IsProper)
    (file : (runJob job session).2.fs.get? place = some (.file contents modified)) :
    session.fs.get? place = some (.file contents modified) ∨
      ∃ name above, place = name :: above ∧ Offers (runJob job session).2.fs job.directory above ∧
        IsProduced job.surroundings.transport job.arguments name contents := by
  have extends' := Destination.leaves_ensure job.directory session tree
  rw [runJob] at file ⊢
  rcases ensured : (Destination.ensure job.directory).runOn session with ⟨failure | _, ready⟩
  · rw [ensured] at file extends'
    simp only [fs_conclude] at file
    exact .inl (extends'.1.get?_of_leaf file (by simp))
  rw [ensured] at file extends'
  simp only [fs_conclude] at file ⊢
  -- The directory is there now; from here on the files are accounted for.
  obtain ⟨above, offers⟩ := offers_of_ensure tree unlinked ensured
  have accounted : Accounted job above session.fs ready.fs :=
    ⟨offers, fun file => .inl (extends'.1.get?_of_leaf file (by simp))⟩
  have after := Job.leaves_perform proper ready accounted
  rcases after.file file with earlier | ⟨name, isBelow, produced⟩
  · exact .inl earlier
  · exact .inr ⟨name, above, isBelow, after.offers, produced⟩

/-- Where a file comes from that is there after a run of the command line, however it ends: it was
there before, or it stands in the directory of the run and holds the whole body of the last response
to one of the URLs, or it is the manifest that was asked for. -/
theorem file_after_run {program : String} {environment : List (String × String)}
    {surroundings : Surroundings} {words : List String} (tree : fs.IsTree)
    (unlinked : fs.IsUnlinked) (settings : surroundings.settings = .ofEnvironment environment)
    (ended : (run program surroundings words fs).2.fs = fs')
    (file : fs'.get? place = some (.file contents modified)) :
    fs.get? place = some (.file contents modified) ∨
      ∃ arguments directory name above,
        parse surroundings.settings words = .run arguments ∧
          arguments.destination = .given directory ∧ place = name :: above ∧
          (∃ mode, fs'.spotAt .followsLink directory.text = .ok (.entry above (.directory mode))) ∧
          IsProduced surroundings.transport arguments name contents := by
  subst ended
  rw [run] at file ⊢
  -- A command line that is not run leaves everything as it was.
  rcases parsed : parse surroundings.settings words with arguments | _ | message
  · rw [parsed] at file
    simp only [runArguments] at file ⊢
    rcases given : arguments.destination with directory | _
    · rw [given] at file
      have proper := isProper_of_parse settings parsed given
      rcases file_after_job tree unlinked proper file with earlier |
        ⟨name, above, isBelow, offers, produced⟩
      · exact .inl earlier
      · exact .inr ⟨arguments, directory, name, above, rfl, given, isBelow, offers.found, produced⟩
    · rw [given] at file
      simp only [fs_conclude] at file
      exact .inl file
  · rw [parsed] at file
    exact .inl file
  · rw [parsed] at file
    exact .inl file

end

/-- A run for one file, on a file system with nothing but a root. -/
theorem file_after_plain_run :
    (FileSystem.empty [] 0o022).IsTree ∧ (FileSystem.empty [] 0o022).IsUnlinked ∧
      ∃ fs', (run "grab" (.ofEnvironment (Download.serving [.chunk [1]]) "" []) ["http://h/a"]
          (.empty [] 0o022)).2.fs = fs' ∧
        fs'.get? ["a".toList, "downloads".toList] = some (.file [1] none) ∧
        ∃ arguments directory name above,
          parse (.ofEnvironment []) ["http://h/a"] = .run arguments ∧
            arguments.destination = .given directory ∧
            ["a".toList, "downloads".toList] = name :: above ∧
            (∃ mode,
              fs'.spotAt .followsLink directory.text = .ok (.entry above (.directory mode))) ∧
            IsProduced (Download.serving [.chunk [1]]) arguments name [1] := by
  have tree := isTree_empty [] 0o022
  have unlinked : (FileSystem.empty [] 0o022).IsUnlinked := by
    intro place target link
    rw [get?_empty] at link
    split at link <;> cases link
  have file : (run "grab" (.ofEnvironment (Download.serving [.chunk [1]]) "" []) ["http://h/a"]
      (.empty [] 0o022)).2.fs.get? ["a".toList, "downloads".toList] =
          some (.file [1] none) := by decide +kernel
  exact ⟨tree, unlinked, _, rfl, file,
    (file_after_run tree unlinked rfl rfl file).resolve_left (by decide)⟩

end CommandLine

end SafeFetch
