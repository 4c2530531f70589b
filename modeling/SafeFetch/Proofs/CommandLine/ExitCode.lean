import SafeFetch.Proofs.CommandLine.Presence

/-!
# The exit code of a run for one file

A run for one file with a checksum should end with the same exit code whether the file is already
there or comes from the server: well exactly if the checksum is that of the bytes. Both runs need to
write to the directory, and what is there is read again in pieces of the size that the library was
loaded with. With that granted they agree, unless the checksum is empty: what comes from the server
is compared with it, and what is there is not.

## Main definitions

* `IsVerdict`: an exit code that tells whether a statement holds;
* `Job.CanWrite`: the directory, the file and the manifest of a job can be written.

## Main results

* `code_of_present` and `code_of_absent`: what the exit code of a job tells in either case;
* `exitCode_eq_iff`: when the exit code does not depend on whether the file is there;
* `exitCode_ne_of_empty_checksum`: a run that ends well although its checksum is another one.
-/

namespace SafeFetch.CommandLine

open SafeFetch.FileSystem SafeFetch.Text SafeFetch.Transfer

variable {arguments : Arguments} {job : Job} {s s' : Session} {bytes : List UInt8}
  {url name : String} {last : Http.Url} {response : Http.Response}

/-! ## Verdicts -/

/-- An exit code tells whether a statement holds. -/
def IsVerdict (code : Nat) (statement : Prop) : Prop := code = 0 ∧ statement ∨ code = 1 ∧ ¬ statement

variable {code code' : Nat} {statement statement' : Prop}

/-- The verdict on a statement is the one on an equivalent statement. -/
theorem IsVerdict.of_iff (verdict : IsVerdict code statement) (same : statement ↔ statement') :
    IsVerdict code statement' := by
  rwa [IsVerdict, ← same]

/-- The exit code is zero if the statement holds. -/
theorem IsVerdict.eq_zero_iff (verdict : IsVerdict code statement) : code = 0 ↔ statement := by
  rcases verdict with ⟨rfl, holds⟩ | ⟨rfl, fails⟩
  · exact iff_of_true rfl holds
  · exact iff_of_false Nat.one_ne_zero fails

/-- Two exit codes are the same if their statements are equivalent. -/
theorem IsVerdict.eq_iff (verdict : IsVerdict code statement)
    (verdict' : IsVerdict code' statement') : code = code' ↔ (statement ↔ statement') := by
  rw [← verdict.eq_zero_iff, ← verdict'.eq_zero_iff]
  rcases verdict with ⟨rfl, -⟩ | ⟨rfl, -⟩ <;> rcases verdict' with ⟨rfl, -⟩ | ⟨rfl, -⟩ <;> decide

/-- A failure without a cancellation ends a run with one. -/
theorem failureCode_of_isPlain {failure : Failure} (plain : failure.IsPlain) :
    failureCode failure = 1 :=
  if_neg plain

namespace Job

variable [Platform]

/-! ## The manifest -/

/-- The manifest of a job can be written, if it is asked for. -/
def CanList (job : Job) (fs : FileSystem) : Prop :=
  job.arguments.manifest = true →
    ∃ place, Opens fs (job.directory.child "manifest.json").text place

omit [Platform] in
/-- Writing a file in the directory does not change whether the manifest can be written. -/
theorem canList_put_iff {fs : FileSystem} {path : String} {place : Place} (tree : fs.IsTree)
    (opens : Opens fs path place) (contents : List UInt8) (modified : Option Int) :
    job.CanList (fs.put place (.file contents modified)) ↔ job.CanList fs := by
  simp only [CanList, opens.opens_iff tree contents modified]

/-- Writing the manifest of a file that is there succeeds exactly if it can be written. -/
theorem code_of_writeManifest {file : Path × Option String} {entry : Entry} (tree : s.fs.IsTree)
    (found : s.fs.isDirectory job.directory.text = .ok true)
    (there : s.fs.stat file.1.text = .ok entry) :
    IsVerdict (conclude ((job.writeManifest [file]).runOn s)).1 (job.CanList s.fs) := by
  rw [writeManifest]
  split
  next wanted =>
    have isName : isPathName "manifest.json".toList = true := by decide
    have isParent : (job.directory.child "manifest.json").parent = job.directory := by
      rw [Path.child_eq_further _ isName, Path.parent_further]
    obtain ⟨mode, above⟩ := isDirectory_eq_true_iff.mp found
    rw [← isParent] at above
    have lists : [file].mapM (Manifest.entryOf s.fs job.directory) = .ok [{
        path := (Manifest.shownPath job.directory file.1).text, digest := file.2
        size := some (Manifest.entrySize entry) }] := by
      rw [List.mapM_cons, Manifest.entryOf, Manifest.sizeOf, there]
      rfl
    have opens_iff {place : Place} {fs' : FileSystem} :=
      @create_eq_ok_iff s.fs fs' (job.directory.child "manifest.json").text place tree
    simp only [Manifest.write, Action.runOn_bind, Action.runOn_query, lists,
      Destination.prepare_of_directory above]
    -- The directory is there and the file has a size, so only the place of the manifest is in doubt.
    rcases opened : s.fs.create (job.directory.child "manifest.json").text with
      failure | ⟨place, fs'⟩
    · refine .inr ⟨failureCode_of_isPlain (isAbout_of_create opened).isPlain, fun canList => ?_⟩
      obtain ⟨place, opens⟩ := canList wanted
      cases opened.symm.trans (opens_iff.mpr ⟨opens, rfl⟩)
    · exact .inl ⟨rfl, fun _ => ⟨place, (opens_iff.mp opened).1⟩⟩
  next unwanted => exact .inl ⟨rfl, fun wanted => absurd wanted unwanted⟩

/-! ## The only file -/

/-- A job for one file writes the manifest of it once it is fetched. -/
theorem perform_of_ok {file : Path × Option String} (one : job.arguments.urls = [url])
    (fetches : (job.fetch url).runOn s = (.ok file, s')) :
    job.perform.runOn s = (job.writeManifest [file]).runOn s' := by
  simp only [perform, one, fetchAll, Action.runOn_bind, fetches, Action.runOn_pure]

/-- A job for one file fails if that is not fetched. -/
theorem perform_of_error {failure : Failure} (one : job.arguments.urls = [url])
    (fails : (job.fetch url).runOn s = (.error failure, s')) :
    job.perform.runOn s = (.error failure, s') := by
  simp only [perform, one, fetchAll, Action.runOn_bind, fails]

/-- What the exit code tells of a job whose file is there. -/
theorem code_of_perform_present (tree : s.fs.IsTree) (proper : job.directory.IsProper)
    (quiet : IsQuiet s.signal)
    (found : s.fs.isDirectory job.directory.text = .ok true)
    (unforced : job.arguments.force = false) (one : job.arguments.urls = [url])
    (serves : Serves job.surroundings.transport url last response name bytes)
    (read : s.fs.read (job.directory.child name).text = .ok bytes) :
    IsVerdict (conclude (job.perform.runOn s)).1 (job.Accepts bytes ∧ job.CanList s.fs) := by
  rcases fetches : (job.fetch url).runOn s with ⟨outcome, fetched⟩
  obtain ⟨same, -, ⟨⟨digits, rfl⟩, accepts⟩ | ⟨⟨failure, rfl, plain⟩, unaccepted⟩⟩ :=
    fetch_of_present proper quiet found unforced serves.answers read fetches
  · obtain ⟨modified, there⟩ := read_eq_ok_iff.mp read
    rw [perform_of_ok one fetches, ← same]
    rw [← same] at tree found there
    have verdict := @code_of_writeManifest job fetched _ (job.directory.child name, digits) _ tree
      found there
    exact verdict.of_iff (and_iff_right accepts).symm
  · rw [perform_of_error one fetches]
    exact .inr ⟨failureCode_of_isPlain plain, fun ⟨accepts, _⟩ => unaccepted accepts⟩

/-- What the exit code tells of a job whose file is not there. -/
theorem code_of_perform_absent (tree : s.fs.IsTree) (proper : job.directory.IsProper)
    (quiet : IsQuiet s.signal) (found : s.fs.isDirectory job.directory.text = .ok true)
    (checks : job.arguments.checksum ≠ none) (one : job.arguments.urls = [url])
    (serves : Serves job.surroundings.transport url last response name bytes)
    (absent : s.fs.leadsSomewhere (job.directory.child name).text ≠ .ok true) :
    IsVerdict (conclude (job.perform.runOn s)).1 (job.arguments.Matches bytes ∧
      (∃ place, Opens s.fs (job.directory.child name).text place) ∧ job.CanList s.fs) := by
  rcases fetches : (job.fetch url).runOn s with ⟨outcome, fetched⟩
  rcases fetch_of_absent tree proper quiet found checks serves absent fetches with
    ⟨place, modified, digits, rfl, opens, isMatch, left⟩ | ⟨⟨failure, rfl, plain⟩, mismatch⟩
  -- The directory is still there beside the new file, and the manifest can be written as before.
  · obtain ⟨tree', opens', file⟩ := opens.written tree bytes modified
    have found' := isDirectory_elsewhere tree (agreesOff_put s.fs place (.file bytes modified))
      opens.takes found
    have canList_iff := @canList_put_iff job s.fs _ place tree opens bytes modified
    rw [perform_of_ok one fetches]
    rw [← left] at tree' found' canList_iff opens' file
    have verdict := @code_of_writeManifest job fetched _ (job.directory.child name, digits) _ tree'
      found' (opens'.stat_eq file)
    refine verdict.of_iff ?_
    rw [canList_iff]
    exact ⟨fun canList => ⟨isMatch, ⟨place, opens⟩, canList⟩, fun ⟨_, _, canList⟩ => canList⟩
  · rw [perform_of_error one fetches]
    refine .inr ⟨failureCode_of_isPlain plain, ?_⟩
    rintro ⟨isMatch, ⟨place, opens⟩, -⟩
    exact mismatch place opens isMatch

/-! ## The directory -/

/-- The directory of a job can be made, and a file of a name and the manifest can be written into
it. -/
def CanWrite (job : Job) (name : String) (fs : FileSystem) : Prop :=
  ∃ ready, (Destination.ensure job.directory).runOn (.start fs (some (.fresh none))) =
      (.ok (), ready) ∧
    (∃ place, Opens ready.fs (job.directory.child name).text place) ∧ job.CanList ready.fs

/-- The file of a job is not there, even if its directory is. -/
def IsAbsent (job : Job) (name : String) (fs : FileSystem) : Prop :=
  ∀ ready, (Destination.ensure job.directory).runOn (.start fs (some (.fresh none))) =
      (.ok (), ready) →
    ready.fs.leadsSomewhere (job.directory.child name).text ≠ .ok true

variable {fs : FileSystem}

/-- The exit code of a job that has its directory is the one of what it does there. -/
theorem code_of_ensured {ready : Session}
    (ensures : (Destination.ensure job.directory).runOn s = (.ok (), ready)) :
    (runJob job s).1.exitCode = (conclude (job.perform.runOn ready)).1 := by
  simp only [runJob, ensures]
  rfl

/-- A job whose file is there ends well exactly if the file is accepted and the manifest can be
written. -/
theorem code_of_present (tree : fs.IsTree) (proper : job.directory.IsProper)
    (unforced : job.arguments.force = false) (one : job.arguments.urls = [url])
    (serves : Serves job.surroundings.transport url last response name bytes)
    (read : fs.read (job.directory.child name).text = .ok bytes) :
    IsVerdict (runJob job (.start fs (some (.fresh none)))).1.exitCode
      (job.Accepts bytes ∧ job.CanWrite name fs) := by
  obtain ⟨modified, there⟩ := read_eq_ok_iff.mp read
  have found := isDirectory_parent tree (proper.child name) there
  rw [FileInfo.parent_child serves.named] at found
  have ensures : (Destination.ensure job.directory).runOn (.start fs (some (.fresh none))) =
      (.ok (), .start fs (some (.fresh none))) := Destination.ensure_of_directory found
  rw [code_of_ensured ensures]
  have verdict := code_of_perform_present (s := .start fs (some (.fresh none))) tree proper
    isQuiet_fresh found unforced one serves read
  refine verdict.of_iff (and_congr_right fun _ => ?_)
  constructor
  · intro canList
    obtain ⟨place, leads⟩ := stat_eq_ok_iff.mp there
    exact ⟨_, ensures, ⟨place, opens_of_spotAt tree leads⟩, canList⟩
  · rintro ⟨ready, ensures', -, canList⟩
    obtain ⟨-, rfl⟩ := Action.ok_inj ensures ensures'
    exact canList

/-- A job whose file is not there ends well exactly if the checksum is that of the bytes and the
files can be written. -/
theorem code_of_absent (tree : fs.IsTree) (proper : job.directory.IsProper)
    (checks : job.arguments.checksum ≠ none) (one : job.arguments.urls = [url])
    (serves : Serves job.surroundings.transport url last response name bytes)
    (absent : job.IsAbsent name fs) :
    IsVerdict (runJob job (.start fs (some (.fresh none)))).1.exitCode
      (job.arguments.Matches bytes ∧ job.CanWrite name fs) := by
  rcases ensures : (Destination.ensure job.directory).runOn (.start fs (some (.fresh none))) with
    ⟨failure | _, ready⟩
  · have plain := (Destination.isOnFiles_ensure _).plain ensures
    have code : (runJob job (.start fs (some (.fresh none)))).1.exitCode = failureCode failure := by
      simp only [runJob, ensures]
      rfl
    rw [code]
    refine .inr ⟨failureCode_of_isPlain plain, ?_⟩
    rintro ⟨-, ready', ensures', -⟩
    cases ensures.symm.trans ensures'
  · have extends' := Destination.leaves_ensure job.directory (.start fs (some (.fresh none))) tree
    have quiet := (Destination.isOnFiles_ensure job.directory).keeps Action.isAside_signal
      (.start fs (some (.fresh none)))
    rw [ensures] at extends' quiet
    have found := Destination.ensure_ok tree ensures
    rw [code_of_ensured ensures]
    refine (code_of_perform_absent extends'.2 proper (quiet ▸ isQuiet_fresh) found checks one serves
      (absent ready ensures)).of_iff (and_congr_right fun _ => ?_)
    constructor
    · rintro ⟨opens, canList⟩
      exact ⟨ready, ensures, opens, canList⟩
    · rintro ⟨ready', ensures', opens, canList⟩
      obtain ⟨-, rfl⟩ := Action.ok_inj ensures ensures'
      exact ⟨opens, canList⟩

/-! ## Empty checksums -/

/-- A file that is there is accepted if it can be read and the checksum is the one of its bytes,
unless the checksum is empty. -/
theorem accepts_iff_of_digits {digits : String}
    (isChecksum : job.arguments.checksumDigits? = some digits) :
    job.Accepts bytes ↔ Source.fileFault? job.surroundings.readSize = none ∧
      job.arguments.Matches bytes := by
  have given := Arguments.checksum_of_digits isChecksum
  refine and_congr_right fun _ => exists_congr fun digest => and_congr_right fun _ => ?_
  rw [isChecksum, Arguments.Decodes, given]
  constructor
  · exact fun decodes => ⟨digits, rfl, decodes digits rfl⟩
  · rintro ⟨text, same, decodes⟩ other isOther
    obtain rfl := OptionValue.given.inj (Option.some.inj same)
    obtain rfl := Option.some.inj isOther
    exact decodes

omit [Platform] in
/-- An empty checksum is the one of no bytes, because no digest is empty. -/
theorem not_matches_of_empty (isEmpty : job.arguments.checksumDigits? = none) :
    ¬ job.arguments.Matches bytes := by
  rintro ⟨digest, ⟨_, algorithm, -, -, isDigest⟩, text, given, decodes⟩
  rw [Arguments.checksumDigits?, given] at isEmpty
  dsimp only at isEmpty
  split at isEmpty
  next noText =>
    obtain rfl : text = "" := String.isEmpty_iff.mp noText
    obtain rfl : [] = digest := Except.ok.inj decodes
    exact Algorithm.ne_nil_of_digest isDigest rfl
  · cases isEmpty

end Job

/-! ## Whole runs -/

/-- When the exit code of a run for one file with a checksum is the same whether the file is there or
comes from the server, and tells whether the checksum is that of the bytes. If it is, the files must
be written in either case and the one that is there be read again. If the checksum is empty, the file
that is there must not be accepted. -/
theorem exitCode_eq_iff [Platform] {program : String} {environment : List (String × String)}
    {words : List String} {fs₀ fs₁ : FileSystem}
    (settings : job.surroundings.settings = .ofEnvironment environment)
    (parsed : parse job.surroundings.settings words = .run job.arguments)
    (given : job.arguments.destination = .given job.directory)
    (one : job.arguments.urls = [url]) (unforced : job.arguments.force = false)
    (checks : job.arguments.checksum ≠ none)
    (serves : Serves job.surroundings.transport url last response name bytes)
    (tree₀ : fs₀.IsTree) (absent : job.IsAbsent name fs₀) (tree₁ : fs₁.IsTree)
    (present : fs₁.read (job.directory.child name).text = .ok bytes) :
    ((run program job.surroundings words fs₀).1.exitCode =
          (run program job.surroundings words fs₁).1.exitCode ∧
        ((run program job.surroundings words fs₀).1.exitCode = 0 ↔
          job.arguments.Matches bytes)) ↔
      (job.arguments.Matches bytes →
          Source.fileFault? job.surroundings.readSize = none ∧
            job.CanWrite name fs₀ ∧ job.CanWrite name fs₁) ∧
        (job.arguments.checksumDigits? = none →
          ¬ (job.Accepts bytes ∧ job.CanWrite name fs₁)) := by
  have isRun (fs : FileSystem) : (run program job.surroundings words fs).1 =
      (runJob job (.start fs (some (.fresh none)))).1 := by
    simp only [run, parsed, runArguments, given]
  have proper := isProper_of_parse settings parsed given
  have verdict₀ := Job.code_of_absent tree₀ proper checks one serves absent
  have verdict₁ := Job.code_of_present tree₁ proper unforced one serves present
  -- What is left is about the statements that the two verdicts are on.
  rw [isRun, isRun, verdict₀.eq_iff verdict₁, verdict₀.eq_zero_iff]
  -- Only an empty checksum is treated in two ways.
  cases digits : job.arguments.checksumDigits? with
  | some text =>
    have accepts_iff := @Job.accepts_iff_of_digits job bytes _ text digits
    grind
  | none =>
    have mismatch := @Job.not_matches_of_empty job bytes digits
    grind

/-! ## One byte -/

/-- A job for a file of one byte with a checksum. -/
def byteJob (digits : String) : Job where
  surroundings := .ofEnvironment (Download.serving [.chunk [1]]) "" []
  arguments := {
    urls := ["http://h/a"], destination := .given (.ofText "."), force := false
    algorithm := .given "md5", checksum := some (.given digits), manifest := false }
  directory := .ofText "."

/-- The words that ask for it. -/
def byteWords (digits : String) : List String :=
  ["--checksum", digits, "--algorithm", "md5", "--dest", ".", "http://h/a"]

/-- The digits of the byte. -/
def byteDigits : String := "55a54008ad1ba589aa210d2629c1df41"

/-- What the server sends. -/
def byteDelivery : Download.Delivery := Download.served [.chunk [1]] (.ofText "a")

/-- It is the byte. -/
theorem serves_byte : Serves (Download.serving [.chunk [1]]) "http://h/a" byteDelivery.url
    byteDelivery.response "a" [1] where
  answer := Action.eq_ok_of_toOption (by decide +kernel)
  unraised := by decide +kernel
  accepted := rfl
  named := rfl
  undated := rfl
  received := rfl
  unsignalled := by decide

/-- A file system with nothing but a root. -/
def bare : FileSystem := .empty [] 0o022

/-- The same with the file. -/
def withByte : FileSystem := bare.put ["a".toList] (.file [1] none)

theorem isTree_bare : bare.IsTree := isTree_empty [] 0o022

theorem isTree_withByte : withByte.IsTree :=
  isTree_bare.put (hasDirectory_nil bare) rfl _

/-- Its directory needs not be made. -/
theorem ensure_byteJob {digits : String} {fs : FileSystem} (found : fs.isDirectory "." = .ok true) :
    (Destination.ensure (byteJob digits).directory).runOn (.start fs (some (.fresh none))) =
      (.ok (), .start fs (some (.fresh none))) :=
  Destination.ensure_of_directory found

/-- Its file can be written. -/
theorem canWrite_byteJob {digits : String} {fs fs' : FileSystem} {place : Place} (tree : fs.IsTree)
    (found : fs.isDirectory "." = .ok true) (created : fs.create "a" = .ok (place, fs')) :
    (byteJob digits).CanWrite "a" fs :=
  ⟨_, ensure_byteJob found, ⟨place, ((create_eq_ok_iff tree).mp created).1⟩, nofun⟩

/-- With the file or without it, a run for the byte ends well if its digits are given. -/
theorem exitCode_eq_of_digits :
    (byteJob byteDigits).surroundings.settings = .ofEnvironment [] ∧
      parse (byteJob byteDigits).surroundings.settings (byteWords byteDigits) =
        .run (byteJob byteDigits).arguments ∧
      bare.IsTree ∧ (byteJob byteDigits).IsAbsent "a" bare ∧ withByte.IsTree ∧
      withByte.read "a" = .ok [1] ∧ (byteJob byteDigits).arguments.Matches [1] ∧
      (run "grab" (byteJob byteDigits).surroundings (byteWords byteDigits) bare).1.exitCode =
        (run "grab" (byteJob byteDigits).surroundings (byteWords byteDigits)
          withByte).1.exitCode ∧
      ((run "grab" (byteJob byteDigits).surroundings (byteWords byteDigits) bare).1.exitCode = 0 ↔
        (byteJob byteDigits).arguments.Matches [1]) := by
  have parsed : parse (byteJob byteDigits).surroundings.settings (byteWords byteDigits) =
      .run (byteJob byteDigits).arguments := rfl
  have read : withByte.read "a" = .ok [1] := rfl
  have absent : (byteJob byteDigits).IsAbsent "a" bare := by
    intro ready ensures there
    obtain ⟨-, rfl⟩ := Action.ok_inj (ensure_byteJob rfl) ensures
    cases there
  have isMatch : (byteJob byteDigits).arguments.Matches [1] :=
    ⟨Digest.Md5.digest [1], ⟨"md5", .md5, rfl, Action.eq_ok_of_toOption (by decide +kernel), rfl⟩,
      byteDigits, rfl, Action.eq_ok_of_toOption (by decide +kernel)⟩
  refine ⟨rfl, parsed, isTree_bare, absent, isTree_withByte, read, isMatch, ?_⟩
  refine (exitCode_eq_iff rfl parsed rfl rfl rfl nofun serves_byte isTree_bare absent
    isTree_withByte read).mpr ⟨fun _ => ⟨by decide +kernel, ?_, ?_⟩, fun isEmpty => ?_⟩
  · exact canWrite_byteJob isTree_bare rfl rfl
  · exact canWrite_byteJob isTree_withByte rfl rfl
  · cases isEmpty

/-- If the digits are left empty, the run ends well with the file that is there, though not without
it. -/
theorem exitCode_ne_of_empty_checksum :
    parse (byteJob "").surroundings.settings (byteWords "") = .run (byteJob "").arguments ∧
      ¬ (byteJob "").arguments.Matches [1] ∧
      withByte.read "a" = .ok [1] ∧ bare.read "a" ≠ .ok [1] ∧
      (run "grab" (byteJob "").surroundings (byteWords "") withByte).1.exitCode = 0 ∧
      (run "grab" (byteJob "").surroundings (byteWords "") bare).1.exitCode = 1 :=
  ⟨rfl, Job.not_matches_of_empty rfl, rfl, nofun, by decide +kernel, by decide +kernel⟩

end SafeFetch.CommandLine
