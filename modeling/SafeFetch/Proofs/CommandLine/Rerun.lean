import SafeFetch.Proofs.CommandLine.Course
import SafeFetch.Proofs.CommandLine.ExitCode

/-!
# Running a command line again

A run without force that ends well has left the file of each of its URLs in the directory, under the
name that is chosen for the response, with the digest that is asked for. No later URL touches it, so
after the run the files of all URLs are there at once. The same run finds them there: it leaves them
alone, whatever links stand in the directory, and computes their digests again. For that it reads
them in pieces of the size that the library was loaded with, so it ends well too if there is room for
such a piece.

## Main definitions

* `Job.Suits`: bytes have a digest, which is the one that is asked for;
* `Job.IsHeld`: the file of a URL is there, and its bytes suit.

## Main results

* `Job.isHeld_of_fetch`: fetching a URL leaves its file there;
* `Job.Visits.isHeld`: fetching several leaves the files of all of them there;
* `Job.perform_of_held`: a job whose files are all there changes nothing;
* `run_again`: a second run ends well and changes nothing.
-/

namespace SafeFetch

open SafeFetch.FileSystem SafeFetch.Transfer

section

variable [Platform]

/-- The body of a response is written only if nobody has set the signal before. -/
theorem Download.not_isRaised_of_complete {options : DownloadOptions} {delivery : Delivery}
    {result : DownloadResult} {s s' : Session} (tree : s.fs.IsTree)
    (run : (complete options delivery).runOn s = (.ok result, s')) : ¬ IsRaised s.signal := by
  intro raised
  rcases complete_cases tree run with ⟨_, failed, -⟩ | ⟨hasher, ready, setsUp, writes⟩
  · cases failed
  · have kept := keeps_setUp Action.isAside_signal options delivery.path s
    rw [setsUp] at kept
    have raisedReady : IsRaised ready.signal := kept ▸ raised
    cases writes with
    | filled _ copied => cases (copy_of_raised raisedReady _ _).symm.trans copied

namespace CommandLine

variable {job : Job} {s s' : Session} {url : String} {urls : List String} {visits : List Visit}
  {file : Path × Option String} {bytes : List UInt8} {fs : FileSystem}

namespace Job

/-! ## Files that are there -/

/-- Bytes have a digest, which is the one of the checksum unless that is empty. -/
def Suits (job : Job) (bytes : List UInt8) : Prop :=
  ∃ digest, job.arguments.HasDigest bytes digest ∧
    ∀ digits, job.arguments.checksumDigits? = some digits → (Expected.text digits).decode = .ok digest

/-- Bytes are accepted if they suit and can be read in pieces of the size in use. -/
theorem accepts_iff : job.Accepts bytes ↔
    Source.fileFault? job.surroundings.readSize = none ∧ job.Suits bytes :=
  Iff.rfl

/-- The file of a URL is there: the server answers with a response that names a file in the
directory, and its bytes have the digest that is asked for. -/
inductive IsHeld (job : Job) (url : String) (fs : FileSystem) : Prop
  | intro {last : Http.Url} {response : Http.Response} {name : String} {bytes : List UInt8}
      {modified : Option Int}
      (answers : Answers job.surroundings.transport url last response name)
      (there : fs.stat (job.directory.child name).text = .ok (.file bytes modified))
      (suits : job.Suits bytes)

/-! ## The first time -/

/-- Nobody interrupts the exchange for a URL that is fetched: the signal would stop the copy of the
body, or of the file that is there. -/
theorem unraised_of_fetch (tree : s.fs.IsTree) (signal : s.signal.isSome = true)
    (fetches : (job.fetch url).runOn s = (.ok file, s')) :
    (Http.exchange job.surroundings.transport true url).isSignalled = false := by
  refine Bool.eq_false_iff.mpr fun interrupted => ?_
  have hashed : (job.download url).hasher.isNone = false := rfl
  have isSignalled : (Http.exchange job.surroundings.transport (job.download url).followsRedirects
      (job.download url).url).isSignalled = true := interrupted
  have raised {delivery : Download.Delivery} {located : Session}
      (locates : (Download.locate job.surroundings.transport (job.download url)).runOn s =
        (.ok delivery, located)) : IsRaised located.signal := by
    obtain ⟨set, isSet⟩ := Option.isSome_iff_exists.mp signal
    have left := @Download.signal_locate _ job.surroundings.transport (job.download url) hashed s
    rw [locates, Download.signalAfter, isSignalled, isSet] at left
    exact ⟨set.setRaised, left, rfl⟩
  obtain ⟨result, loaded, downloads, -, presents⟩ := download_of_fetch fetches
  -- However the download succeeds, a copy comes after the exchange: of the file that is there, for
  -- its digest, or of the body.
  cases Download.runs downloads with
  | skipped locates looks unforced =>
    obtain ⟨_, skips, -, sameSignal⟩ := Download.run_of_skip locates looks unforced
    obtain ⟨-, rfl⟩ := Action.ok_inj downloads skips
    obtain ⟨reported, digest, -, sameSignal', computes⟩ := presents rfl
    refine Checksum.not_isRaised_of_ofFile (ofFile_of_present computes).1 ?_
    exact (sameSignal'.trans sameSignal) ▸ raised locates
  | completed locates _ _ completes =>
    have treeLocated := Download.fs_of_locate locates ▸ tree
    exact Download.not_isRaised_of_complete treeLocated completes (raised locates)

/-- Fetching a URL leaves its file there. -/
theorem isHeld_of_fetch (proper : job.directory.IsProper) (ready : job.IsReady s.fs)
    (signal : s.signal.isSome = true) (fetches : (job.fetch url).runOn s = (.ok file, s')) :
    job.IsHeld url s'.fs := by
  have unraised := unraised_of_fetch ready.tree signal fetches
  obtain ⟨result, loaded, downloads, left, presents⟩ := download_of_fetch fetches
  obtain ⟨delivery, name, answer, accepted, named, puts⟩ :=
    Download.puts_of_run ready.tree proper ready.found rfl downloads
  have answers : Answers job.surroundings.transport url delivery.url delivery.response name :=
    ⟨answer, unraised, accepted, named⟩
  rw [← left] at puts
  generalize s'.fs = after at left puts
  cases puts with
  -- The file that was left alone has been read for its digest.
  | skipped =>
    obtain ⟨reported, digest, same, -, computes⟩ := presents rfl
    obtain ⟨hasher, chunks, starts, read, digested, -, isExpected⟩ := exists_of_present computes
    rw [same, ← left] at read
    obtain ⟨modified, there⟩ := read_eq_ok_iff.mp read
    exact ⟨answers, there, digest, (hasDigest_iff starts).mp digested, isExpected⟩
  -- The file that was written holds the chunks that the digest is of.
  | @written _ place chunks _ modified _ starts opens _ digested checked =>
    obtain ⟨hasher, start, rfl⟩ := map_eq_ok_iff.mp starts
    obtain ⟨digest, given, rfl⟩ := map_eq_ok_iff.mp digested
    obtain ⟨-, opens', there⟩ := opens.written ready.tree chunks.flatten modified
    refine ⟨answers, opens'.stat_eq there, digest, (hasDigest_iff start).mp given, ?_⟩
    intro digits isChecksum
    refine checked digest rfl (.text digits) ?_
    rw [download, expected, Arguments.checksum_of_digits isChecksum]
    rfl

/-- The file of a URL is still there when another one is fetched without force. -/
theorem IsHeld.of_fetch {other : String} (proper : job.directory.IsProper)
    (unforced : job.arguments.force = false) (ready : job.IsReady s.fs)
    (held : job.IsHeld url s.fs) (fetches : (job.fetch other).runOn s = (.ok file, s')) :
    job.IsHeld url s'.fs := by
  obtain ⟨result, loaded, downloads, left, -⟩ := download_of_fetch fetches
  obtain ⟨_, _, -, -, -, puts⟩ := Download.puts_of_run ready.tree proper ready.found rfl downloads
  obtain ⟨answers, there, suits⟩ := held
  rw [left]
  exact ⟨answers, puts.stat_eq ready.tree unforced there, suits⟩

namespace Visits

/-- The file of a URL is still there after others. -/
theorem keepsHeld (proper : job.directory.IsProper) (unforced : job.arguments.force = false)
    (all : job.Visits s visits s') (ready : job.IsReady s.fs) (held : job.IsHeld url s.fs) :
    job.IsHeld url s'.fs := by
  induction all with
  | nil => exact held
  | cons fetches _ ih =>
    exact ih (isReady_of_fetch proper ready fetches) (held.of_fetch proper unforced ready fetches)

/-- Fetching URLs without force leaves the files of all of them there. -/
theorem isHeld (proper : job.directory.IsProper)
    (unforced : job.arguments.force = false) (all : job.Visits s visits s')
    (ready : job.IsReady s.fs) (signal : s.signal.isSome = true) :
    ∀ url ∈ visits.map Visit.url, job.IsHeld url s'.fs := by
  induction all with
  | nil => simp
  | @cons s _ _ visit _ fetches onward ih =>
    have readyNext := isReady_of_fetch proper ready fetches
    have signalNext := isSome_signal_fetch job visit.url s
    rw [fetches, signal] at signalNext
    intro url isUrl
    rcases List.mem_cons.mp isUrl with rfl | isLater
    -- The file of the first URL is kept by all that come after it.
    · have held := isHeld_of_fetch proper ready signal fetches
      exact onward.keepsHeld proper unforced readyNext held
    · exact ih readyNext signalNext url isLater

end Visits

/-! ## The second time -/

/-- Fetching a URL whose file is there changes nothing, and fails only if the file cannot be read in
pieces of the size in use. -/
theorem fetch_of_held {outcome : Except Failure (Path × Option String)}
    (proper : job.directory.IsProper)
    (unforced : job.arguments.force = false) (quiet : IsQuiet s.signal)
    (found : s.fs.isDirectory job.directory.text = .ok true) (held : job.IsHeld url s.fs)
    (run : (job.fetch url).runOn s = (outcome, s')) :
    s'.fs = s.fs ∧ IsQuiet s'.signal ∧
      ((∃ file, outcome = .ok file) ∧
          Source.fileFault? job.surroundings.readSize = none ∨
        (∃ failure, outcome = .error failure ∧ failure.IsPlain) ∧
          Source.fileFault? job.surroundings.readSize ≠ none) := by
  obtain ⟨answers, there, suits⟩ := held
  obtain ⟨same, stays, ends⟩ := fetch_of_present proper quiet found unforced answers
    (read_eq_ok_iff.mpr ⟨_, there⟩) run
  refine ⟨same, stays, ?_⟩
  rw [accepts_iff, and_iff_left suits] at ends
  exact ends.imp (And.imp_left fun ⟨digits, isFile⟩ => ⟨_, isFile⟩) id

/-- A job whose files are all there fetches them without a change, and fails only if they cannot be
read in pieces of the size in use. -/
theorem fetchAll_of_held {outcome : Except Failure (List (Path × Option String))}
    (proper : job.directory.IsProper)
    (unforced : job.arguments.force = false) (quiet : IsQuiet s.signal)
    (found : s.fs.isDirectory job.directory.text = .ok true)
    (held : ∀ url ∈ urls, job.IsHeld url s.fs)
    (run : (job.fetchAll urls).runOn s = (outcome, s')) :
    s'.fs = s.fs ∧
      ((∃ files, outcome = .ok files) ∧
          (urls ≠ [] → Source.fileFault? job.surroundings.readSize = none) ∨
        (∃ failure, outcome = .error failure ∧ failure.IsPlain) ∧
          Source.fileFault? job.surroundings.readSize ≠ none) := by
  -- Each URL finds the files as they were, with nobody having set the signal.
  induction urls generalizing s s' outcome with
  | nil =>
    obtain ⟨rfl, rfl⟩ := Prod.mk.inj run
    exact ⟨rfl, .inl ⟨⟨[], rfl⟩, fun more => absurd rfl more⟩⟩
  | cons url urls ih =>
    rw [fetchAll, Action.runOn_bind] at run
    rcases fetches : (job.fetch url).runOn s with ⟨fetched, between⟩
    obtain ⟨same, stays, ⟨⟨file, rfl⟩, fits⟩ | ⟨⟨failure, rfl, plain⟩, unfit⟩⟩ :=
      fetch_of_held proper unforced quiet found (held url List.mem_cons_self) fetches
    · rw [fetches] at run
      dsimp only at run
      rw [Action.runOn_bind] at run
      rcases others : (job.fetchAll urls).runOn between with ⟨rest, after⟩
      rw [others] at run
      rw [← same] at found held
      obtain ⟨sameAfter, ⟨⟨files, rfl⟩, -⟩ | ⟨-, unfit⟩⟩ :=
        ih stays found (fun url isUrl => held url (List.mem_cons_of_mem _ isUrl)) others
      · obtain ⟨rfl, rfl⟩ := Prod.mk.inj run
        exact ⟨sameAfter.trans same, .inl ⟨⟨_, rfl⟩, fun _ => fits⟩⟩
      · exact absurd fits unfit
    · rw [fetches] at run
      obtain ⟨rfl, rfl⟩ := Prod.mk.inj run
      exact ⟨same, .inr ⟨⟨failure, rfl, plain⟩, unfit⟩⟩

/-- A job that is not asked for a manifest writes none. -/
theorem writeManifest_of_unlisted (unlisted : job.arguments.manifest = false)
    (files : List (Path × Option String)) : job.writeManifest files = pure () := by
  rw [writeManifest, unlisted]
  rfl

/-- A job whose files are all there changes nothing. Its exit code tells whether a file can be read
in pieces of the size in use. -/
theorem perform_of_held (proper : job.directory.IsProper)
    (unforced : job.arguments.force = false) (unlisted : job.arguments.manifest = false)
    (nonempty : job.arguments.urls ≠ []) (quiet : IsQuiet s.signal)
    (found : s.fs.isDirectory job.directory.text = .ok true)
    (held : ∀ url ∈ job.arguments.urls, job.IsHeld url s.fs) :
    (job.perform.runOn s).2.fs = s.fs ∧
      IsVerdict (conclude (job.perform.runOn s)).1
        (Source.fileFault? job.surroundings.readSize = none) := by
  rcases fetches : (job.fetchAll job.arguments.urls).runOn s with ⟨outcome, s'⟩
  obtain ⟨same, ⟨⟨files, rfl⟩, fits⟩ | ⟨⟨failure, rfl, plain⟩, unfit⟩⟩ :=
    fetchAll_of_held proper unforced quiet found held fetches
  · simp only [perform, Action.runOn_bind, fetches, writeManifest_of_unlisted unlisted,
      Action.runOn_pure]
    exact ⟨same, .inl ⟨rfl, fits nonempty⟩⟩
  · simp only [perform, Action.runOn_bind, fetches]
    exact ⟨same, .inr ⟨failureCode_of_isPlain plain, unfit⟩⟩

end Job

/-! ## Whole runs -/

variable {surroundings : Surroundings} {arguments : Arguments} {directory : Path}
  {visits : List Visit} {asked : List String} {last reached : Session}

/-- A directory that is there needs not be made for an attempt. -/
theorem attempt_of_directory (given : arguments.destination = .given directory)
    (found : s.fs.isDirectory directory.text = .ok true) :
    (attempt surroundings arguments).runOn s =
      (Job.perform { surroundings, arguments, directory }).runOn s := by
  simp only [attempt, makeDirectory, given, Action.runOn_bind, Destination.ensure_of_directory found,
    Action.runOn_pure]

/-- An attempt without force and without a manifest that succeeds leaves the files of all its URLs
there. -/
theorem Course.isHeld (tree : fs.IsTree)
    (proper : ∀ directory, arguments.destination = .given directory → directory.IsProper)
    (unforced : arguments.force = false)
    (unlisted : arguments.manifest = false)
    (course : Course surroundings arguments (firstSession fs) visits asked reached (.ok ()) last) :
    ∃ directory, arguments.destination = .given directory ∧
      last.fs.isDirectory directory.text = .ok true ∧
      ∀ url ∈ arguments.urls, Job.IsHeld { surroundings, arguments, directory } url last.fs := by
  cases course with
  | @completed directory ready _ _ _ _ made fetched isUrls lists =>
    have treeStart : (firstSession fs).fs.IsTree := tree
    obtain ⟨given, isReady⟩ := makeDirectory_ok surroundings treeStart made
    -- No manifest is written, so the run ends in the session that the URLs have reached.
    have unwritten := @Job.writeManifest_of_unlisted _ { surroundings, arguments, directory } unlisted
      (visits.map Visit.file)
    rw [unwritten] at lists
    obtain ⟨-, rfl⟩ := Prod.mk.inj lists
    have signal := keeps_makeDirectory Action.isAside_signal arguments (firstSession fs)
    rw [made] at signal
    have isSome : ready.signal.isSome = true := congrArg Option.isSome signal
    have held := fetched.isHeld (proper directory given) unforced isReady isSome
    rw [← isUrls] at held
    exact ⟨directory, given, (fetched.isReady (proper directory given) isReady).found, held⟩

/-- A command line without force and without a manifest that ends well can be run again, if there is
room for a piece of a file: the second run ends well too, and leaves the file system as the first one
has left it. -/
theorem run_again {program : String} {environment : List (String × String)} {words : List String}
    {outcome : Outcome} (tree : fs.IsTree)
    (settings : surroundings.settings = .ofEnvironment environment)
    (roomy : Source.fileFault? surroundings.readSize = none)
    (parsed : parse surroundings.settings words = .run arguments)
    (unforced : arguments.force = false) (unlisted : arguments.manifest = false)
    (ended : run program surroundings words fs = (outcome, s))
    (well : outcome.ending = .returned 0) :
    (run program surroundings words s.fs).1.ending = .returned 0 ∧
      (run program surroundings words s.fs).2.fs = s.fs := by
  have proper (directory : Path) (given : arguments.destination = .given directory) :
      directory.IsProper := isProper_of_parse settings parsed given
  obtain ⟨-, -, -, -, -, nonempty⟩ := exists_of_parse parsed
  -- The first run has left all files there.
  obtain ⟨isCode, isLast⟩ := run_eq_conclude program parsed fs
  rw [ended] at isCode isLast
  rcases attempted : (attempt surroundings arguments).runOn (firstSession fs) with ⟨ending, last⟩
  rw [attempted] at isCode isLast
  obtain rfl := (conclude_iff ending last).1.mp (Ending.returned.inj (isCode.symm.trans well))
  obtain ⟨visits, asked, reached, course⟩ := course_of_attempt attempted
  obtain ⟨directory, given, found, held⟩ := course.isHeld tree proper unforced unlisted
  have left : s.fs = last.fs := congrArg Session.fs isLast
  rw [← left] at found held
  -- The second one finds them.
  obtain ⟨isCode', isLast'⟩ := run_eq_conclude program parsed s.fs
  have attempts := @attempt_of_directory _ (firstSession s.fs) surroundings arguments directory given
    found
  rw [isCode', isLast', fs_conclude, attempts]
  obtain ⟨same, verdict⟩ := @Job.perform_of_held _ { surroundings, arguments, directory }
    (firstSession s.fs) (proper directory given) unforced unlisted nonempty isQuiet_fresh
    found held
  exact ⟨congrArg Ending.returned (verdict.eq_zero_iff.mpr roomy), same⟩

end CommandLine

end

namespace CommandLine

/-! ## Files of one name -/

/-- The words that ask for both files. -/
def plainWords : List String := ["--dest", "out", "http://h/x/a", "http://h/y/a"]

/-- What they ask for. -/
def plainArguments : Arguments where
  urls := ["http://h/x/a", "http://h/y/a"]
  destination := .given (.ofText "out")
  force := false
  algorithm := .given "sha256"
  checksum := none
  manifest := false

/-- A run for both files on a file system with nothing but a root. -/
def runOnce : Outcome × Session := run "grab" namesakeSurroundings plainWords (.empty [] 0o022)

/-- The same run again. -/
def runTwice : Outcome × Session := run "grab" namesakeSurroundings plainWords runOnce.2.fs

/-- A run for both files writes the first of them, and a second run finds it there twice. -/
theorem run_again_of_namesakes :
    (FileSystem.empty [] 0o022).IsTree ∧
      Source.fileFault? namesakeSurroundings.readSize = none ∧
      parse namesakeSurroundings.settings plainWords = .run plainArguments ∧
      plainArguments.force = false ∧ plainArguments.manifest = false ∧
      runOnce.1.ending = .returned 0 ∧
      runOnce.2.fs.get? ["a".toList, "out".toList] = some (.file [1] none) ∧
      runTwice.1.ending = .returned 0 ∧ runTwice.2.fs = runOnce.2.fs := by
  have tree := isTree_empty [] 0o022
  have settings : namesakeSurroundings.settings = .ofEnvironment [] := rfl
  have roomy : Source.fileFault? namesakeSurroundings.readSize = none := by decide +kernel
  have parsed : parse namesakeSurroundings.settings plainWords = .run plainArguments := rfl
  have well : runOnce.1.ending = .returned 0 := by decide +kernel
  obtain ⟨again, same⟩ :=
    run_again tree settings roomy parsed rfl rfl (Prod.eta runOnce).symm well
  rw [runTwice]
  exact ⟨tree, roomy, parsed, rfl, rfl, well, by decide +kernel, again, same⟩

end CommandLine

end SafeFetch
