import SafeFetch.Proofs.Cancellation
import SafeFetch.Proofs.CommandLine.Manifest
import SafeFetch.Proofs.CommandLine.Visits

/-!
# The course of a run

What a run does from its start to its end. It makes its directory, fetches its URLs in the order of
the command line, and writes the manifest if all of them were fetched. The first failure ends it, so
no server is asked for a later URL, and no manifest is written. The exit code tells a cancellation
from any other failure. Without force the URLs leave alone every file that is there when their turn
comes, be it from before the run or from an earlier URL.

## Main definitions

* `attempt`: what a run tries to do;
* `Course`: how far it gets, and how it ends;
* `Completes`: everything that it is asked for can be done.

## Main results

* `course_of_attempt` and `Course.runOn_attempt`: the course of a run is that of its attempt;
* `Course.requests_eq`: the servers were asked for the URLs up to the one that failed;
* `Course.keepsFiles`: without force the URLs keep all files;
* `Course.lists`: a manifest that was written lists the files of all URLs;
* `course_of_run`: all of this for every command line that is run.
-/

namespace SafeFetch.CommandLine

open SafeFetch.FileSystem SafeFetch.Text SafeFetch.Transfer

variable {surroundings : Surroundings} {arguments : Arguments} {directory : Path}
  {s ready reached last between : Session} {visits earlier later : List Visit}
  {asked : List String} {ending : Except Failure Unit}

/-! ## Attempts -/

/-- The session that a run starts with. -/
def firstSession (fs : FileSystem) : Session := .start fs (some (.fresh none))

section

variable [Platform]

/-- Make the directory that is asked for. -/
def makeDirectory (arguments : Arguments) : Action Path :=
  match arguments.destination with
  | .given directory => do
    Destination.ensure directory
    return directory
  | .withheld => throw (.valueWithheld "mkdir")

/-- What a run tries to do. -/
def attempt (surroundings : Surroundings) (arguments : Arguments) : Action Unit := do
  let directory ← makeDirectory arguments
  Job.perform { surroundings, arguments, directory }

/-- A run ends with the exit code of its attempt, and leaves what that has left. -/
theorem run_eq_conclude {words : List String} (program : String)
    (parsed : parse surroundings.settings words = .run arguments) (fs : FileSystem) :
    let concluded := conclude ((attempt surroundings arguments).runOn (firstSession fs))
    (run program surroundings words fs).1.ending = .returned concluded.1 ∧
      (run program surroundings words fs).2 = concluded.2 := by
  rw [run]
  dsimp only
  rw [parsed]
  dsimp only
  rw [runArguments, attempt, makeDirectory]
  cases arguments.destination with
  | withheld => exact ⟨rfl, rfl⟩
  | given directory =>
    dsimp only
    -- A failure over the directory is concluded like one over the job.
    rw [runJob, Action.runOn_bind, Action.runOn_bind]
    rw [show Session.start fs (some (.fresh none)) = firstSession fs from rfl]
    rcases (Destination.ensure directory).runOn (firstSession fs) with ⟨failure | _, ready⟩
    · exact ⟨rfl, rfl⟩
    · exact ⟨rfl, rfl⟩

/-- A directory that was made is the one that was asked for, and is there. -/
theorem makeDirectory_ok (surroundings : Surroundings) (tree : s.fs.IsTree)
    (made : (makeDirectory arguments).runOn s = (.ok directory, ready)) :
    arguments.destination = .given directory ∧
      Job.IsReady { surroundings, arguments, directory } ready.fs := by
  rw [makeDirectory] at made
  cases given : arguments.destination with
  | withheld =>
    rw [given] at made
    cases made
  | given other =>
    rw [given] at made
    obtain ⟨_, ensured, ensures, made⟩ := Action.runOn_bind_eq_ok.mp made
    obtain ⟨same, rfl⟩ := Prod.mk.inj made
    obtain rfl := Except.ok.inj same
    have extends' := Destination.leaves_ensure other s tree
    rw [ensures] at extends'
    exact ⟨rfl, extends'.2, Destination.ensure_ok tree ensures⟩

/-- A directory that could not be made leaves all files alone. -/
theorem keepsFiles_makeDirectory (tree : s.fs.IsTree) (arguments : Arguments) :
    KeepsFiles s.fs ((makeDirectory arguments).runOn s).2.fs := by
  rw [makeDirectory]
  cases arguments.destination with
  | withheld => exact .refl s.fs
  | given directory =>
    have composes := Destination.composes_extends Destination.openMode
    have leaves : Action.Leaves (Destination.Extends Destination.openMode) (do
        Destination.ensure directory
        return directory) :=
      .bind composes (Destination.leaves_ensure directory) fun _ => .pure composes _
    exact (leaves s tree).1.keepsFiles

/-- Making a directory asks no server, and looks at no signal. -/
theorem keeps_makeDirectory {β : Type} {view : Session → β} (aside : Action.IsAside view)
    (arguments : Arguments) : Action.Keeps view (makeDirectory arguments) := by
  rw [makeDirectory]
  cases arguments.destination with
  | withheld => exact .throw _ _
  | given directory =>
    exact .bind ((Destination.isOnFiles_ensure directory).keeps aside) fun _ => .pure _ _

/-! ## Courses -/

/-- The course of a run: the URLs that were fetched, those that a server was asked for, the session
that the URLs have reached, how the run ends, and its last session. -/
inductive Course (surroundings : Surroundings) (arguments : Arguments) (s : Session) :
    List Visit → List String → Session → Except Failure Unit → Session → Prop
  /-- The directory cannot be made. -/
  | unmade {failure : Failure} {reached : Session}
      (unmade : (makeDirectory arguments).runOn s = (.error failure, reached)) :
      Course surroundings arguments s [] [] reached (.error failure) reached
  /-- A URL fails, and nothing is done after it. -/
  | stopped {directory : Path} {ready between reached : Session} {visits : List Visit}
      {url : String} {rest : List String} {failure : Failure}
      (made : (makeDirectory arguments).runOn s = (.ok directory, ready))
      (fetched : Job.Visits { surroundings, arguments, directory } ready visits between)
      (isUrls : arguments.urls = visits.map Visit.url ++ url :: rest)
      (fails : (Job.fetch { surroundings, arguments, directory } url).runOn between =
        (.error failure, reached)) :
      Course surroundings arguments s visits (visits.map Visit.url ++ [url]) reached
        (.error failure) reached
  /-- All URLs are fetched, and the manifest is written if it is asked for. -/
  | completed {directory : Path} {ready reached last : Session} {visits : List Visit}
      {ending : Except Failure Unit}
      (made : (makeDirectory arguments).runOn s = (.ok directory, ready))
      (fetched : Job.Visits { surroundings, arguments, directory } ready visits reached)
      (isUrls : arguments.urls = visits.map Visit.url)
      (lists : (Job.writeManifest { surroundings, arguments, directory }
        (visits.map Visit.file)).runOn reached = (ending, last)) :
      Course surroundings arguments s visits arguments.urls reached ending last

/-- The directory can be made, all URLs can be fetched in order, and the manifest can be written if
it is asked for. -/
def Completes (surroundings : Surroundings) (arguments : Arguments) (s : Session) : Prop :=
  ∃ directory ready visits reached last,
    (makeDirectory arguments).runOn s = (.ok directory, ready) ∧
      Job.Visits { surroundings, arguments, directory } ready visits reached ∧
      arguments.urls = visits.map Visit.url ∧
      (Job.writeManifest { surroundings, arguments, directory }
        (visits.map Visit.file)).runOn reached = (.ok (), last)

/-- Every attempt has a course. -/
theorem course_of_attempt (run : (attempt surroundings arguments).runOn s = (ending, last)) :
    ∃ visits asked reached, Course surroundings arguments s visits asked reached ending last := by
  rw [attempt, Action.runOn_bind] at run
  -- The cases are the ends of the three parts: the directory, the URLs and the manifest.
  rcases made : (makeDirectory arguments).runOn s with ⟨failure | directory, ready⟩
  · rw [made] at run
    obtain ⟨rfl, rfl⟩ := Prod.mk.inj run
    exact ⟨[], [], ready, .unmade made⟩
  rw [made] at run
  dsimp only at run
  rw [Job.perform, Action.runOn_bind] at run
  rcases fetches : (Job.fetchAll { surroundings, arguments, directory } arguments.urls).runOn ready
    with ⟨outcome, reached⟩
  rw [fetches] at run
  rcases Job.fetchAll_cases fetches with ⟨visits, fetched, isUrls, rfl⟩ |
    ⟨visits, url, rest, between, failure, fetched, isUrls, fails, rfl⟩
  · exact ⟨visits, _, reached, .completed made fetched isUrls run⟩
  · obtain ⟨rfl, rfl⟩ := Prod.mk.inj run
    exact ⟨visits, _, reached, .stopped made fetched isUrls fails⟩

namespace Course

/-- A course is that of the attempt. -/
theorem runOn_attempt (course : Course surroundings arguments s visits asked reached ending last) :
    (attempt surroundings arguments).runOn s = (ending, last) := by
  cases course with
  | unmade unmade => simp only [attempt, Action.runOn_bind, unmade]
  | stopped made fetched isUrls fails =>
    have all := isUrls ▸ fetched.runOn_fetchAll_of_error fails _
    simp only [attempt, Job.perform, Action.runOn_bind, made, all]
  | completed made fetched isUrls lists =>
    have all := fetched.runOn_fetchAll
    rw [← isUrls] at all
    simp only [attempt, Job.perform, Action.runOn_bind, made, all, lists]

/-- A course ends without a failure exactly if everything can be done. -/
theorem ending_eq_ok_iff
    (course : Course surroundings arguments s visits asked reached ending last) :
    ending = .ok () ↔ Completes surroundings arguments s := by
  constructor
  · rintro rfl
    cases course with
    | completed made fetched isUrls lists => exact ⟨_, _, _, _, _, made, fetched, isUrls, lists⟩
  · rintro ⟨directory, ready, visits', reached', last', made, fetched, isUrls, lists⟩
    -- This is a course as well, and an attempt has one ending.
    have other := (Course.completed made fetched isUrls lists).runOn_attempt
    exact (Prod.mk.inj (course.runOn_attempt.symm.trans other)).1

/-- Nothing is done after a URL that fails. No manifest is written then. -/
theorem last_eq_reached (course : Course surroundings arguments s visits asked reached ending last)
    (unfinished : visits.map Visit.url ≠ arguments.urls) : last = reached := by
  cases course with
  | unmade => rfl
  | stopped => rfl
  | completed _ _ isUrls => exact absurd isUrls.symm unfinished

/-- The servers were asked for the URLs up to the one that failed, in order. -/
theorem requests_eq (course : Course surroundings arguments s visits asked reached ending last) :
    last.requests = (asked.flatMap (requestsOf surroundings.transport)).reverse ++ s.requests := by
  have making := keeps_makeDirectory Action.isAside_requests arguments s
  cases course with
  | unmade unmade =>
    rw [unmade] at making
    exact making
  | @stopped directory ready between _ _ url _ _ made fetched _ fails =>
    have here := Job.requests_fetch { surroundings, arguments, directory } url between
    rw [made] at making
    rw [fails, fetched.requests_eq] at here
    -- The URL that failed was asked for after those that were fetched.
    change ready.requests = s.requests at making
    rw [making] at here
    refine here.trans ?_
    simp
  | @completed directory ready _ _ _ _ made fetched isUrls lists =>
    have here := Job.keeps_writeManifest { surroundings, arguments, directory }
      (visits.map Visit.file) reached
    rw [made] at making
    rw [lists] at here
    change ready.requests = s.requests at making
    rw [isUrls, ← making]
    exact here.trans fetched.requests_eq

/-- Without force no file is touched that was there when the URLs after it had their turn. -/
theorem keepsFiles_of_earlier (tree : s.fs.IsTree) (proper : directory.IsProper)
    (unforced : arguments.force = false)
    (course : Course surroundings arguments s visits asked reached ending last)
    (isAll : visits = earlier ++ later)
    (made : (makeDirectory arguments).runOn s = (.ok directory, ready))
    (first : Job.Visits { surroundings, arguments, directory } ready earlier between) :
    KeepsFiles between.fs reached.fs := by
  obtain ⟨-, isReady⟩ := makeDirectory_ok surroundings tree made
  cases course with
  | unmade unmade => cases made.symm.trans unmade
  | @stopped _ _ last _ _ url _ _ made' fetched _ fails =>
    obtain ⟨rfl, rfl⟩ := Action.ok_inj made made'
    rw [isAll] at fetched
    -- What is left of the chain begins where the earlier URLs end, and then the last one fails.
    have onward := fetched.of_append first
    have readyBetween := first.isReady proper isReady
    have kept := Job.keepsFiles_of_fetch proper unforced (onward.isReady proper readyBetween) url
    rw [fails] at kept
    exact (onward.keepsFiles proper unforced readyBetween).trans kept
  | completed made' fetched =>
    obtain ⟨rfl, rfl⟩ := Action.ok_inj made made'
    rw [isAll] at fetched
    exact (fetched.of_append first).keepsFiles proper unforced (first.isReady proper isReady)

/-- Without force the URLs keep all files that were there from the start. -/
theorem keepsFiles (tree : s.fs.IsTree)
    (proper : ∀ directory, arguments.destination = .given directory → directory.IsProper)
    (unforced : arguments.force = false)
    (course : Course surroundings arguments s visits asked reached ending last) :
    KeepsFiles s.fs reached.fs := by
  have making := keepsFiles_makeDirectory tree arguments
  rcases made : (makeDirectory arguments).runOn s with ⟨failure | directory, ready⟩
  · rw [made] at making
    cases course with
    | unmade unmade =>
      obtain ⟨-, rfl⟩ := Prod.mk.inj (made.symm.trans unmade)
      exact making
    | stopped made' => cases made.symm.trans made'
    | completed made' => cases made.symm.trans made'
  -- A chain of no URLs leaves the directory just made.
  · obtain ⟨given, -⟩ := makeDirectory_ok surroundings tree made
    rw [made] at making
    exact making.trans (course.keepsFiles_of_earlier tree (proper directory given) unforced
      (List.nil_append visits).symm made (.nil ready))

/-- A manifest that was written lists the files of all URLs in order, with their digests. -/
theorem lists (tree : s.fs.IsTree)
    (proper : ∀ directory, arguments.destination = .given directory → directory.IsProper)
    (nonempty : arguments.urls ≠ []) (wanted : arguments.manifest = true)
    (course : Course surroundings arguments s visits asked reached (.ok ()) last) :
    ∃ (directory : Path) (m : Manifest), arguments.destination = .given directory ∧
      last.fs.read (directory.child "manifest.json").text = .ok (Utf8.encode m.text.toList) ∧
        m.sources = arguments.urls ∧ visits.map Visit.url = arguments.urls ∧
        m.files.map (fun entry => (entry.path, entry.digest)) =
          visits.map fun visit =>
            ((Manifest.shownPath directory visit.file.1).text, visit.file.2) := by
  cases course with
  | @completed directory _ _ _ _ _ made fetched isUrls written =>
    obtain ⟨given, isReady⟩ := makeDirectory_ok surroundings tree made
    obtain ⟨treeReached, found⟩ := fetched.isReady (proper directory given) isReady
    obtain ⟨entries, place, listed, opens, left⟩ :=
      Job.writeManifest_writes treeReached found wanted written
    obtain ⟨-, opens', file⟩ := opens.written treeReached
      (Utf8.encode (Job.manifestOf { surroundings, arguments, directory } entries).text.toList) none
    -- Nothing comes after the manifest, so it is still there as it was written.
    refine ⟨directory, Job.manifestOf { surroundings, arguments, directory } entries, given, ?_, ?_,
      isUrls.symm, ?_⟩
    · rw [left]
      exact read_eq_ok_iff.mpr ⟨none, opens'.stat_eq file⟩
    · exact if_neg (by simpa using nonempty)
    · exact (Manifest.map_of_mapM_entryOf listed).trans (List.map_map ..)

end Course

/-! ## Exit codes -/

omit [Platform] in
/-- What the exit code tells of the end of a run. -/
theorem conclude_iff (ending : Except Failure Unit) (s : Session) :
    ((conclude (ending, s)).1 = 0 ↔ ending = .ok ()) ∧
      ((conclude (ending, s)).1 = 130 ↔ ∃ written, ending = .error (.cancelled written)) ∧
      ((conclude (ending, s)).1 = 1 ↔ ∃ failure, ending = .error failure ∧
        ∀ written, failure ≠ .cancelled written) := by
  cases ending with
  | ok a => exact ⟨iff_of_true rfl rfl, by simp [conclude], by simp [conclude]⟩
  | error failure =>
    have isCode : (conclude (.error failure, s)).1 = failureCode failure := rfl
    rw [isCode, failureCode]
    by_cases cancelled : failure.category = .cancelled
    · obtain ⟨written, rfl⟩ := Failure.category_eq_cancelled_iff.mp cancelled
      rw [if_pos cancelled]
      simp
    · have plain (written : Nat) : failure ≠ .cancelled written :=
        fun same => cancelled (Failure.category_eq_cancelled_iff.mpr ⟨written, same⟩)
      rw [if_neg cancelled]
      simp [plain]

/-! ## Whole runs -/

/-- The course of a run of the command line. Its URLs are fetched in the order of the words. Servers
are asked for no URL after one that failed, and nothing is done after it. The exit code tells a
cancellation from any other failure, and is zero exactly if everything can be done. Without force the
URLs keep all files that were there from the start or since an earlier URL. A manifest of a run that
ends well has one entry for each URL in order, and the URLs as its sources. -/
theorem course_of_run {program : String} {environment : List (String × String)}
    {words : List String} {fs : FileSystem} {outcome : Outcome} (tree : fs.IsTree)
    (settings : surroundings.settings = .ofEnvironment environment)
    (parsed : parse surroundings.settings words = .run arguments)
    (ended : run program surroundings words fs = (outcome, s)) :
    arguments.urls.Sublist words ∧
      ∃ visits asked reached ending last code,
        Course surroundings arguments (firstSession fs) visits asked reached ending last ∧
        s.fs = last.fs ∧ (visits.map Visit.url ≠ arguments.urls → last = reached) ∧
        s.requests.reverse = asked.flatMap (requestsOf surroundings.transport) ∧
        outcome.ending = .returned code ∧
        (code = 130 ↔ ∃ written, ending = .error (.cancelled written)) ∧
        (code = 1 ↔ ∃ failure, ending = .error failure ∧
          ∀ written, failure ≠ .cancelled written) ∧
        (code = 0 ↔ Completes surroundings arguments (firstSession fs)) ∧
        (arguments.force = false → KeepsFiles fs reached.fs ∧
          ∀ directory ready earlier later between, visits = earlier ++ later →
            (makeDirectory arguments).runOn (firstSession fs) = (.ok directory, ready) →
            Job.Visits { surroundings, arguments, directory } ready earlier between →
            KeepsFiles between.fs reached.fs) ∧
        (arguments.manifest = true → code = 0 → ∃ (directory : Path) (m : Manifest),
          arguments.destination = .given directory ∧
          s.fs.read (directory.child "manifest.json").text = .ok (Utf8.encode m.text.toList) ∧
          m.sources = arguments.urls ∧ visits.map Visit.url = arguments.urls ∧
          m.files.map (fun entry => (entry.path, entry.digest)) =
            visits.map fun visit =>
              ((Manifest.shownPath directory visit.file.1).text, visit.file.2)) := by
  have proper (directory : Path) (given : arguments.destination = .given directory) :
      directory.IsProper := isProper_of_parse settings parsed given
  obtain ⟨-, -, -, -, -, nonempty⟩ := exists_of_parse parsed
  obtain ⟨isCode, isLast⟩ := run_eq_conclude program parsed fs
  rw [ended] at isCode isLast
  rcases attempted : (attempt surroundings arguments).runOn (firstSession fs) with ⟨ending, last⟩
  rw [attempted] at isCode isLast
  obtain ⟨visits, asked, reached, course⟩ := course_of_attempt attempted
  -- The end of a run adds a record to the log, and changes nothing else.
  obtain ⟨well, cancelled, failed⟩ := conclude_iff ending last
  have left : s.fs = last.fs := by
    rw [show s = _ from isLast, fs_conclude]
  have sameRequests : s.requests = last.requests := by
    rw [show s = _ from isLast]
    cases ending <;> rfl
  have treeStart : (firstSession fs).fs.IsTree := tree
  refine ⟨sublist_of_parse parsed, visits, asked, reached, ending, last, _, course, left,
    course.last_eq_reached, ?_, isCode, cancelled, failed, well.trans course.ending_eq_ok_iff,
    fun unforced => ⟨?_, ?_⟩, ?_⟩
  · have none : (firstSession fs).requests = [] := rfl
    rw [sameRequests, course.requests_eq, none, List.append_nil, List.reverse_reverse]
  · exact course.keepsFiles treeStart proper unforced
  · intro directory ready earlier later between isAll made first
    obtain ⟨given, -⟩ := makeDirectory_ok surroundings treeStart made
    exact course.keepsFiles_of_earlier treeStart (proper directory given) unforced isAll made first
  · intro wanted zero
    obtain rfl := well.mp zero
    rw [left]
    exact course.lists treeStart proper nonempty wanted

end

/-! ## An interrupted run -/

/-- A server with three files. Somebody interrupts whoever fetches the second one. -/
def interrupting : Http.Transport := .ofRoutes [
  ("http://h/a", .ok { status := 200, headers := ⟨[]⟩, body := [.chunk [1]] }),
  ("http://h/b", .ok {
    status := 200, headers := ⟨[]⟩, body := [.chunk [2], .signal, .chunk [3]] }),
  ("http://h/c", .ok { status := 200, headers := ⟨[]⟩, body := [.chunk [4]] })]

/-- Where a run meets it. -/
def interruptedSurroundings : Surroundings := .ofEnvironment interrupting "" []

/-- The words that ask for all three files and for a manifest. -/
def interruptedWords : List String :=
  ["--manifest", "--dest", "out", "http://h/a", "http://h/b", "http://h/c"]

/-- What they ask for. -/
def interruptedArguments : Arguments where
  urls := ["http://h/a", "http://h/b", "http://h/c"]
  destination := .given (.ofText "out")
  force := false
  algorithm := .given "sha256"
  checksum := none
  manifest := true

/-- What becomes of it on a file system with nothing but a root. -/
def interrupted : Outcome × Session :=
  run "grab" interruptedSurroundings interruptedWords (.empty [] 0o022)

/-- The first file stays and the second one is taken back, the third one is not asked for, and no
manifest is written. -/
theorem course_of_interrupted_run :
    (FileSystem.empty [] 0o022).IsTree ∧
      parse interruptedSurroundings.settings interruptedWords = .run interruptedArguments ∧
      interrupted.1.ending = .returned 130 ∧
      interrupted.2.fs.get? ["a".toList, "out".toList] = some (.file [1] none) ∧
      interrupted.2.fs.get? ["b".toList, "out".toList] = none ∧
      interrupted.2.fs.get? ["manifest.json".toList, "out".toList] = none ∧
      ∃ visits asked reached written last,
        Course interruptedSurroundings interruptedArguments (firstSession (.empty [] 0o022)) visits
          asked reached (.error (.cancelled written)) last ∧
        asked.flatMap (requestsOf interrupting) = ["http://h/a", "http://h/b"] ∧
        ¬ Completes interruptedSurroundings interruptedArguments
          (firstSession (.empty [] 0o022)) := by
  have tree := isTree_empty [] 0o022
  have parsed : parse interruptedSurroundings.settings interruptedWords =
      .run interruptedArguments := rfl
  have isInterrupted : interrupted.1.ending = .returned 130 := by decide +kernel
  have requests : interrupted.2.requests.reverse = ["http://h/a", "http://h/b"] := by
    decide +kernel
  obtain ⟨-, visits, asked, reached, ending, last, code, course, -, -, all, isCode, cancelled, -,
    well, -⟩ := course_of_run tree rfl parsed (Prod.eta interrupted).symm
  obtain rfl : 130 = code := Ending.returned.inj (isInterrupted.symm.trans isCode)
  obtain ⟨written, rfl⟩ := cancelled.mp rfl
  refine ⟨tree, parsed, isInterrupted, by decide +kernel, by decide +kernel, by decide +kernel,
    visits, asked, reached, written, last, course, all.symm.trans requests, ?_⟩
  intro completes
  cases well.mpr completes

end SafeFetch.CommandLine
