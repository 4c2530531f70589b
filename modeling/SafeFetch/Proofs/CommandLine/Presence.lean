import SafeFetch.Proofs.Cancellation
import SafeFetch.Proofs.CommandLine.Files
import SafeFetch.Proofs.Digest
import SafeFetch.Proofs.Requests

/-!
# A file that is there or comes from a server

A job compares the checksum of its only file with the digest of the body when it downloads the file,
and with the digest of the file itself when that is there already. The file is read again in pieces
of the size that the library was loaded with, so this comparison may fail where the other does not.
It is also left out if the checksum is empty.

## Main definitions

* `Arguments.HasDigest` and `Arguments.Decodes`: the digest of bytes, and the one that is asked for;
* `Serves`: a server sends a body completely, without a date, and nobody interrupts it;
* `Answers`: a server answers with a response that names a file;
* `Job.Settles`: how the download of a file ends that was not there.

## Main results

* `Job.present_ok_iff`: when a file that is there has the digest that is asked for;
* `Job.fetch_of_present` and `Job.fetch_of_absent`: how a job deals with the file in either case.
-/

namespace SafeFetch.CommandLine

open SafeFetch.FileSystem SafeFetch.Text SafeFetch.Transfer

variable {arguments : Arguments} {job : Job} {failure : Failure} {hasher : Hasher} {s s' : Session}
  {bytes digest : List UInt8} {chunks : List (List UInt8)} {path : Path}

/-! ## Digests -/

/-- The digest of bytes under the algorithm that is asked for. -/
def Arguments.HasDigest (arguments : Arguments) (bytes digest : List UInt8) : Prop :=
  ∃ name algorithm, arguments.algorithm = .given name ∧ Algorithm.ofName name = .ok algorithm ∧
    algorithm.digest bytes = .ok digest

/-- The checksum is given as text, and is read as a digest. -/
def Arguments.Decodes (arguments : Arguments) (digest : List UInt8) : Prop :=
  ∃ text, arguments.checksum = some (.given text) ∧ (Expected.text text).decode = .ok digest

/-- The checksum is read as the digest of bytes. -/
def Arguments.Matches (arguments : Arguments) (bytes : List UInt8) : Prop :=
  ∃ digest, arguments.HasDigest bytes digest ∧ arguments.Decodes digest

/-- A file that is there is accepted: it can be read, and its bytes have a digest, which is the one
of the checksum unless that is empty. -/
def Job.Accepts [Platform] (job : Job) (bytes : List UInt8) : Prop :=
  Source.fileFault? job.surroundings.readSize = none ∧
    ∃ digest, job.arguments.HasDigest bytes digest ∧
      ∀ digits, job.arguments.checksumDigits? = some digits →
        (Expected.text digits).decode = .ok digest

/-- Bytes have one digest. -/
theorem Arguments.HasDigest.unique {other : List UInt8} (has : arguments.HasDigest bytes digest)
    (has' : arguments.HasDigest bytes other) : digest = other := by
  obtain ⟨name, algorithm, given, known, isDigest⟩ := has
  obtain ⟨name', algorithm', given', known', isDigest'⟩ := has'
  obtain rfl := OptionValue.given.inj (given.symm.trans given')
  obtain rfl := Except.ok.inj (known.symm.trans known')
  exact Except.ok.inj (isDigest.symm.trans isDigest')

/-- A checksum with digits is one that is given. -/
theorem Arguments.checksum_of_digits {digits : String}
    (isChecksum : arguments.checksumDigits? = some digits) :
    arguments.checksum = some (.given digits) := by
  rw [checksumDigits?] at isChecksum
  split at isChecksum
  next isGiven =>
    split at isChecksum
    · cases isChecksum
    · obtain rfl := Option.some.inj isChecksum
      exact isGiven
  · cases isChecksum

namespace Job

/-- The expected digest of a job is the one that its checksum is read as. -/
theorem decode_eq_ok_iff {expected : Expected} (expects : job.expected = some expected) :
    expected.decode = .ok digest ↔ job.arguments.Decodes digest := by
  rw [Job.expected] at expects
  rw [Arguments.Decodes]
  obtain ⟨value, isValue, rfl⟩ := Option.map_eq_some_iff.mp expects
  rw [isValue]
  cases value with
  | given text =>
    constructor
    · exact fun decoded => ⟨text, rfl, decoded⟩
    · rintro ⟨other, same, decoded⟩
      obtain rfl := OptionValue.given.inj (Option.some.inj same)
      exact decoded
  | withheld =>
    constructor
    · intro decoded
      cases decoded
    · rintro ⟨other, same, -⟩
      cases same

/-- The hasher of a job is one of a name, or was not given. -/
theorem isNamed_of_start (starts : job.hasher.start = .ok hasher) : hasher.IsNamed := by
  rw [Job.hasher] at starts
  cases given : job.arguments.algorithm with
  | given name =>
    rw [given] at starts
    obtain ⟨algorithm, -, rfl⟩ := HasherChoice.start_named_eq_ok_iff.mp starts
    exact .inl ⟨algorithm, rfl⟩
  | withheld =>
    rw [given] at starts
    exact .inr (Except.ok.inj starts).symm

/-- A hasher of a job gives the digest of the bytes that it was handed. -/
theorem hasDigest_iff (starts : job.hasher.start = .ok hasher) :
    (Download.hasherAfter hasher chunks).digest = .ok digest ↔
      job.arguments.HasDigest chunks.flatten digest := by
  rw [Job.hasher] at starts
  cases given : job.arguments.algorithm with
  | given name =>
    rw [given] at starts
    obtain ⟨algorithm, known, rfl⟩ := HasherChoice.start_named_eq_ok_iff.mp starts
    rw [Download.digest_hasherAfter]
    constructor
    · exact fun isDigest => ⟨name, algorithm, given, known, isDigest⟩
    · rintro ⟨name', algorithm', given', known', isDigest⟩
      obtain rfl := OptionValue.given.inj (given.symm.trans given')
      obtain rfl := Except.ok.inj (known.symm.trans known')
      exact isDigest
  | withheld =>
    rw [given] at starts
    obtain rfl : Hasher.withheld = hasher := Except.ok.inj starts
    rw [Download.hasherAfter_withheld]
    constructor
    · intro isDigest
      cases isDigest
    · rintro ⟨name, -, given', -⟩
      cases given.symm.trans given'

/-- Bytes have no digest if the hasher does not start. -/
theorem not_hasDigest_of_start (fails : job.hasher.start = .error failure) :
    ¬ job.arguments.HasDigest bytes digest := by
  rintro ⟨name, algorithm, given, known, -⟩
  rw [Job.hasher, given] at fails
  cases fails.symm.trans (HasherChoice.start_named_eq_ok_iff.mpr ⟨algorithm, known, rfl⟩)

/-- They have none if the hasher was announced and not given. -/
theorem not_hasDigest_of_withheld (starts : job.hasher.start = .ok .withheld) :
    ¬ job.arguments.HasDigest bytes digest := by
  rintro ⟨name, algorithm, given, known, -⟩
  rw [Job.hasher, given] at starts
  cases starts.symm.trans (HasherChoice.start_named_eq_ok_iff.mpr ⟨algorithm, known, rfl⟩)

end Job

/-! ## A file that is there -/

variable [Platform]

namespace Job

/-- The digest of a file that is there is given exactly if the file can be read, and its bytes have a
digest, which is the one of the checksum unless that is empty. -/
theorem present_ok_iff (quiet : IsQuiet s.signal) (read : s.fs.read path.text = .ok bytes) :
    (∃ digest s', (job.present path).runOn s = (.ok digest, s')) ↔ job.Accepts bytes := by
  constructor
  · rintro ⟨digest, s', run⟩
    obtain ⟨hasher, chunks, starts, read', digested, accepted, isExpected⟩ := exists_of_present run
    obtain rfl := Except.ok.inj (read.symm.trans read')
    exact ⟨accepted, digest, (hasDigest_iff starts).mp digested, isExpected⟩
  · rintro ⟨fits, digest, ⟨name, algorithm, given, known, isDigest⟩, isExpected⟩
    have positive : (0 : Int) < job.surroundings.readSize :=
      Int.natCast_pos.mpr job.surroundings.readSize_pos
    obtain ⟨signal, computes⟩ := Checksum.runOn_ofFile positive fits quiet known read
    have isHasher : job.hasher = .named name := by
      rw [Job.hasher, given]
    rw [isDigest, ← isHasher] at computes
    refine ⟨digest, { s with signal }, ?_⟩
    rw [present]
    split
    next digits isChecksum =>
      exact Checksum.verify_of_ofFile false (isExpected digits isChecksum) computes
    next => exact computes

/-- The digest of a file that is there is not cancelled. -/
theorem isPlain_of_present (quiet : IsQuiet s.signal)
    (run : (job.present path).runOn s = (.error failure, s')) : failure.IsPlain := by
  have named (hasher : Hasher) (starts : job.hasher.start = .ok hasher) : hasher.IsNamed :=
    isNamed_of_start starts
  rw [present] at run
  split at run
  · exact Checksum.isPlain_of_verify quiet named run
  · exact Checksum.isPlain_of_ofFile quiet named run

/-- The signal is still quiet after it. -/
theorem isQuiet_present (quiet : IsQuiet s.signal) (job : Job) (path : Path) :
    IsQuiet ((job.present path).runOn s).2.signal := by
  have stays : IsQuiet
      ((Checksum.ofFile path.text job.hasher job.surroundings.readSize).runOn s).2.signal :=
    Checksum.isQuiet_ofFile quiet fun _ => isNamed_of_start
  rw [present]
  split
  next digits _ =>
    rw [Checksum.verify, Action.runOn_bind, Action.runOn_ofExcept]
    cases (Expected.text digits).decode with
    | error failure => exact quiet
    | ok wanted =>
      -- What follows on the digest only compares it.
      have compares (actual : List UInt8) : Action.Keeps (·.signal) (
          if actual = wanted then return actual
          else Checksum.failMismatch path wanted actual false) := by
        split
        · exact .pure _ _
        · exact Checksum.keeps_failMismatch Action.isAside_signal _ _ _ _
      exact (Action.view_bind compares s).symm ▸ stays
  next => exact stays

end Job

/-! ## A body that comes completely -/

/-- A server sends the body of a file completely, without a date, and nobody interrupts it. -/
structure Serves (transport : Http.Transport) (url : String) (last : Http.Url)
    (response : Http.Response) (name : String) (bytes : List UInt8) : Prop where
  answer : (Http.exchange transport true url).answer = .ok (last, response)
  unraised : (Http.exchange transport true url).isSignalled = false
  accepted : response.refusal? last = none
  named : (FileInfo.ofResponse last response.headers).chooseName.1 = .ok name
  undated : response.headers.get? "last-modified" = none
  received : received? response.bodyItems = some bytes
  unsignalled : .signal ∉ response.bodyItems

variable {url name : String} {last : Http.Url} {response : Http.Response} {place : Place}

/-- What a server delivers into a directory. -/
def deliveryTo (directory : Path) (last : Http.Url) (response : Http.Response) (name : String) :
    Download.Delivery where
  url := last
  response := response
  path := directory.child name

/-- A server answers with a response that names a file, and nobody interrupts the exchange. -/
structure Answers (transport : Http.Transport) (url : String) (last : Http.Url)
    (response : Http.Response) (name : String) : Prop where
  answer : (Http.exchange transport true url).answer = .ok (last, response)
  unraised : (Http.exchange transport true url).isSignalled = false
  accepted : response.refusal? last = none
  named : (FileInfo.ofResponse last response.headers).chooseName.1 = .ok name

/-- A server that sends a body answers before. -/
theorem Serves.answers {transport : Http.Transport}
    (serves : Serves transport url last response name bytes) :
    Answers transport url last response name where
  answer := serves.answer
  unraised := serves.unraised
  accepted := serves.accepted
  named := serves.named

namespace Job

/-- The file goes into the directory of the job, under the name that is chosen for it. -/
theorem locate_of_answers (proper : job.directory.IsProper)
    (found : s.fs.isDirectory job.directory.text = .ok true)
    (answers : Answers job.surroundings.transport url last response name) :
    ∃ located, (Download.locate job.surroundings.transport (job.download url)).runOn s =
        (.ok (deliveryTo job.directory last response name), located) ∧
      located.fs = s.fs ∧ located.signal = s.signal := by
  have hashed : (job.download url).hasher.isNone = false := rfl
  obtain ⟨asked, asks, same⟩ := @Download.request_of_answer job.surroundings.transport
    (job.download url) last response answers.answer answers.accepted s
  have isDirectory :
      asked.fs.isDirectory (Path.ofText (job.download url).destination).text = .ok true := by
    rw [same]
    exact proper.ofText_text.symm ▸ found
  have resolved := Destination.resolve_of_directory isDirectory answers.named
  rcases resolving : (Destination.resolve (job.download url).destination
    (FileInfo.ofResponse last response.headers)).runOn asked with ⟨outcome, located⟩
  rw [resolving] at resolved
  obtain rfl := resolved
  -- The request comes before the choice of the path, and neither of them changes a file.
  have locates : (Download.locate job.surroundings.transport (job.download url)).runOn s =
      (.ok (deliveryTo job.directory last response name), located) := by
    rw [Download.locate_eq_deliver _ hashed]
    refine Action.runOn_bind_eq_ok.mpr ⟨(last, response), asked, asks, ?_⟩
    refine Action.runOn_bind_eq_ok.mpr ⟨_, located, resolving, ?_⟩
    have isPath : Path.ofText (job.download url).destination = job.directory := proper.ofText_text
    rw [isPath]
    rfl
  refine ⟨located, locates, Download.fs_of_locate locates, ?_⟩
  have unraised : (Http.exchange job.surroundings.transport (job.download url).followsRedirects
      (job.download url).url).isSignalled = false := answers.unraised
  have kept := @Download.signal_locate _ job.surroundings.transport (job.download url) hashed s
  rw [locates, Download.signalAfter, unraised] at kept
  exact kept

/-- A file that is there is left alone. -/
theorem download_of_present (proper : job.directory.IsProper)
    (found : s.fs.isDirectory job.directory.text = .ok true)
    (unforced : job.arguments.force = false)
    (answers : Answers job.surroundings.transport url last response name)
    (read : s.fs.read (job.directory.child name).text = .ok bytes) :
    ∃ s', (Download.run job.surroundings.transport (job.download url)).runOn s =
        (.ok { path := job.directory.child name, bytesWritten := 0, digest := none,
               isSkipped := true }, s') ∧
      s'.fs = s.fs ∧ s'.signal = s.signal := by
  obtain ⟨located, locates, same, sameSignal⟩ := locate_of_answers proper found answers
  obtain ⟨modified, there⟩ := read_eq_ok_iff.mp read
  have looks : located.fs.leadsSomewhere (job.directory.child name).text = .ok true := by
    rw [same]
    exact leadsSomewhere_eq_true_iff.mpr ⟨_, there⟩
  obtain ⟨s', skips, left, signal⟩ := Download.run_of_skip locates looks unforced
  exact ⟨s', skips, left.trans same, signal.trans sameSignal⟩

/-- How the download of a file ends that was not there: the file is written and has the digest that
is asked for, or the download fails, because the digest is another one or no file can be written. -/
inductive Settles (job : Job) (bytes : List UInt8) (path : Path) (fs : FileSystem) :
    Except Failure DownloadResult → FileSystem → Prop
  | accepted {place : Place} {result : DownloadResult} {digest : List UInt8}
      {modified : Option Int} (opens : Opens fs path.text place)
      (unskipped : result.isSkipped = false) (isPath : result.path = path)
      (has : job.arguments.HasDigest bytes digest) (decodes : job.arguments.Decodes digest) :
      Settles job bytes path fs (.ok result) (fs.put place (.file bytes modified))
  | refused {failure : Failure} {fs' : FileSystem} (plain : failure.IsPlain)
      (differs : ∀ place, Opens fs path.text place → ∀ digest,
        job.arguments.HasDigest bytes digest → ¬ job.arguments.Decodes digest) :
      Settles job bytes path fs (.error failure) fs'

omit [Platform] in
/-- A complete file settles whether the digest is the one that is asked for. -/
theorem settles_of_finishes {info : FileInfo} {fs fs' : FileSystem} {expected : Expected}
    {outcome : Except Failure DownloadResult} (starts : job.hasher.start = .ok hasher)
    (expects : job.expected = some expected) (undated : info.modifiedAt.1 = .ok none)
    (opens : Opens fs path.text place)
    (finishes : Download.Finishes (job.download url) info path
      (some (Download.hasherAfter hasher chunks)) fs place chunks.flatten outcome fs') :
    Settles job chunks.flatten path fs outcome fs' := by
  -- A digest that is given is that of the bytes.
  have isHash {given : Option (List UInt8)}
      (digested : Download.digestOf? (some (Download.hasherAfter hasher chunks)) = .ok given) :
      ∃ digest, given = some digest ∧ job.arguments.HasDigest chunks.flatten digest := by
    rw [Download.digestOf?] at digested
    obtain ⟨digest, isDigest, rfl⟩ := map_eq_ok_iff.mp digested
    exact ⟨digest, rfl, (hasDigest_iff starts).mp isDigest⟩
  cases finishes with
  | finished _ digested checked =>
    obtain ⟨digest, rfl, has⟩ := isHash digested
    have decodes := (decode_eq_ok_iff expects).mp (checked digest rfl expected expects)
    exact .accepted opens rfl rfl has decodes
  | undated fails => cases undated.symm.trans fails
  | undigested _ fails =>
    have undigested := map_eq_error_iff.mp fails
    refine .refused (Hasher.isPlain_of_digest undigested) ?_
    intro _ _ digest has
    cases ((hasDigest_iff starts).mpr has).symm.trans undigested
  | undecoded _ _ expects' undecoded =>
    obtain rfl := Option.some.inj (expects.symm.trans expects')
    refine .refused (Expected.isPlain_of_decode undecoded) ?_
    intro _ _ digest _ decodes
    cases ((decode_eq_ok_iff expects).mpr decodes).symm.trans undecoded
  | mismatched _ digested expects' decoded differs =>
    obtain rfl := Option.some.inj (expects.symm.trans expects')
    obtain ⟨actual, same, has⟩ := isHash digested
    obtain rfl := Option.some.inj same
    refine .refused nofun ?_
    intro _ _ digest has' decodes
    obtain rfl := has.unique has'
    have wanted := Except.ok.inj (decoded.symm.trans ((decode_eq_ok_iff expects).mpr decodes))
    exact differs wanted.symm

/-- A body that is written settles it as well. -/
theorem settles_of_writes {ready : Session} {delivery : Download.Delivery} {expected : Expected}
    {outcome : Except Failure DownloadResult} {fs' : FileSystem} (tree : ready.fs.IsTree)
    (quiet : IsQuiet ready.signal) (starts : job.hasher.start = .ok hasher)
    (expects : job.expected = some expected) (undated : delivery.info.modifiedAt.1 = .ok none)
    (received : received? delivery.response.bodyItems = some bytes)
    (unsignalled : .signal ∉ (Source.stream delivery.response.bodyItems).items)
    (writes : Download.Writes (job.download url) delivery (some hasher) ready outcome fs') :
    Settles job bytes delivery.path ready.fs outcome fs' := by
  cases writes with
  | unfilled fills =>
    cases fills with
    -- The copy comes to its end, unless the hasher was announced and not given.
    | interrupted _ copied =>
      have feeds := Download.feeds_freshSink delivery.path hasher
      rcases (isNamed_of_start starts).copy feeds quiet unsignalled with
        ⟨count, whole⟩ | ⟨other, isOther, ⟨rfl, rfl⟩ | ⟨broken, -⟩⟩
      · cases whole.symm.trans copied
      · obtain rfl := Except.error.inj (isOther.symm.trans copied)
        exact .refused nofun fun _ _ digest has => absurd has (not_hasDigest_of_withheld starts)
      · cases received.symm.trans broken
    | refused shut _ fails =>
      refine .refused ?_ fun place opens => ?_
      · rcases fails with rfl | unremoved
        · exact (isAbout_of_create shut).isPlain
        · exact (isAbout_of_removeIfPresent unremoved).isPlain
      · cases shut.symm.trans ((create_eq_ok_iff tree).mpr ⟨opens, rfl⟩)
  -- All of the body has arrived, so the bytes that were written are those that are expected.
  | filled opens _ received' finishes =>
    obtain rfl := Option.some.inj (received.symm.trans received')
    exact settles_of_finishes starts expects undated opens finishes

omit [Platform] in
/-- A response without a date tells no instant. -/
theorem modifiedAt_deliveryTo {directory : Path}
    (undated : response.headers.get? "last-modified" = none) :
    (deliveryTo directory last response name).info.modifiedAt.1 = .ok none := by
  have unsaid : (deliveryTo directory last response name).info.lastModified = none := undated
  rw [FileInfo.modifiedAt, unsaid]
  rfl

/-- Writing a file into the directory settles it too. -/
theorem settles_of_complete {outcome : Except Failure DownloadResult} {expected : Expected}
    (tree : s.fs.IsTree) (quiet : IsQuiet s.signal)
    (found : s.fs.isDirectory job.directory.text = .ok true)
    (expects : job.expected = some expected)
    (serves : Serves job.surroundings.transport url last response name bytes)
    (completes : (Download.complete (job.download url)
      (deliveryTo job.directory last response name)).runOn s = (outcome, s')) :
    Settles job bytes (job.directory.child name) s.fs outcome s'.fs := by
  obtain ⟨mode, there⟩ := isDirectory_eq_true_iff.mp found
  rw [← FileInfo.parent_child serves.named job.directory] at there
  have nothing : (Destination.prepare (job.directory.child name)).runOn s = (.ok (), s) :=
    Destination.prepare_of_directory there
  rcases Download.complete_cases tree completes with
    ⟨failure, rfl, setsUp⟩ | ⟨hasher?, ready, setsUp, writes⟩
  -- The directory is there, so only the hasher can be missing.
  · rcases Download.setUp_error setsUp with prepares | unstarted
    · cases nothing.symm.trans prepares
    · have fails := map_eq_error_iff.mp unstarted
      refine .refused (HasherChoice.isPlain_of_start fails) ?_
      intro _ _ digest has
      exact absurd has (not_hasDigest_of_start fails)
  · obtain ⟨started, prepared, prepares, sameReady⟩ := Download.setUp_ok setsUp
    obtain ⟨hasher, starts, rfl⟩ := map_eq_ok_iff.mp started
    obtain ⟨-, rfl⟩ := Prod.mk.inj (nothing.symm.trans prepares)
    have kept := Download.keeps_setUp Action.isAside_signal (job.download url)
      (deliveryTo job.directory last response name).path s
    rw [setsUp] at kept
    rw [← kept] at quiet
    rw [← sameReady] at tree ⊢
    exact settles_of_writes tree quiet starts expects (modifiedAt_deliveryTo serves.undated)
      serves.received serves.unsignalled writes

/-- The download of a file that is not there settles it. -/
theorem download_of_absent {outcome : Except Failure DownloadResult} (tree : s.fs.IsTree)
    (proper : job.directory.IsProper) (quiet : IsQuiet s.signal)
    (found : s.fs.isDirectory job.directory.text = .ok true)
    (checks : job.arguments.checksum ≠ none)
    (serves : Serves job.surroundings.transport url last response name bytes)
    (absent : s.fs.leadsSomewhere (job.directory.child name).text ≠ .ok true)
    (run : (Download.run job.surroundings.transport (job.download url)).runOn s = (outcome, s')) :
    Settles job bytes (job.directory.child name) s.fs outcome s'.fs := by
  obtain ⟨located, locates, same, sameSignal⟩ := locate_of_answers proper found serves.answers
  obtain ⟨value, isValue⟩ := Option.ne_none_iff_exists'.mp checks
  obtain ⟨expected, expects⟩ : ∃ expected, job.expected = some expected := by
    rw [Job.expected, isValue]
    exact ⟨_, rfl⟩
  rw [← same] at tree found absent ⊢
  rw [← sameSignal] at quiet
  cases Download.runs run with
  | unlocated unlocated => cases locates.symm.trans unlocated
  | unclear locates' looks =>
    obtain ⟨rfl, rfl⟩ := Action.ok_inj locates locates'
    refine .refused (isAbout_of_entryHas looks).isPlain fun place opens => ?_
    -- A path that can be opened can be looked at.
    obtain ⟨isThere, looks'⟩ := opens.leadsSomewhere
    cases looks'.symm.trans looks
  | skipped locates' looks =>
    obtain ⟨rfl, rfl⟩ := Action.ok_inj locates locates'
    exact absurd looks absent
  | completed locates' _ _ completes =>
    obtain ⟨rfl, rfl⟩ := Action.ok_inj locates locates'
    exact settles_of_complete tree quiet found expects serves completes

/-! ## Fetching the file -/

/-- Fetching a file that is there hands it on exactly if it can be read, and its bytes have a digest,
which is the one of the checksum unless that is empty. Nothing changes, and nobody sets the
signal. -/
theorem fetch_of_present {outcome : Except Failure (Path × Option String)}
    (proper : job.directory.IsProper) (quiet : IsQuiet s.signal)
    (found : s.fs.isDirectory job.directory.text = .ok true)
    (unforced : job.arguments.force = false)
    (answers : Answers job.surroundings.transport url last response name)
    (read : s.fs.read (job.directory.child name).text = .ok bytes)
    (run : (job.fetch url).runOn s = (outcome, s')) :
    s'.fs = s.fs ∧ IsQuiet s'.signal ∧
      ((∃ digits, outcome = .ok (job.directory.child name, digits)) ∧ job.Accepts bytes ∨
        (∃ failure, outcome = .error failure ∧ failure.IsPlain) ∧ ¬ job.Accepts bytes) := by
  obtain ⟨loaded, downloads, same, sameSignal⟩ :=
    download_of_present proper found unforced answers read
  obtain ⟨reported, reports, same', sameSignal'⟩ : ∃ reported,
      (Action.report .info ("Already present: " ++ (job.directory.child name).text)).runOn loaded =
          (.ok (), reported) ∧ reported.fs = s.fs ∧ reported.signal = s.signal :=
    ⟨_, rfl, same, sameSignal⟩
  -- The record of the skipped download stands between it and the digest.
  rw [← sameSignal'] at quiet
  rw [← same'] at read ⊢
  rw [fetch, Action.runOn_bind, downloads] at run
  simp only [if_true] at run
  rw [Action.runOn_bind, reports] at run
  dsimp only at run
  rw [Action.runOn_bind] at run
  have accepts_iff : (∃ digest after, (job.present (job.directory.child name)).runOn reported =
      (.ok digest, after)) ↔ job.Accepts bytes := present_ok_iff quiet read
  have left := leaves_present Action.composes_eq job (job.directory.child name) reported
  have stays := isQuiet_present quiet job (job.directory.child name)
  rcases checks : (job.present (job.directory.child name)).runOn reported with
    ⟨failure | digest, after⟩
  · rw [checks] at run left stays
    obtain ⟨rfl, rfl⟩ := Prod.mk.inj run
    refine ⟨left, stays, .inr ⟨⟨failure, rfl, isPlain_of_present quiet checks⟩, fun accepts => ?_⟩⟩
    obtain ⟨digest, other, succeeds⟩ := accepts_iff.mpr accepts
    cases checks.symm.trans succeeds
  · rw [checks] at run left stays
    obtain ⟨rfl, rfl⟩ := Prod.mk.inj run
    exact ⟨left, stays, .inl ⟨⟨_, rfl⟩, accepts_iff.mp ⟨digest, after, checks⟩⟩⟩

/-- Fetching a file that is not there writes it and hands it on, if it can be written and the digest
of its bytes is the one that is asked for, and fails otherwise. -/
theorem fetch_of_absent {outcome : Except Failure (Path × Option String)} (tree : s.fs.IsTree)
    (proper : job.directory.IsProper) (quiet : IsQuiet s.signal)
    (found : s.fs.isDirectory job.directory.text = .ok true)
    (checks : job.arguments.checksum ≠ none)
    (serves : Serves job.surroundings.transport url last response name bytes)
    (absent : s.fs.leadsSomewhere (job.directory.child name).text ≠ .ok true)
    (run : (job.fetch url).runOn s = (outcome, s')) :
    (∃ place modified digits, outcome = .ok (job.directory.child name, digits) ∧
        Opens s.fs (job.directory.child name).text place ∧ job.arguments.Matches bytes ∧
        s'.fs = s.fs.put place (.file bytes modified)) ∨
      (∃ failure, outcome = .error failure ∧ failure.IsPlain) ∧
        ∀ place, Opens s.fs (job.directory.child name).text place →
          ¬ job.arguments.Matches bytes := by
  rcases downloads : (Download.run job.surroundings.transport (job.download url)).runOn s with
    ⟨downloaded, loaded⟩
  have settles := download_of_absent tree proper quiet found checks serves absent downloads
  rw [fetch, Action.runOn_bind, downloads] at run
  generalize left : loaded.fs = between at settles
  cases settles with
  | accepted opens unskipped isPath has decodes =>
    simp only [unskipped, Bool.false_eq_true, if_false, Action.runOn_bind,
      Action.runOn_report] at run
    obtain ⟨rfl, rfl⟩ := Prod.mk.inj run
    rw [isPath]
    exact .inl ⟨_, _, _, rfl, opens, ⟨_, has, decodes⟩, left⟩
  | refused plain differs =>
    obtain ⟨rfl, rfl⟩ := Prod.mk.inj run
    refine .inr ⟨⟨_, rfl, plain⟩, ?_⟩
    rintro place opens ⟨digest, has, decodes⟩
    exact differs place opens digest has decodes

end Job

end SafeFetch.CommandLine
