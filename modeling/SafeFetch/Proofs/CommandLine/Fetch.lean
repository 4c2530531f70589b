import SafeFetch.Proofs.CommandLine.Files
import SafeFetch.Proofs.Digest

/-!
# What a run notes of its files

A job notes the digest of every file when it has fetched it, be the file new or already there. A
later URL may give its file the same name and replace the file, with force only. So when all URLs
are fetched, every file that was noted is there with the digits that were noted last.

## Main definitions

* `Arguments.HasDigits`: the digits of the digest of contents;
* `Job.Holds`: a file is there as it was noted;
* `Job.Fetched` and `Job.Records`: what fetching one URL leaves, and fetching all of them.

## Main results

* `Job.fetch_ok`: one URL leaves the file that is noted, with its digits;
* `Job.fetchAll_ok`: all URLs leave every file with the digits that were noted last.
-/

namespace SafeFetch.CommandLine

open SafeFetch.FileSystem SafeFetch.Text SafeFetch.Transfer

variable {arguments : Arguments} {job : Job} {fs fs' : FileSystem} {above : Place}
  {name : List Char} {contents : List UInt8} {digits : String} {s s' : Session}

/-- The digits are those of the digest of contents under the algorithm that is asked for. -/
def Arguments.HasDigits (arguments : Arguments) (contents : List UInt8)
    (digits : String) : Prop :=
  ∃ name algorithm digest, arguments.algorithm = .given name ∧
    Algorithm.ofName name = .ok algorithm ∧ algorithm.digest contents = .ok digest ∧
      digits = String.ofList (Hex.encode digest)

/-- Contents have one text of digits. -/
theorem Arguments.HasDigits.unique {other : String} (has : arguments.HasDigits contents digits)
    (has' : arguments.HasDigits contents other) : digits = other := by
  obtain ⟨name, algorithm, digest, given, known, digested, rfl⟩ := has
  obtain ⟨name', algorithm', digest', given', known', digested', rfl⟩ := has'
  obtain rfl := OptionValue.given.inj (given.symm.trans given')
  obtain rfl := Except.ok.inj (known.symm.trans known')
  obtain rfl := Except.ok.inj (digested.symm.trans digested')
  rfl

namespace Job

/-! ## Digits of files -/

/-- A hasher of a job that gives a digest gives the one of all that it was handed. -/
theorem hasDigits_of_start {hasher : Hasher} {chunks : List (List UInt8)} {digest : List UInt8}
    (starts : job.hasher.start = .ok hasher)
    (digested : (Download.hasherAfter hasher chunks).digest = .ok digest) :
    job.arguments.HasDigits chunks.flatten (String.ofList (Hex.encode digest)) ∧ digest ≠ [] := by
  rw [Job.hasher] at starts
  cases given : job.arguments.algorithm with
  | given name =>
    rw [given] at starts
    obtain ⟨algorithm, known, rfl⟩ := HasherChoice.start_named_eq_ok_iff.mp starts
    rw [Download.digest_hasherAfter] at digested
    exact ⟨⟨name, algorithm, digest, given, known, digested, rfl⟩,
      Algorithm.ne_nil_of_digest digested⟩
  | withheld =>
    rw [given] at starts
    obtain rfl := Except.ok.inj starts
    rw [Download.hasherAfter_withheld] at digested
    cases digested

/-- The digits of a body that was written are those of its digest. -/
theorem hasDigits_of_written {hasher : Option Hasher} {chunks : List (List UInt8)}
    {digest : Option (List UInt8)}
    (starts : Download.startHasher? (some job.hasher) = .ok hasher)
    (digested : Download.digestOf? (hasher.map (Download.hasherAfter · chunks)) = .ok digest) :
    ∃ digits, digits? digest = some digits ∧ job.arguments.HasDigits chunks.flatten digits := by
  rw [Download.startHasher?] at starts
  obtain ⟨hasher, start, rfl⟩ := map_eq_ok_iff.mp starts
  rw [Option.map_some, Download.digestOf?] at digested
  obtain ⟨bytes, taken, rfl⟩ := map_eq_ok_iff.mp digested
  obtain ⟨has, more⟩ := hasDigits_of_start start taken
  refine ⟨_, ?_, has⟩
  rw [digits?, Option.filter_some, if_pos (by simpa using more), Option.map_some]

/-- The digest of a file that is already there is the one of its contents. -/
theorem present_ok [Platform] {path : Path} {digest : List UInt8}
    (run : (job.present path).runOn s = (.ok digest, s')) :
    ∃ contents, s.fs.read path.text = .ok contents ∧
      job.arguments.HasDigits contents (String.ofList (Hex.encode digest)) := by
  obtain ⟨hasher, chunks, starts, read, digested, -⟩ := exists_of_present run
  exact ⟨_, read, (hasDigits_of_start starts digested).1⟩

/-! ## One URL -/

/-- What a job notes of a file: its name in the directory, and the digits of its digest. -/
structure Note where
  name : List Char
  digits : String

/-- A file with its digits, as a job hands it on. -/
def fileOf (job : Job) (note : Note) : Path × Option String :=
  (job.directory.further note.name, some note.digits)

/-- The file of a note is there in the directory, and has the digits. -/
structure Holds (job : Job) (above : Place) (fs : FileSystem) (note : Note) : Prop where
  opens : Opens fs (job.directory.further note.name).text (note.name :: above)
  file : ∃ contents modified, fs.get? (note.name :: above) = some (.file contents modified) ∧
    job.arguments.HasDigits contents note.digits

/-- A file has one text of digits. -/
theorem Holds.digits_eq {note other : Note} (holds : job.Holds above fs note)
    (holds' : job.Holds above fs other) (same : note.name = other.name) :
    note.digits = other.digits := by
  obtain ⟨contents, modified, file, has⟩ := holds.file
  obtain ⟨contents', modified', file', has'⟩ := holds'.file
  rw [same, file'] at file
  obtain ⟨rfl, -⟩ := Entry.file.inj (Option.some.inj file)
  exact has.unique has'

/-- A file is still there with its digits after a change of another one. -/
theorem Holds.alters {isGood : List UInt8 → Prop} {note : Note} (tree : fs.IsTree)
    (holds : job.Holds above fs note) (alters : Alters isGood fs (name :: above) fs')
    (other : note.name ≠ name) : job.Holds above fs' note := by
  obtain ⟨contents, modified, file, has⟩ := holds.file
  refine ⟨holds.opens.alters tree alters, contents, modified, ?_, has⟩
  rcases alters.get?_cases (note.name :: above) with same | ⟨same, -⟩
  · exact same.trans file
  · exact absurd (List.cons.inj same).1 other

/-- What fetching a URL does: the file that is noted is there with its digits, and nothing else
changes. Without force no file changes at all. -/
structure Fetched (job : Job) (above : Place) (fs fs' : FileSystem) (note : Note) : Prop where
  isName : isPathName note.name = true
  notUp : note.name ≠ ['.', '.']
  alters : Alters (fun _ => True) fs (note.name :: above) fs'
  holds : job.Holds above fs' note
  kept {other : Note} : job.arguments.force = false ∨ other.name ≠ note.name →
    job.Holds above fs other → job.Holds above fs' other

/-- A file that is found and left alone is noted with the digits of its digest. -/
theorem fetched_of_read (isName : isPathName name = true) (notUp : name ≠ ['.', '.'])
    (proper : job.directory.IsProper) (offers : Offers fs job.directory above)
    (read : fs.read (job.directory.further name).text = .ok contents)
    (has : job.arguments.HasDigits contents digits) :
    job.Fetched above fs fs ⟨name, digits⟩ := by
  have properPath : (job.directory.further name).IsProper :=
    Path.isProper_further.mpr ⟨proper, isName⟩
  obtain ⟨modified, there⟩ := read_eq_ok_iff.mp read
  obtain ⟨place, found⟩ := stat_eq_ok_iff.mp there
  have opens := opens_of_spotAt offers.tree found
  obtain rfl := offers.place_of_opens properPath notUp opens
  have holds : job.Holds above fs ⟨name, digits⟩ :=
    ⟨opens, contents, modified, get?_of_spotAt found (by simp), has⟩
  exact ⟨isName, notUp, .same, holds, fun _ => id⟩

/-- A file that is written is noted with the digits of its digest. -/
theorem fetched_of_written {modified : Option Int} (isName : isPathName name = true)
    (notUp : name ≠ ['.', '.']) (tree : fs.IsTree)
    (opens : Opens fs (job.directory.further name).text (name :: above))
    (free : job.arguments.force = false → fs.get? (name :: above) = none)
    (has : job.arguments.HasDigits contents digits) :
    job.Fetched above fs (fs.put (name :: above) (.file contents modified)) ⟨name, digits⟩ := by
  have alters : Alters (fun _ => True) fs (name :: above)
      (fs.put (name :: above) (.file contents modified)) := .written opens.takes trivial
  obtain ⟨-, opens', file⟩ := opens.written tree contents modified
  refine ⟨isName, notUp, alters, ⟨opens', contents, modified, file, has⟩, ?_⟩
  intro other unforced holds
  refine holds.alters tree alters fun same => ?_
  -- Without force no file was there under the name.
  rcases unforced with unforced | differs
  · obtain ⟨_, _, standing, -⟩ := holds.file
    rw [same, free unforced] at standing
    cases standing
  · exact differs same

/-- Fetching a URL leaves the file that it gives, with the digits of its digest. -/
theorem fetch_ok [Platform] {url : String} {file : Path × Option String}
    (proper : job.directory.IsProper) (offers : Offers s.fs job.directory above)
    (run : (job.fetch url).runOn s = (.ok file, s')) :
    ∃ note, file = job.fileOf note ∧ job.Fetched above s.fs s'.fs note := by
  obtain ⟨result, loaded, downloads, run⟩ := Action.runOn_bind_eq_ok.mp run
  obtain ⟨name, isName, notUp, succeeds⟩ :=
    Download.succeeds_of_run proper offers rfl downloads
  generalize left : loaded.fs = between at succeeds
  cases succeeds with
  | skipped =>
    -- The digest is that of the file as it is read again, and reading changes nothing.
    obtain ⟨_, reported, reports, run⟩ := Action.runOn_bind_eq_ok.mp run
    obtain ⟨-, rfl⟩ := Prod.mk.inj reports
    obtain ⟨digest, computed, computes, run⟩ := Action.runOn_bind_eq_ok.mp run
    obtain ⟨same, rfl⟩ := Prod.mk.inj run
    obtain rfl := Except.ok.inj same
    obtain ⟨contents, read, has⟩ := present_ok computes
    have unchanged := leaves_present Action.composes_eq job (job.directory.further name) { loaded with
      log := ⟨.info, "Already present: " ++ (job.directory.further name).text⟩ :: loaded.log }
    rw [computes] at unchanged
    rw [unchanged.trans left]
    rw [left] at read
    exact ⟨_, rfl, fetched_of_read isName notUp proper offers read has⟩
  | written starts opens digested free =>
    -- The digest is that of the body as it arrived, and the file holds the same chunks.
    obtain ⟨_, reported, reports, run⟩ := Action.runOn_bind_eq_ok.mp run
    obtain ⟨-, rfl⟩ := Prod.mk.inj reports
    obtain ⟨same, rfl⟩ := Prod.mk.inj run
    obtain rfl := Except.ok.inj same
    obtain ⟨digits, shown, has⟩ := hasDigits_of_written starts digested
    refine ⟨⟨name, digits⟩, ?_, ?_⟩
    · rw [fileOf, ← shown]
    · rw [left]
      exact fetched_of_written isName notUp offers.tree opens free has

/-! ## All URLs -/

/-- The digits that were noted last for a name. -/
def lastDigits? (notes : List Note) (name : List Char) : Option String :=
  (notes.reverse.find? (·.name = name)).map (·.digits)

/-- An earlier note does not count beside a later one. -/
theorem lastDigits?_cons_of_mem {note later : Note} {notes : List Note} (isIn : later ∈ notes) :
    lastDigits? (note :: notes) later.name = lastDigits? notes later.name := by
  have found : (notes.reverse.find? (·.name = later.name)).isSome = true := by
    simpa using ⟨later, isIn, rfl⟩
  obtain ⟨last, isLast⟩ := Option.isSome_iff_exists.mp found
  rw [lastDigits?, lastDigits?, List.reverse_cons, List.find?_append, isLast, Option.some_or]

/-- A note that no later one follows is the last. -/
theorem lastDigits?_cons_self {note : Note} {notes : List Note}
    (others : ∀ later ∈ notes, later.name ≠ note.name) :
    lastDigits? (note :: notes) note.name = some note.digits := by
  have missing : notes.reverse.find? (·.name = note.name) = none := by
    simpa using others
  rw [lastDigits?, List.reverse_cons, List.find?_append, missing, Option.none_or]
  simp

/-- What fetching URLs leaves: every file that was noted is there, with the digits that were noted
last for its name. A file with another name is kept, and without force every file is. -/
structure Records (job : Job) (above : Place) (fs fs' : FileSystem) (notes : List Note) :
    Prop where
  offers : Offers fs' job.directory above
  isName : ∀ note ∈ notes, isPathName note.name = true ∧ note.name ≠ ['.', '.']
  holds : ∀ note ∈ notes, ∃ last, lastDigits? notes note.name = some last ∧
    job.Holds above fs' ⟨note.name, last⟩
  unforced : job.arguments.force = false → ∀ note ∈ notes, job.Holds above fs' note
  kept {other : Note} :
    job.arguments.force = false ∨ (∀ note ∈ notes, other.name ≠ note.name) →
      job.Holds above fs other → job.Holds above fs' other

/-- One URL before the others. -/
theorem Records.cons {between : FileSystem} {note : Note} {notes : List Note}
    (fetched : job.Fetched above fs between note)
    (records : job.Records above between fs' notes) :
    job.Records above fs fs' (note :: notes) := by
  refine ⟨records.offers, ?_, ?_, ?_, ?_⟩
  · rintro other isIn
    rcases List.mem_cons.mp isIn with rfl | isIn
    · exact ⟨fetched.isName, fetched.notUp⟩
    · exact records.isName other isIn
  · rintro other isIn
    -- Either a later note of the name counts, or this one, and then its file is kept.
    by_cases later : ∃ later ∈ notes, later.name = other.name
    · obtain ⟨later, isLater, same⟩ := later
      obtain ⟨last, isLast, holds⟩ := records.holds later isLater
      rw [← same, lastDigits?_cons_of_mem isLater]
      exact ⟨last, isLast, holds⟩
    · have others : ∀ later ∈ notes, other.name ≠ later.name :=
        fun next isNext same => later ⟨next, isNext, same.symm⟩
      rcases List.mem_cons.mp isIn with rfl | isIn
      · refine ⟨other.digits, ?_, records.kept (.inr others) fetched.holds⟩
        exact lastDigits?_cons_self fun next isNext => (others next isNext).symm
      · exact absurd rfl (others other isIn)
  · rintro unforced other isIn
    rcases List.mem_cons.mp isIn with rfl | isIn
    · exact records.kept (.inl unforced) fetched.holds
    · exact records.unforced unforced other isIn
  · rintro other (unforced | others) holds
    · exact records.kept (.inl unforced) (fetched.kept (.inl unforced) holds)
    · obtain ⟨here, later⟩ := List.forall_mem_cons.mp others
      exact records.kept (.inr later) (fetched.kept (.inr here) holds)

/-- Fetching URLs in order leaves every file that they give, with the digits noted last. -/
theorem fetchAll_ok [Platform] {urls : List String} {files : List (Path × Option String)}
    (proper : job.directory.IsProper) (offers : Offers s.fs job.directory above)
    (run : (job.fetchAll urls).runOn s = (.ok files, s')) :
    ∃ notes, files = notes.map job.fileOf ∧ notes.length = urls.length ∧
      job.Records above s.fs s'.fs notes := by
  -- The directory is still there after every URL, so the next one finds it again.
  induction urls generalizing s files with
  | nil =>
    obtain ⟨same, rfl⟩ := Prod.mk.inj run
    obtain rfl := Except.ok.inj same
    exact ⟨[], rfl, rfl, offers, by simp, by simp, by simp, fun _ => id⟩
  | cons url urls ih =>
    obtain ⟨file, between, fetches, run⟩ := Action.runOn_bind_eq_ok.mp run
    obtain ⟨files, after, goesOn, run⟩ := Action.runOn_bind_eq_ok.mp run
    obtain ⟨same, rfl⟩ := Prod.mk.inj run
    obtain rfl := Except.ok.inj same
    obtain ⟨note, rfl, fetched⟩ := fetch_ok proper offers fetches
    obtain ⟨notes, rfl, length, records⟩ := ih (offers.alters fetched.alters) goesOn
    exact ⟨note :: notes, rfl, by simp [length], .cons fetched records⟩

end Job

end SafeFetch.CommandLine
