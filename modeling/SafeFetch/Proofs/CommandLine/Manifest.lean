import SafeFetch.Proofs.CommandLine.Fetch
import SafeFetch.Proofs.Manifest.Document

/-!
# What a manifest says of the files

A run notes the digest of a file when it has fetched it, and looks up the sizes when it writes the
manifest. So an entry tells the digest that a file had at one time and the size that it had at
another. The two belong together, and to the file that is there in the end, if the file was not
written again in between: by a later URL whose file has the same name, or by the manifest itself.

## Main definitions

* `ManifestEntry.IsTrue`: a file is there as an entry describes it;
* `Manifest.Upholds`: the digest of an entry is the one that the manifest tells last for its path.

## Main results

* `Job.perform_ok`: what is left by a job that succeeds;
* `isTrue_iff_of_run`: which entries are true after a run;
* `not_isTrue_of_forced_namesakes`: a run whose manifest is wrong about a file.
-/

namespace SafeFetch

open SafeFetch.FileSystem SafeFetch.Text SafeFetch.Transfer

/-! ## Entries -/

/-- An entry tells the size and the digest of contents. -/
def ManifestEntry.Describes (entry : ManifestEntry) (arguments : CommandLine.Arguments)
    (contents : List UInt8) : Prop :=
  entry.size = some contents.length ∧
    ∃ digits, entry.digest = some digits ∧ arguments.HasDigits contents digits

/-- The file that an entry names in a directory is there, and is as the entry describes it. -/
def ManifestEntry.IsTrue (entry : ManifestEntry) (arguments : CommandLine.Arguments)
    (directory : Path) (fs : FileSystem) : Prop :=
  ∃ contents modified, fs.stat (directory.child entry.path).text = .ok (.file contents modified) ∧
    entry.Describes arguments contents

/-- The digest that a manifest tells last for a path. -/
def Manifest.lastDigest? (m : Manifest) (path : String) : Option String :=
  (m.files.reverse.find? (·.path = path)).bind (·.digest)

/-- A manifest upholds an entry: it tells no other digest later for the path of the entry. An entry
for the manifest itself has to describe it. -/
def Manifest.Upholds (m : Manifest) (arguments : CommandLine.Arguments) (entry : ManifestEntry) :
    Prop :=
  if entry.path = "manifest.json" then entry.Describes arguments (Utf8.encode m.text.toList)
  else m.lastDigest? entry.path = entry.digest

/-- The entries of files that are listed have their paths and their digests, in order. -/
theorem Manifest.map_of_mapM_entryOf [Platform] {fs : FileSystem} {base : Path}
    {files : List (Path × Option String)} {entries : List ManifestEntry}
    (lists : files.mapM (Manifest.entryOf fs base) = .ok entries) :
    entries.map (fun entry => (entry.path, entry.digest)) =
      files.map fun file => ((Manifest.shownPath base file.1).text, file.2) := by
  rw [← List.forall₂_eq_eq_eq, List.forall₂_map_left_iff, List.forall₂_map_right_iff]
  exact (Manifest.mapM_entryOf_eq_ok_iff.mp lists).flip.imp fun _ _ isEntry =>
    let ⟨path, digest⟩ := Manifest.path_of_entryOf isEntry
    Prod.ext path digest

namespace CommandLine

variable {arguments : Arguments} {job : Job} {fs fs' : FileSystem} {above : Place}
  {name : List Char} {contents : List UInt8} {s s' : Session}

namespace Job

variable [Platform]

/-! ## The manifest -/

omit [Platform] in
/-- A file that is handed on has one note. -/
theorem fileOf_inj (job : Job) (note other : Note) (same : job.fileOf note = job.fileOf other) :
    note = other := by
  obtain ⟨samePath, sameDigits⟩ := Prod.mk.inj same
  have names := List.append_cancel_left (Path.mk.inj samePath).2
  obtain ⟨name, digits⟩ := note
  obtain rfl : name = other.name := (List.cons.inj names).1
  obtain rfl : digits = other.digits := Option.some.inj sameDigits
  rfl

/-- The manifest of a job that lists entries. -/
def manifestOf (job : Job) (entries : List ManifestEntry) : Manifest where
  sourceUrl := job.arguments.urls.headD ""
  downloadedAt := job.surroundings.time
  sources :=
    if job.arguments.urls.isEmpty then [job.arguments.urls.headD ""] else job.arguments.urls
  files := entries

/-- The entry of a note, with the size that the file has. -/
def entryOf (above : Place) (fs : FileSystem) (note : Note) : ManifestEntry where
  path := String.ofList note.name
  digest := some note.digits
  size := (fs.get? (note.name :: above)).map Manifest.entrySize

omit [Platform] in
/-- A name below a directory is shown as it is. -/
theorem text_shownPath (directory : Path) (isName : isPathName name = true) :
    (Manifest.shownPath directory (directory.further name)).text = String.ofList name := by
  have seen : (directory.further name).relativeTo? directory =
      some { root := .relative, names := [name] } := by
    simp [Path.relativeTo?, Path.further]
  have proper : ({ root := .relative, names := [name] } : Path).IsProper := by
    simpa [Path.IsProper] using isName
  rw [Manifest.shownPath, seen, Option.getD_some, Path.text, proper.chars_eq (.inr (by simp))]
  simp [Root.slashes]

/-- The files that were noted have entries with the sizes that they have. -/
theorem mapM_entryOf {notes : List Note} {before : FileSystem}
    (records : job.Records above before fs notes) :
    (notes.map job.fileOf).mapM (Manifest.entryOf fs job.directory) =
      .ok (notes.map (entryOf above fs)) := by
  have entry (note : Note) (isIn : note ∈ notes) :
      Manifest.entryOf fs job.directory (job.fileOf note) = .ok (entryOf above fs note) := by
    obtain ⟨last, -, holds⟩ := records.holds note isIn
    obtain ⟨contents, modified, file, -⟩ := holds.file
    have there := holds.opens.stat_eq file
    rw [Manifest.entryOf, fileOf, text_shownPath _ (records.isName note isIn).1, Manifest.sizeOf,
      there, entryOf, file]
    rfl
  -- From here on each note stands for itself; the order of the notes no longer counts.
  clear records
  induction notes with
  | nil => rfl
  | cons note notes ih =>
    obtain ⟨here, later⟩ := List.forall_mem_cons.mp entry
    rw [List.map_cons, List.mapM_cons, here, ih later]
    rfl

/-- The manifest is written where its path opens, with the sizes that the files have then, and
nothing else changes. -/
theorem writeManifest_writes {files : List (Path × Option String)} (tree : s.fs.IsTree)
    (found : s.fs.isDirectory job.directory.text = .ok true)
    (wanted : job.arguments.manifest = true)
    (run : (job.writeManifest files).runOn s = (.ok (), s')) :
    ∃ entries place, files.mapM (Manifest.entryOf s.fs job.directory) = .ok entries ∧
      Opens s.fs (job.directory.child "manifest.json").text place ∧
        s'.fs = s.fs.put place
          (.file (Utf8.encode (job.manifestOf entries).text.toList) none) := by
  have isParent : (job.directory.child "manifest.json").parent = job.directory := by
    rw [Path.child_eq_further _ (by decide), Path.parent_further]
  obtain ⟨mode, there⟩ := isDirectory_eq_true_iff.mp found
  rw [← isParent] at there
  rw [writeManifest, if_pos wanted] at run
  obtain ⟨_, written, writes, reports⟩ := Action.runOn_bind_eq_ok.mp run
  obtain ⟨-, rfl⟩ := Prod.mk.inj reports
  obtain ⟨entries, prepared, place, isListed, prepares, -, opens, left⟩ :=
    Manifest.write_ok tree writes
  -- The directory is there, so none is made for the manifest.
  rw [Destination.prepare_of_directory there] at prepares
  obtain ⟨-, rfl⟩ := Prod.mk.inj prepares
  exact ⟨entries, place, isListed, opens, left⟩

/-- In a directory without links the manifest stands under its name. -/
theorem writeManifest_ok {files : List (Path × Option String)} (proper : job.directory.IsProper)
    (offers : Offers s.fs job.directory above) (wanted : job.arguments.manifest = true)
    (run : (job.writeManifest files).runOn s = (.ok (), s')) :
    ∃ entries, files.mapM (Manifest.entryOf s.fs job.directory) = .ok entries ∧
      Opens s.fs (job.directory.further manifestName).text (manifestName :: above) ∧
        s'.fs = s.fs.put (manifestName :: above)
          (.file (Utf8.encode (job.manifestOf entries).text.toList) none) := by
  have isName : isPathName manifestName = true := by decide
  have isChild : job.directory.child "manifest.json" = job.directory.further manifestName :=
    Path.child_eq_further job.directory isName
  have found := isDirectory_eq_true_iff.mpr offers.stat_eq
  obtain ⟨entries, place, lists, opens, left⟩ :=
    writeManifest_writes offers.tree found wanted run
  rw [isChild] at opens
  obtain rfl := offers.place_of_opens (Path.isProper_further.mpr ⟨proper, isName⟩) (by decide) opens
  exact ⟨entries, lists, opens, left⟩

/-! ## Entries in the end -/

/-- A manifest tells last for a path what was noted last for the name. -/
theorem lastDigest?_entries {m : Manifest} {notes : List Note}
    (lists : m.files = notes.map (entryOf above fs)) (name : List Char) :
    m.lastDigest? (String.ofList name) = lastDigits? notes name := by
  have same : (fun entry : ManifestEntry => decide (entry.path = String.ofList name)) ∘
      entryOf above fs = fun note => decide (note.name = name) := by
    funext note
    simp [entryOf, String.ofList_inj]
  rw [Manifest.lastDigest?, lists, ← List.map_reverse, List.find?_map, same, lastDigits?]
  cases notes.reverse.find? fun note => decide (note.name = name) <;> rfl

omit [Platform] in
/-- An entry whose file is there is true if it describes the file. -/
theorem isTrue_iff_of_stat {entry : ManifestEntry} {directory : Path} {modified : Option Int}
    (there : fs.stat (directory.child entry.path).text = .ok (.file contents modified)) :
    entry.IsTrue arguments directory fs ↔ entry.Describes arguments contents := by
  constructor
  · rintro ⟨_, _, there', describes⟩
    obtain ⟨rfl, -⟩ := Entry.file.inj (Except.ok.inj (there.symm.trans there'))
    exact describes
  · exact fun describes => ⟨contents, modified, there, describes⟩

/-- The entry of a note describes the file with the digits that were noted last if they are the
digits of the note. -/
theorem describes_entryOf {note : Note} {modified : Option Int} {last : String}
    (file : fs.get? (note.name :: above) = some (.file contents modified))
    (has : arguments.HasDigits contents last) :
    (entryOf above fs note).Describes arguments contents ↔ last = note.digits := by
  simp only [ManifestEntry.Describes, entryOf, file, Option.map_some, Manifest.entrySize, true_and,
    Option.some.injEq, exists_eq_left']
  constructor
  · exact has.unique
  · rintro rfl
    exact has

/-- The path of an entry is the name of the note. -/
theorem path_entryOf_iff {note : Note} {path : String} :
    (entryOf above fs note).path = path ↔ note.name = path.toList := by
  rw [entryOf]
  constructor
  · rintro rfl
    exact String.toList_ofList.symm
  · intro same
    rw [same, String.ofList_toList]

/-- The path of an entry is the one of the file that was noted. -/
theorem child_entryOf {note : Note} (isName : isPathName note.name = true) (directory : Path) :
    directory.child (entryOf above fs note).path = directory.further note.name := by
  rw [entryOf, Path.child_eq_further _ (by simpa using isName), String.toList_ofList]

omit [Platform] in
/-- Writing the manifest leaves the other files that were noted, with the digits noted last. -/
theorem Records.holds_put {notes : List Note} {before : FileSystem} {note : Note}
    {modified : Option Int} (records : job.Records above before fs notes)
    (opens : Opens fs (job.directory.further manifestName).text (manifestName :: above))
    (isIn : note ∈ notes) (other : note.name ≠ manifestName) :
    ∃ last, lastDigits? notes note.name = some last ∧
      job.Holds above (fs.put (manifestName :: above) (.file contents modified))
        ⟨note.name, last⟩ := by
  obtain ⟨last, isLast, holds⟩ := records.holds note isIn
  have written : Alters (fun _ => True) fs (manifestName :: above)
      (fs.put (manifestName :: above) (.file contents modified)) := .written opens.takes trivial
  exact ⟨last, isLast, holds.alters records.offers.tree written other⟩

/-- What holds of an entry once the manifest is written beside the files that were noted. -/
theorem isTrue_iff_of_records {notes : List Note} {before : FileSystem} {m : Manifest}
    {note : Note} (records : job.Records above before fs notes)
    (opens : Opens fs (job.directory.further manifestName).text (manifestName :: above))
    (lists : m.files = notes.map (entryOf above fs)) (isIn : note ∈ notes)
    (left : fs' = fs.put (manifestName :: above) (.file (Utf8.encode m.text.toList) none)) :
    (∃ contents modified, fs'.stat (job.directory.child (entryOf above fs note).path).text =
        .ok (.file contents modified)) ∧
      ((entryOf above fs note).IsTrue job.arguments job.directory fs' ↔
        m.Upholds job.arguments (entryOf above fs note)) := by
  have isChild : job.directory.child (entryOf above fs note).path =
      job.directory.further note.name := child_entryOf (records.isName note isIn).1 _
  have isManifest_iff : (entryOf above fs note).path = "manifest.json" ↔
      note.name = manifestName := path_entryOf_iff
  by_cases isManifest : note.name = manifestName
  -- The file was written over by the manifest, and holds its text.
  · obtain ⟨-, opens', file⟩ :=
      opens.written records.offers.tree (Utf8.encode m.text.toList) none
    have there : fs'.stat (job.directory.child (entryOf above fs note).path).text =
        .ok (.file (Utf8.encode m.text.toList) none) := by
      rw [isChild, isManifest, left]
      exact opens'.stat_eq file
    refine ⟨⟨_, _, there⟩, ?_⟩
    rw [isTrue_iff_of_stat there, Manifest.Upholds, if_pos (isManifest_iff.mpr isManifest)]
  -- The file has the digits noted last for its name, which need not be those of this note.
  · obtain ⟨last, isLast, holds⟩ :=
      @Records.holds_put job fs above (Utf8.encode m.text.toList) notes before note none records
        opens isIn isManifest
    rw [← left] at holds
    obtain ⟨contents, modified, file, has⟩ := holds.file
    have there := holds.opens.stat_eq file
    rw [← isChild] at there
    refine ⟨⟨_, _, there⟩, ?_⟩
    have same : fs'.get? (note.name :: above) = fs.get? (note.name :: above) := by
      rw [left]
      exact get?_put_of_ne fs (fun same => isManifest (List.cons.inj same).1) _
    rw [isTrue_iff_of_stat there, describes_entryOf (same ▸ file) has, Manifest.Upholds,
      if_neg (mt isManifest_iff.mp isManifest)]
    rw [entryOf, lastDigest?_entries lists, isLast, Option.some.injEq]

omit [Platform] in
/-- Without force the digits of every note are the last ones for its name. -/
theorem Records.lastDigits?_eq {notes : List Note} {before : FileSystem} {note : Note}
    (records : job.Records above before fs notes) (unforced : job.arguments.force = false)
    (isIn : note ∈ notes) : lastDigits? notes note.name = some note.digits := by
  obtain ⟨last, isLast, holds⟩ := records.holds note isIn
  have same : last = note.digits := holds.digits_eq (records.unforced unforced note isIn) rfl
  rw [isLast, same]

/-- Without force a manifest upholds every entry that is not for itself. -/
theorem upholds_of_unforced {notes : List Note} {before : FileSystem} {m : Manifest} {note : Note}
    (records : job.Records above before fs notes)
    (lists : m.files = notes.map (entryOf above fs)) (isIn : note ∈ notes)
    (unforced : job.arguments.force = false)
    (other : (entryOf above fs note).path ≠ "manifest.json") :
    m.Upholds job.arguments (entryOf above fs note) := by
  rw [Manifest.Upholds, if_neg other, entryOf, lastDigest?_entries lists,
    records.lastDigits?_eq unforced isIn]

omit [Platform] in
/-- The manifest is where its path leads. -/
theorem stat_manifest {notes : List Note} {before : FileSystem}
    (records : job.Records above before fs notes)
    (opens : Opens fs (job.directory.further manifestName).text (manifestName :: above))
    (left : fs' = fs.put (manifestName :: above) (.file contents none)) :
    fs'.stat (job.directory.child "manifest.json").text = .ok (.file contents none) := by
  have isName : isPathName "manifest.json".toList = true := by decide
  obtain ⟨-, opens', file⟩ := opens.written records.offers.tree contents none
  rw [Path.child_eq_further job.directory isName, left]
  exact opens'.stat_eq file

/-- A job with a manifest that succeeds leaves the files that it noted and the manifest of them. -/
theorem perform_ok (proper : job.directory.IsProper)
    (offers : Offers s.fs job.directory above) (wanted : job.arguments.manifest = true)
    (run : job.perform.runOn s = (.ok (), s')) :
    ∃ notes fetched,
      (job.fetchAll job.arguments.urls).runOn s = (.ok (notes.map job.fileOf), fetched) ∧
        notes.length = job.arguments.urls.length ∧ job.Records above s.fs fetched.fs notes ∧
        Opens fetched.fs (job.directory.further manifestName).text (manifestName :: above) ∧
        s'.fs = fetched.fs.put (manifestName :: above) (.file (Utf8.encode
          (job.manifestOf (notes.map (entryOf above fetched.fs))).text.toList) none) := by
  obtain ⟨files, fetched, fetches, writes⟩ := Action.runOn_bind_eq_ok.mp run
  obtain ⟨notes, rfl, length, records⟩ := fetchAll_ok proper offers fetches
  obtain ⟨entries, lists, opens, left⟩ := writeManifest_ok proper records.offers wanted writes
  obtain rfl := Except.ok.inj ((mapM_entryOf records).symm.trans lists)
  exact ⟨notes, fetched, fetches, length, records, opens, left⟩

/-- What is left by a job with a manifest that succeeds: the manifest, and what holds of its
entries. -/
theorem exists_manifest_of_perform (proper : job.directory.IsProper)
    (offers : Offers s.fs job.directory above) (wanted : job.arguments.manifest = true)
    (run : job.perform.runOn s = (.ok (), s')) :
    ∃ m : Manifest, m.files.length = job.arguments.urls.length ∧
      s'.fs.stat (job.directory.child "manifest.json").text =
        .ok (.file (Utf8.encode m.text.toList) none) ∧
      ∀ entry ∈ m.files,
        (∃ contents modified, s'.fs.stat (job.directory.child entry.path).text =
          .ok (.file contents modified)) ∧
        (entry.IsTrue job.arguments job.directory s'.fs ↔ m.Upholds job.arguments entry) ∧
        (job.arguments.force = false → entry.path ≠ "manifest.json" →
          m.Upholds job.arguments entry) := by
  obtain ⟨notes, fetched, -, length, records, opens, left⟩ :=
    perform_ok proper offers wanted run
  refine ⟨job.manifestOf (notes.map (entryOf above fetched.fs)), ?_,
    stat_manifest records opens left, fun entry isEntry => ?_⟩
  · rw [manifestOf, List.length_map, length]
  · obtain ⟨note, isIn, rfl⟩ := List.mem_map.mp isEntry
    obtain ⟨found, isTrue_iff⟩ := isTrue_iff_of_records records opens rfl isIn left
    exact ⟨found, isTrue_iff, upholds_of_unforced records rfl isIn⟩

end Job

/-! ## Whole runs -/

/-- A failure ends a run with another code than success. -/
theorem failureCode_ne_zero (failure : Failure) : failureCode failure ≠ 0 := by
  rw [failureCode]
  split
  · decide
  · decide

/-- A job that ends well has found its directory, or made it, and done what it asks for. -/
theorem runJob_ok [Platform] {session : Session} {outcome : Outcome} (tree : session.fs.IsTree)
    (unlinked : session.fs.IsUnlinked) (ended : runJob job session = (outcome, s'))
    (well : outcome.ending = .returned 0) :
    ∃ ready above, (Destination.ensure job.directory).runOn session = (.ok (), ready) ∧
      Offers ready.fs job.directory above ∧ job.perform.runOn ready = (.ok (), s') := by
  rw [runJob] at ended
  rcases ensured : (Destination.ensure job.directory).runOn session with ⟨failure | _, ready⟩
  · rw [ensured] at ended
    obtain ⟨rfl, rfl⟩ := Prod.mk.inj ended
    exact absurd (Ending.returned.inj well) (failureCode_ne_zero failure)
  · obtain ⟨above, offers⟩ := offers_of_ensure tree unlinked ensured
    rcases performed : job.perform.runOn ready with ⟨failure | _, after⟩
    · simp only [ensured, performed, conclude] at ended
      obtain ⟨rfl, rfl⟩ := Prod.mk.inj ended
      exact absurd (Ending.returned.inj well) (failureCode_ne_zero failure)
    · simp only [ensured, performed, conclude] at ended
      obtain ⟨-, rfl⟩ := Prod.mk.inj ended
      exact ⟨ready, above, rfl, offers, performed⟩

/-- Which entries of a manifest are true after a run that ends well: those that the manifest upholds.
The file of every entry is there, and without force the manifest upholds every entry for a file
other than itself. -/
theorem isTrue_iff_of_run [Platform] {program : String} {environment : List (String × String)}
    {surroundings : Surroundings} {words : List String} {outcome : Outcome} (tree : fs.IsTree)
    (unlinked : fs.IsUnlinked) (settings : surroundings.settings = .ofEnvironment environment)
    (parsed : parse surroundings.settings words = .run arguments)
    (wanted : arguments.manifest = true)
    (ended : run program surroundings words fs = (outcome, s'))
    (well : outcome.ending = .returned 0) :
    ∃ (directory : Path) (m : Manifest), arguments.destination = .given directory ∧
      m.files.length = arguments.urls.length ∧
      s'.fs.stat (directory.child "manifest.json").text =
        .ok (.file (Utf8.encode m.text.toList) none) ∧
      ∀ entry ∈ m.files,
        (∃ contents modified, s'.fs.stat (directory.child entry.path).text =
          .ok (.file contents modified)) ∧
        (entry.IsTrue arguments directory s'.fs ↔ m.Upholds arguments entry) ∧
        (arguments.force = false → entry.path ≠ "manifest.json" → m.Upholds arguments entry) := by
  rw [run, parsed] at ended
  simp only [runArguments] at ended
  rcases given : arguments.destination with directory | _
  · rw [given] at ended
    have proper := isProper_of_parse settings parsed given
    obtain ⟨ready, above, -, offers, performed⟩ := runJob_ok tree unlinked ended well
    obtain ⟨m, settled⟩ := Job.exists_manifest_of_perform proper offers wanted performed
    exact ⟨directory, m, rfl, settled⟩
  -- Without a directory the run fails before anything is fetched.
  · simp only [given, conclude] at ended
    obtain ⟨rfl, rfl⟩ := Prod.mk.inj ended
    exact absurd (Ending.returned.inj well) (failureCode_ne_zero _)

/-! ## Two files of one name -/

/-- A server with two files of one name. -/
def namesakes : Http.Transport := .ofRoutes [
  ("http://h/x/a", .ok { status := 200, headers := ⟨[]⟩, body := [.chunk [1]] }),
  ("http://h/y/a", .ok { status := 200, headers := ⟨[]⟩, body := [.chunk [2]] })]

/-- Where a run finds them. -/
def namesakeSurroundings : Surroundings := .ofEnvironment namesakes "" []

/-- The words that ask for both files and for a manifest, perhaps with force. -/
def namesakeWords (force : Bool) : List String :=
  (if force then ["--force"] else []) ++
    ["--manifest", "--algorithm", "md5", "--dest", "out", "http://h/x/a", "http://h/y/a"]

/-- What they ask for. -/
def namesakeArguments (force : Bool) : Arguments where
  urls := ["http://h/x/a", "http://h/y/a"]
  destination := .given (.ofText "out")
  force := force
  algorithm := .given "md5"
  checksum := none
  manifest := true

/-- What becomes of it on a file system with nothing but a root. -/
def fetchNamesakes (force : Bool) : Outcome × Session :=
  run "grab" namesakeSurroundings (namesakeWords force) (.empty [] 0o022)

/-- Without force the second file is left alone, and both entries are for the first. -/
theorem isTrue_of_unforced_namesakes :
    (FileSystem.empty [] 0o022).IsTree ∧ (FileSystem.empty [] 0o022).IsUnlinked ∧
      parse namesakeSurroundings.settings (namesakeWords false) =
        .run (namesakeArguments false) ∧
      (namesakeArguments false).manifest = true ∧
      (fetchNamesakes false).1.ending = .returned 0 ∧
      ∃ (directory : Path) (m : Manifest),
        (namesakeArguments false).destination = .given directory ∧ m.files.length = 2 ∧
        (fetchNamesakes false).2.fs.stat (directory.child "manifest.json").text =
          .ok (.file (Utf8.encode m.text.toList) none) ∧
        ∀ entry ∈ m.files, entry.path ≠ "manifest.json" →
          entry.IsTrue (namesakeArguments false) directory (fetchNamesakes false).2.fs := by
  have tree := isTree_empty [] 0o022
  have unlinked := isUnlinked_empty [] 0o022
  have parsed : parse namesakeSurroundings.settings (namesakeWords false) =
      .run (namesakeArguments false) := rfl
  have settings : namesakeSurroundings.settings = .ofEnvironment [] := rfl
  have well : (fetchNamesakes false).1.ending = .returned 0 := by decide +kernel
  obtain ⟨directory, m, given, length, there, settled⟩ :=
    isTrue_iff_of_run tree unlinked settings parsed rfl (Prod.eta (fetchNamesakes false)).symm well
  refine ⟨tree, unlinked, parsed, rfl, well, directory, m, given, length, there, ?_⟩
  intro entry isEntry other
  obtain ⟨-, isTrue_iff, unforced⟩ := settled entry isEntry
  exact isTrue_iff.mpr (unforced rfl other)

/-- The job of the run. -/
def namesakeJob (force : Bool) : Job where
  surroundings := namesakeSurroundings
  arguments := namesakeArguments force
  directory := .ofText "out"

/-- What such a job notes of the first file. -/
def firstNote : Job.Note := ⟨"a".toList, "55a54008ad1ba589aa210d2629c1df41"⟩

/-- What it notes of the second file, which replaces the first one under force. -/
def secondNote : Job.Note := ⟨"a".toList, "9e688c58a5487b8eaf69c9e1005ad0bf"⟩

/-- With force the first entry tells the digest of a file that the second one has replaced. -/
theorem not_isTrue_of_forced_namesakes :
    (FileSystem.empty [] 0o022).IsTree ∧ (FileSystem.empty [] 0o022).IsUnlinked ∧
      parse namesakeSurroundings.settings (namesakeWords true) = .run (namesakeArguments true) ∧
      (namesakeArguments true).manifest = true ∧
      (fetchNamesakes true).1.ending = .returned 0 ∧
      ∃ (directory : Path) (m : Manifest) (entry : ManifestEntry),
        (namesakeArguments true).destination = .given directory ∧
        (fetchNamesakes true).2.fs.stat (directory.child "manifest.json").text =
          .ok (.file (Utf8.encode m.text.toList) none) ∧
        entry ∈ m.files ∧ entry.path = "a" ∧
        ¬ entry.IsTrue (namesakeArguments true) directory (fetchNamesakes true).2.fs := by
  have tree := isTree_empty [] 0o022
  have unlinked := isUnlinked_empty [] 0o022
  have parsed : parse namesakeSurroundings.settings (namesakeWords true) =
      .run (namesakeArguments true) := rfl
  have well : (fetchNamesakes true).1.ending = .returned 0 := by decide +kernel
  refine ⟨tree, unlinked, parsed, rfl, well, ?_⟩
  have isRun : fetchNamesakes true =
      runJob (namesakeJob true) (.start (.empty [] 0o022) (some (.fresh none))) := by
    rw [fetchNamesakes, run, parsed]
    rfl
  obtain ⟨ready, above, ensured, offers, performed⟩ :=
    @runJob_ok (namesakeJob true) _ _ (.start (.empty [] 0o022) (some (.fresh none))) _ tree unlinked
      (isRun.symm.trans (Prod.eta _).symm) well
  have proper : (namesakeJob true).directory.IsProper := Path.isProper_ofText _
  obtain ⟨notes, fetched, fetches, length, records, opens, left⟩ :=
    Job.perform_ok proper offers rfl performed
  obtain rfl := congrArg Prod.snd ensured
  -- What the job notes is computed; the manifest itself stays a term, since its text is long.
  have computed : (((namesakeJob true).fetchAll (namesakeArguments true).urls).runOn
      ((Destination.ensure (namesakeJob true).directory).runOn
        (.start (.empty [] 0o022) (some (.fresh none)))).2).1.toOption =
      some ([firstNote, secondNote].map (namesakeJob true).fileOf) := by
    decide +kernel
  obtain rfl : notes = [firstNote, secondNote] := by
    have same := (congrArg (·.1.toOption) fetches).symm.trans computed
    exact (List.map_inj_right (namesakeJob true).fileOf_inj).mp (Option.some.inj same)
  have isIn : firstNote ∈ [firstNote, secondNote] := List.mem_cons_self
  obtain ⟨-, isTrue_iff⟩ := Job.isTrue_iff_of_records records opens rfl isIn left
  have isPath : (Job.entryOf above fetched.fs firstNote).path = "a" := Job.path_entryOf_iff.mpr rfl
  have other : (Job.entryOf above fetched.fs firstNote).path ≠ "manifest.json" := by
    rw [isPath]
    decide
  refine ⟨(namesakeJob true).directory,
    (namesakeJob true).manifestOf ([firstNote, secondNote].map (Job.entryOf above fetched.fs)),
    Job.entryOf above fetched.fs firstNote, rfl, Job.stat_manifest records opens left,
    List.mem_map_of_mem isIn, isPath, fun isTrue => ?_⟩
  -- If the entry were true, the manifest would tell no other digest later.
  have upholds := isTrue_iff.mp isTrue
  rw [Manifest.Upholds, if_neg other, Job.entryOf, Job.lastDigest?_entries rfl] at upholds
  have later : Job.lastDigits? [firstNote, secondNote] firstNote.name ≠
      some firstNote.digits := by decide +kernel
  exact later upholds

end CommandLine

end SafeFetch
