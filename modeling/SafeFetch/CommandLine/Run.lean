import SafeFetch.CommandLine.Help
import SafeFetch.Download
import SafeFetch.Manifest

/-!
# Runs of the command line

Every URL is downloaded in turn into one directory. The first failure ends the run and is reported
by its category; a run that was cancelled has an exit code of its own.
-/

namespace SafeFetch.CommandLine

open SafeFetch.Text SafeFetch.Transfer

/-- How a run ends. -/
inductive Ending where
  | returned (code : Nat)
  /-- The program left before it began, over its own command line. -/
  | left (code : Nat)
  /-- The help could not be shown. -/
  | unexplained (fault : Template.Fault)
  deriving DecidableEq, Repr

/-- What a run does besides its effects on the session. -/
structure Outcome where
  ending : Ending
  /-- The timeout of exchanges, once they could be made. -/
  timeout : Option Binary64
  output : String
  errorOutput : String
  deriving DecidableEq, Repr

/-- A run that says nothing. -/
def Outcome.silent (ending : Ending) (timeout : Option Binary64) : Outcome :=
  { ending, timeout, output := "", errorOutput := "" }

/-- The exit code of a run. -/
def Outcome.exitCode (o : Outcome) : Nat :=
  match o.ending with
  | .returned code | .left code => code
  | .unexplained _ => 1

/-- What a run knows besides its arguments. -/
structure Surroundings where
  transport : Http.Transport
  settings : Settings
  /-- The time that a manifest tells. -/
  time : String
  /-- How many bytes of a file that is already there are read at a time. This is the size of chunks
  that was set when the library was loaded, whatever the settings of the run say. -/
  readSize : Nat
  readSize_pos : 0 < readSize

/-- What surrounds a run in an environment that the library was loaded in as well. -/
def Surroundings.ofEnvironment (transport : Http.Transport) (time : String)
    (environment : List (String × String)) : Surroundings where
  transport := transport
  settings := .ofEnvironment environment
  time := time
  readSize := (Settings.ofEnvironment environment).chunkSize
  readSize_pos := Settings.chunkSize_pos environment

/-- What a run is made of. -/
structure Job where
  surroundings : Surroundings
  arguments : Arguments
  /-- The directory that files go to. -/
  directory : Path

namespace Job

variable [Platform]

/-- The hasher that a run asks for. -/
def hasher (job : Job) : HasherChoice :=
  match job.arguments.algorithm with
  | .given name => .named name
  | .withheld => .given .withheld

/-- The digest that a run asks for. -/
def expected (job : Job) : Option Expected :=
  job.arguments.checksum.map fun
    | .given digits => .text digits
    | .withheld => .withheld

/-- The algorithm as records show it. -/
def algorithmText (job : Job) : String :=
  match job.arguments.algorithm with
  | .given name => name
  | .withheld => "[]"

/-- The download of a URL. -/
def download (job : Job) (url : String) : DownloadOptions where
  url := url
  destination := job.directory.text
  force := job.arguments.force
  hasher := some job.hasher
  expected := job.expected
  removesMismatch := true
  followsRedirects := true

/-- The digest of a file that is already there, which must be the expected one. -/
def present (job : Job) (path : Path) : Action (List UInt8) :=
  let size : Int := job.surroundings.readSize
  match job.arguments.checksumDigits? with
  | some digits => Checksum.verify path job.hasher (.text digits) false size
  | none => Checksum.ofFile path.text job.hasher size

/-- Hexadecimal digits of a digest, unless it is empty. -/
def digits? (digest : Option (List UInt8)) : Option String :=
  (digest.filter (!·.isEmpty)).map fun bytes => String.ofList (Hex.encode bytes)

/-- Download a URL, and give the file and its digest. -/
def fetch (job : Job) (url : String) : Action (Path × Option String) := do
  let result ← Download.run job.surroundings.transport (job.download url)
  if result.isSkipped then
    Action.report .info ("Already present: " ++ result.path.text)
    let digest ← job.present result.path
    return (result.path, some (String.ofList (Hex.encode digest)))
  else
    let digits := digits? result.digest
    let shown := digits.getD "None"
    Action.report .info
      (s!"Saved {result.path.text} ({result.bytesWritten} bytes, " ++
        s!"{job.algorithmText} {shown})")
    return (result.path, digits)

/-- Download the URLs in order. -/
def fetchAll (job : Job) : List String → Action (List (Path × Option String))
  | [] => pure []
  | url :: rest => do
    let file ← job.fetch url
    let files ← job.fetchAll rest
    return file :: files

/-- Write the manifest of the files, if it is asked for. -/
def writeManifest (job : Job) (files : List (Path × Option String)) : Action Unit := do
  if job.arguments.manifest then
    let path := job.directory.child "manifest.json"
    Manifest.write path (job.arguments.urls.headD "") job.surroundings.time files job.directory
      job.arguments.urls
    Action.report .info ("Wrote manifest to " ++ path.text)

/-- Download all URLs and write the manifest. -/
def perform (job : Job) : Action Unit := do
  let files ← job.fetchAll job.arguments.urls
  job.writeManifest files

end Job

/-- How a failure of a category is introduced. -/
def introduction : Category → String
  | .cancelled => "Cancelled: "
  | .exchange => "HTTP error during download: "
  | .delivery => "Download failed: "
  | .system => "File or I/O error during download: "
  | .value => "Invalid checksum option: "
  | .other => "Unexpected error during download: "

/-- The record of a failure that ends a run. -/
def failureRecord (failure : Failure) : LogRecord where
  level := if failure.category = .cancelled then .warning else .error
  message := introduction failure.category ++ failure.message

/-- The exit code of a run that ends with a failure. -/
def failureCode (failure : Failure) : Nat := if failure.category = .cancelled then 130 else 1

/-- The exit code of a run, and its session with the record of a failure. -/
def conclude (outcome : Except Failure Unit × Session) : Nat × Session :=
  match outcome with
  | (.ok (), session) => (0, session)
  | (.error failure, session) =>
    (failureCode failure, { session with log := failureRecord failure :: session.log })

variable [Platform]

/-- Do what a job asks for. -/
def runJob (job : Job) (session : Session) : Outcome × Session :=
  match (Destination.ensure job.directory).runOn session with
  | (.error failure, session) =>
    let (code, session) := conclude (.error failure, session)
    (.silent (.returned code) none, session)
  | (.ok (), session) =>
    let (code, session) := conclude (job.perform.runOn session)
    (.silent (.returned code) (some job.surroundings.settings.timeout), session)

/-- Do what the arguments ask for. -/
def runArguments (surroundings : Surroundings) (arguments : Arguments) (session : Session) :
    Outcome × Session :=
  match arguments.destination with
  | .given directory => runJob { surroundings, arguments, directory } session
  | .withheld =>
    let (code, session) := conclude (.error (.valueWithheld "mkdir"), session)
    (.silent (.returned code) none, session)

/-- What a program says to a user who asks for help. -/
def explain (program : String) (settings : Settings) : Outcome :=
  match help program settings with
  | .ok text => { ending := .left 0, timeout := none, output := text, errorOutput := "" }
  | .error fault => .silent (.unexplained fault) none

/-- Run a command line on a file system. -/
def run (program : String) (surroundings : Surroundings) (words : List String) (fs : FileSystem) :
    Outcome × Session :=
  let session := Session.start fs (some (.fresh none))
  match parse surroundings.settings words with
  | .run arguments => runArguments surroundings arguments session
  | .help => (explain program surroundings.settings, session)
  | .refused message =>
    ({ ending := .left 2, timeout := none, output := "",
       errorOutput := complaint program message }, session)

end SafeFetch.CommandLine
