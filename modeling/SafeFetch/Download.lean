import SafeFetch.Checksum
import SafeFetch.Destination
import SafeFetch.Http.Exchange

/-!
# Downloads

A file is asked for, its destination is chosen, and its body is copied there chunk by chunk while
its digest is computed. A file that is already there is left alone unless it is to be replaced, and
a file that could not be completed is removed.
-/

namespace SafeFetch

open SafeFetch.Text SafeFetch.Transfer

/-- What is asked of a download. -/
structure DownloadOptions where
  url : String
  /-- Where the file goes to. -/
  destination : String
  /-- Replace a file that is already there. -/
  force : Bool
  hasher : Option HasherChoice
  /-- The digest that the file must have. -/
  expected : Option Expected
  /-- Remove a file that has another digest. -/
  removesMismatch : Bool
  followsRedirects : Bool

/-- What a download leads to. -/
structure DownloadResult where
  path : Path
  bytesWritten : Nat
  digest : Option (List UInt8)
  isSkipped : Bool
  deriving DecidableEq, Repr

namespace Download

variable [Platform]

/-- Ask for the URL of a download; a response that is no success is a failure. -/
def request (transport : Http.Transport) (options : DownloadOptions) :
    Action (Http.Url × Http.Response) := do
  let outcome := Http.exchange transport options.followsRedirects options.url
  modify fun s => {
    s with
    requests := outcome.requests.reverse ++ s.requests
    signal := if outcome.isSignalled then s.signal.map (·.setRaised) else s.signal }
  let (url, response) ← Action.ofExcept outcome.answer
  match response.refusal? url with
  | some failure => throw failure
  | none => return (url, response)

/-- A response and the path of the file that its body goes to. -/
structure Delivery where
  url : Http.Url
  response : Http.Response
  path : Path
  deriving DecidableEq

/-- What the response says about the file. -/
def Delivery.info (delivery : Delivery) : FileInfo :=
  .ofResponse delivery.url delivery.response.headers

/-- Ask for a file and choose its path. -/
def deliver (transport : Http.Transport) (options : DownloadOptions) : Action Delivery := do
  let (url, response) ← request transport options
  let path ←
    Destination.resolve options.destination (FileInfo.ofResponse url response.headers)
  return { url, response, path }

/-- Find out where a file goes, unless it shall have a digest that nothing computes. -/
def locate (transport : Http.Transport) (options : DownloadOptions) : Action Delivery := do
  if options.expected.isSome && options.hasher.isNone then throw .checksumWithoutAlgorithm
  deliver transport options

/-- The hasher that computes the digest, if one is asked for. -/
def startHasher? (choice : Option HasherChoice) : Except Failure (Option Hasher) :=
  match choice with
  | some choice => choice.start.map some
  | none => .ok none

/-- Make ready for the body of a response. -/
def setUp (options : DownloadOptions) (path : Path) : Action (Option Hasher) := do
  Destination.prepare path
  let hasher ← Action.ofExcept (startHasher? options.hasher)
  Action.report .info s!"Downloading {options.url} -> {path.text}"
  return hasher

/-- The sink that a body is copied into: the file, and the hasher after it. -/
def sinkOf (file : Buffer) (hasher : Option Hasher) : Sink :=
  match hasher with
  | some hasher => .fan [.buffer file, .hash hasher]
  | none => .buffer file

/-- The sink before a body is copied. -/
def freshSink (path : Path) (hasher : Option Hasher) : Sink :=
  sinkOf (.empty path.text none none) hasher

/-- The bytes that a file has taken. -/
def contentsOf (sink : Sink) : List UInt8 := (sink.firstBuffer?.map (·.contents)).getD []

/-- Copy a body into a file, which keeps what it took up to a failure. -/
def writeBody (path : Path) (hasher : Option Hasher) (body : List Item) : Action (Nat × Sink) := do
  let (place, fs) ← Action.query (·.create path.text)
  modify fun s => { s with fs }
  let (count, sink) ← Checksum.copyInto (.stream body) (freshSink path hasher)
  modify fun s => { s with fs := s.fs.store place (contentsOf sink) }
  return (← Action.ofExcept count, sink)

/-- The text of the record of a file that is removed because of a failure. -/
def removalMessage (url : String) (path : Path) : Failure → String
  | .cancelled _ => s!"Download cancelled, removing partial file {path.text}"
  | _ => s!"Download of {url} failed, removing partial file {path.text}"

/-- Remove a file that could not be completed. -/
def discard (url : String) (path : Path) (failure : Failure) : Action Unit := do
  Action.report .warning (removalMessage url path failure)
  Action.change (·.removeIfPresent path.text)

/-- Copy a body into a file, which is removed if that fails. -/
def fill (url : String) (path : Path) (hasher : Option Hasher) (body : List Item) :
    Action (Nat × Sink) :=
  (writeBody path hasher body).onFailure (discard url path)

/-- Check the digest of a complete file. -/
def check (path : Path) (options : DownloadOptions) (digest : List UInt8) : Action Unit := do
  match options.expected with
  | none => return
  | some expected =>
    let wanted ← Action.ofExcept expected.decode
    if digest ≠ wanted then Checksum.failMismatch path wanted digest options.removesMismatch

/-- The digest of a hasher, if there is one. -/
def digestOf? (hasher : Option Hasher) : Except Failure (Option (List UInt8)) :=
  match hasher with
  | some hasher => hasher.digest.map some
  | none => .ok none

/-- Finish a file that has taken a whole body: stamp it and check its digest. -/
def finish (options : DownloadOptions) (info : FileInfo) (path : Path) (count : Nat)
    (sink : Sink) : Action DownloadResult := do
  let _ ← Destination.stamp info path.text
  let digest ← Action.ofExcept (digestOf? sink.firstHasher?)
  if let some digest := digest then check path options digest
  return { path, bytesWritten := count, digest, isSkipped := false }

/-- Write the body of a response to a path that is free to be written to. -/
def complete (options : DownloadOptions) (delivery : Delivery) : Action DownloadResult := do
  let path := delivery.path
  let hasher ← setUp options path
  let (count, sink) ← fill options.url path hasher delivery.response.bodyItems
  finish options delivery.info path count sink

/-- Leave a file alone that is already there. -/
def skip (path : Path) : Action DownloadResult := do
  Action.report .debug ("Skipping (exists): " ++ path.text)
  return { path, bytesWritten := 0, digest := none, isSkipped := true }

/-- Download a file. -/
def run (transport : Http.Transport) (options : DownloadOptions) : Action DownloadResult := do
  let delivery ← locate transport options
  let isThere ← Action.query (·.leadsSomewhere delivery.path.text)
  if isThere && !options.force then skip delivery.path else complete options delivery

end Download

end SafeFetch
