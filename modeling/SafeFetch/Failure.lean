import SafeFetch.Http.Date
import SafeFetch.Http.Headers
import SafeFetch.Http.Url
import SafeFetch.Text.Hex
import SafeFetch.Text.Quoted

/-!
# Failures

Everything that can stop an operation, one cause each, with the text that reports it. A failure also
has a category, which decides how a user is told of it.
-/

namespace SafeFetch

open SafeFetch.Text

/-- What a file system refuses to do. -/
inductive SystemError where
  | noEntry
  | entryExists
  | notDirectory
  | isDirectory
  | nameTooLong
  | tooManyLinks
  deriving DecidableEq, Repr

/-- The number by which systems know an error. -/
def SystemError.number : SystemError → Nat
  | .noEntry => 2
  | .entryExists => 17
  | .notDirectory => 20
  | .isDirectory => 21
  | .nameTooLong => 36
  | .tooManyLinks => 40

/-- The text of an error. -/
def SystemError.text : SystemError → String
  | .noEntry => "No such file or directory"
  | .entryExists => "File exists"
  | .notDirectory => "Not a directory"
  | .isDirectory => "Is a directory"
  | .nameTooLong => "File name too long"
  | .tooManyLinks => "Too many levels of symbolic links"

/-- The kinds of trouble that the other side of a transfer reports. -/
inductive TroubleKind where
  | device
  | value
  | running
  | read
  | readTimeout
  | connect
  | connectTimeout
  | protocol
  deriving DecidableEq, Repr

/-- The category of a failure. -/
inductive Category where
  /-- The user stopped a transfer. -/
  | cancelled
  /-- The exchange with a server failed. -/
  | exchange
  /-- The file that came is not what was asked for. -/
  | delivery
  /-- A file or a device failed. -/
  | system
  /-- A value that was given cannot be used. -/
  | value
  | other
  deriving DecidableEq, Repr

/-- What a server answered in place of a success. -/
structure Refusal where
  status : Nat
  reason : String
  url : String
  /-- Where the answer redirects to. -/
  location : Option String
  deriving DecidableEq, Repr

/-- The class of statuses that a refusal belongs to. -/
def Refusal.className (r : Refusal) : String :=
  match r.status / 100 with
  | 1 => "Informational response"
  | 3 => "Redirect response"
  | 4 => "Client error"
  | 5 => "Server error"
  | _ => "Invalid status code"

/-- The text of a refusal. -/
def Refusal.message (r : Refusal) : String :=
  s!"{r.className} '{r.status} {r.reason}' for url '{r.url}'\n" ++
    (match r.location with
      | some location => s!"Redirect location: '{location}'\n"
      | none => "") ++
    "For more information check: https://developer.mozilla.org/en-US/docs/Web/HTTP/Status/" ++
      toString r.status

/-- What stops an operation. -/
inductive Failure where
  /-- A text has no part that could name a file. -/
  | unusableName (candidate : String)
  | cancelled (written : Nat)
  | mismatch (path : String) (expected actual : List UInt8)
  /-- The file system refused; the path is known unless the request was made by other means. -/
  | system (error : SystemError) (path : Option String)
  | nulInPath
  | notDirectory (path : String)
  /-- More directories are missing than can be made at once. -/
  | tooManyMissing
  /-- The other side of a transfer reported trouble. -/
  | trouble (kind : TroubleKind) (text : String)
  | unsupportedAlgorithm (name : String)
  | nulInAlgorithm
  /-- The algorithm has digests of any length, and none was asked for. -/
  | digestLengthRequired
  /-- A digest is not hexadecimal at a position. -/
  | notHexadecimal (position : Nat)
  | checksumWithoutAlgorithm
  /-- A value that was announced and not given cannot be put to a use. -/
  | valueWithheld (use : String)
  | nulInCharset
  /-- A size of chunks does not fit into a machine word. -/
  | sizeBeyondWord
  /-- A size of chunks leaves no room for the bookkeeping of a block of memory. -/
  | sizeBeyondBlock
  /-- There is no room in memory for a chunk of the size that is asked for. -/
  | outOfMemory
  | negativeSize
  /-- A piece of a body is no bytes at all. -/
  | missingChunk
  | header (fault : Http.Headers.Fault)
  | date (fault : Http.Date.Fault)
  | url (fault : Http.Url.Fault)
  | urlParts (fault : Http.UrlParts.Fault)
  /-- The host name of a request has a form in ASCII that cannot be read. -/
  | hostName (fault : Http.HostName.Fault)
  /-- A fragment that a redirect carries on holds a control character. -/
  | controlInFragment (c : Char) (position : Nat)
  /-- The URL of an exchange has no scheme. -/
  | schemeMissing (address : String)
  | refused (refusal : Refusal)
  | redirectLocation (fault : Http.Url.Fault)
  | tooManyRedirects
  deriving DecidableEq, Repr

namespace Failure

/-- The text that reports a failure. -/
def message : Failure → String
  | .unusableName candidate => "unusable filename candidate: " ++ quoted candidate
  | .cancelled written => s!"copy cancelled after {written} bytes"
  | .mismatch path expected actual =>
    s!"checksum mismatch for {path}: expected " ++ String.ofList (Hex.encode expected) ++
      ", got " ++ String.ofList (Hex.encode actual)
  | .system error none => s!"[Errno {error.number}] {error.text}"
  | .system error (some path) => s!"[Errno {error.number}] {error.text}: " ++ quoted path
  | .nulInPath => "embedded null byte"
  | .notDirectory path => "destination path is not a directory: " ++ path
  | .tooManyMissing => "maximum recursion depth exceeded while calling a Python object"
  | .trouble _ text => text
  | .unsupportedAlgorithm name => "Unsupported checksum algorithm " ++ quoted name
  | .nulInAlgorithm => "name must be a string"
  | .digestLengthRequired => "digest() missing required argument 'length' (pos 1)"
  | .notHexadecimal position =>
    s!"non-hexadecimal number found in fromhex() arg at position {position}"
  | .checksumWithoutAlgorithm => "expected_checksum requires an algorithm"
  | .valueWithheld use => s!"'list' object has no attribute '{use}'"
  | .nulInCharset => "embedded null character"
  | .sizeBeyondWord => "cannot fit 'int' into an index-sized integer"
  | .sizeBeyondBlock => "byte string is too large"
  | .outOfMemory => ""
  | .negativeSize => "read length must be non-negative or -1"
  | .missingChunk => "object of type 'NoneType' has no len()"
  | .header fault => fault.message
  | .date fault => fault.message
  | .url fault => fault.message
  | .urlParts fault => fault.message
  | .hostName fault => fault.message
  | .controlInFragment c position =>
    "Invalid non-printable ASCII character in URL fragment component, " ++
      quoted (String.singleton c) ++ s!" at position {position}."
  | .schemeMissing address => "unknown url type: " ++ quoted address
  | .refused refusal => refusal.message
  | .redirectLocation fault => s!"Invalid URL in location header: {fault.message}."
  | .tooManyRedirects => "Exceeded maximum allowed redirects."

/-- The category of a kind of trouble. -/
def troubleCategory : TroubleKind → Category
  | .device => .system
  | .value => .value
  | .running => .other
  | .read | .readTimeout | .connect | .connectTimeout | .protocol => .exchange

/-- The category of a failure. -/
def category : Failure → Category
  | .cancelled _ => .cancelled
  | .unusableName _ | .mismatch _ _ _ => .delivery
  | .system _ _ => .system
  | .trouble kind _ => troubleCategory kind
  | .refused _ | .redirectLocation _ | .tooManyRedirects => .exchange
  | .nulInPath | .unsupportedAlgorithm _ | .notHexadecimal _ | .checksumWithoutAlgorithm
  | .nulInCharset | .negativeSize | .header _ | .urlParts _ | .hostName _ | .schemeMissing _ =>
    .value
  | .notDirectory _ | .tooManyMissing | .nulInAlgorithm | .digestLengthRequired | .sizeBeyondWord
  | .sizeBeyondBlock | .outOfMemory | .valueWithheld _ | .missingChunk | .date _ | .url _
  | .controlInFragment _ _ => .other

end Failure

end SafeFetch
