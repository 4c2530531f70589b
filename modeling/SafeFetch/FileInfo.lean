import SafeFetch.Disposition.ExtendedValue
import SafeFetch.Failure
import SafeFetch.FileName
import SafeFetch.Http.Headers
import SafeFetch.Http.Url
import SafeFetch.Log

/-!
# What a response says about its file

The path of the URL that was asked for and the two header fields that describe the file, taken from
an exchange or from a plain URL with a mapping of header fields. A safe file name is chosen from
them: the name that the header gives, if it can be used, and else the last name on the path.
-/

namespace SafeFetch

open SafeFetch.Text

/-- What a response says about the file it carries. -/
structure FileInfo where
  urlPath : String
  contentDisposition : Option String
  lastModified : Option String
  deriving DecidableEq, Repr

namespace FileInfo

/-- What the header of a response for a path says. -/
def ofHeaders (urlPath : String) (headers : Http.Headers) : FileInfo where
  urlPath := urlPath
  contentDisposition := headers.get? "content-disposition"
  lastModified := headers.get? "last-modified"

/-- What the response to a request for `url` says. -/
def ofResponse (url : Http.Url) (headers : Http.Headers) : FileInfo :=
  ofHeaders url.requestPath headers

/-- What a URL and a mapping of header fields say. -/
def ofUrl (url : String) (fields : List (String × String)) : Except Failure FileInfo := do
  let headers ← (Http.Headers.ofMapping fields).mapError .header
  let parts ← (Http.UrlParts.parse url.toList).mapError .urlParts
  return ofHeaders (String.ofList (Percent.decode parts.path)) headers

/-- The name in the header, if the header has one. -/
def hintedName [Platform] (info : FileInfo) : Except Charset.Fault (Option String) :=
  match info.contentDisposition with
  | some value => if value.isEmpty then .ok none else Disposition.fileNameOf value
  | none => .ok none

/-- The record of a date in the header that cannot be read. -/
def ignoredDate (date : String) : LogRecord where
  level := .debug
  message := "Ignoring unparsable Last-Modified header " ++ quoted date

/-- The instant of the last modification, if the header tells it, and the record of a date that had
to be ignored. -/
def modifiedAt (info : FileInfo) : Except Failure (Option Int) × List LogRecord :=
  match info.lastModified.filter (!·.isEmpty) with
  | none => (.ok none, [])
  | some date =>
    match Http.Date.instant? date with
    | .error fault => (.error (.date fault), [])
    | .ok none => (.ok none, [ignoredDate date])
    | .ok (some instant) => (.ok (some instant), [])

/-- The record of a name in the header that cannot be used. -/
def ignoredName (name : String) : LogRecord where
  level := .debug
  message := "Ignoring unusable Content-Disposition filename " ++ quoted name

/-- Reduce a text to a safe name, or fail. -/
def safeName (candidate : String) : Except Failure String :=
  match FileName.sanitize? candidate with
  | some name => .ok name
  | none => .error (.unusableName candidate)

/-- Choose a safe file name, and tell of a name that had to be ignored. -/
def chooseName [Platform] (info : FileInfo) : Except Failure String × List LogRecord :=
  match info.hintedName with
  | .error _ => (.error .nulInCharset, [])
  | .ok none => (safeName info.urlPath, [])
  | .ok (some hinted) =>
    match FileName.sanitize? hinted with
    | some name => (.ok name, [])
    | none => (safeName info.urlPath, [ignoredName hinted])

end FileInfo

end SafeFetch
