import SafeFetch.Destination
import SafeFetch.Platform
import SafeFetch.Text.Json

/-!
# Manifests

A document that lists the files of a run: where they came from and when, and each file with its
path, digest and size.
-/

namespace SafeFetch

open SafeFetch.Text

/-- A file in a manifest. -/
structure ManifestEntry where
  path : String
  digest : Option String
  size : Option Nat
  deriving DecidableEq, Repr

/-- What a manifest says. -/
structure Manifest where
  sourceUrl : String
  downloadedAt : String
  sources : List String
  files : List ManifestEntry
  deriving DecidableEq, Repr

namespace Manifest

variable [Platform]

/-- A text as a document. -/
def textValue (s : String) : JsonValue := .text s.toList

/-- A member of an object. -/
def memberOf (name : String) (value : JsonValue) : List Char × JsonValue := (name.toList, value)

/-- An entry as a document. -/
def entryValue (entry : ManifestEntry) : JsonValue :=
  .object [
    memberOf "path" (textValue entry.path),
    memberOf "file_hash" ((entry.digest.map textValue).getD .null),
    memberOf "size" ((entry.size.map .number).getD .null)]

/-- A manifest as a document. -/
def value (m : Manifest) : JsonValue :=
  .object [
    memberOf "source_url" (textValue m.sourceUrl),
    memberOf "downloaded_at" (textValue m.downloadedAt),
    memberOf "sources" (.array (m.sources.map textValue)),
    memberOf "files" (.array (m.files.map entryValue))]

/-- The text of a manifest. -/
def text (m : Manifest) : String := String.ofList (m.value.render 0)

/-- The path of a file as it is seen from the base directory, if it lies below. -/
def shownPath (base path : Path) : Path := (path.relativeTo? base).getD path

/-- The size of an entry. -/
def entrySize : Entry → Nat
  | .file contents _ => contents.length
  | .directory _ => Platform.directorySize
  | .link target => (Utf8.encode target).length

/-- The size of the file that a path leads to; one that cannot be reached has none. -/
def sizeOf (fs : FileSystem) (path : Path) : Except Failure (Option Nat) :=
  match fs.stat path.text with
  | .ok entry => .ok (some (entrySize entry))
  | .error (.system _ _) => .ok none
  | .error failure => .error failure

/-- The entry of a file. -/
def entryOf (fs : FileSystem) (base : Path) (file : Path × Option String) :
    Except Failure ManifestEntry := do
  return { path := (shownPath base file.1).text, digest := file.2, size := ← sizeOf fs file.1 }

/-- Write the manifest of files below a base directory. Without sources the source URL is the only
one. -/
def write (target : Path) (sourceUrl downloadedAt : String) (files : List (Path × Option String))
    (base : Path) (sources : List String) : Action Unit := do
  let entries ← Action.query fun fs => files.mapM (entryOf fs base)
  Destination.prepare target
  let manifest : Manifest := {
    sourceUrl, downloadedAt, files := entries
    sources := if sources.isEmpty then [sourceUrl] else sources }
  let (place, fs) ← Action.query (·.create target.text)
  modify fun s => { s with fs := fs.store place (Utf8.encode manifest.text.toList) }

end Manifest

end SafeFetch
