import SafeFetch.Text.Quoted
import SafeFetch.Text.Blank

/-!
# Safe file names

Reduction of an untrusted text to one file name. The text is read as a path from a root that
nothing can leave, and the last name on that path is kept.
-/

namespace SafeFetch.FileName

open SafeFetch.Text

/-- The names on the path so far, innermost first, after one more segment: an empty segment and
`.` stay, `..` leaves the innermost name (the root has none to leave), any other segment enters. -/
def enter (names : List (List Char)) (segment : List Char) : List (List Char) :=
  if segment = [] ∨ segment = ['.'] then names
  else if segment = ['.', '.'] then names.tail
  else segment :: names

/-- The names on the path that a text describes, innermost first. -/
def descend (s : List Char) : List (List Char) := (splitAll '/' s).foldl enter []

/-- Whether a text is refused before its path is followed: it is empty, ends in a slash or holds a
NUL. -/
def isRefused (s : List Char) : Bool :=
  s.isEmpty || s.getLast? == some '/' || s.contains '\x00'

/-- The innermost name on the path that an untrusted text describes. -/
def sanitizeChars (s : List Char) : Option (List Char) :=
  if isRefused s then none else (descend s).head?

/-- Reduce an untrusted text to a single safe file name, if it has one. -/
def sanitize? (candidate : String) : Option String :=
  (sanitizeChars candidate.toList).map String.ofList

end SafeFetch.FileName
