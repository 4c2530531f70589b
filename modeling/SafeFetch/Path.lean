import SafeFetch.Text.Blank

/-!
# Paths

The lexical side of file paths: a root and the names below it. Empty names and `.` say nothing and
are left out, while `..` is kept, because what it means is known to the file system only.
-/

namespace SafeFetch

open SafeFetch.Text

/-- Where a path begins. -/
inductive Root where
  /-- At the working directory. -/
  | relative
  /-- At the root. -/
  | single
  /-- At the root as two slashes write it, which systems may take for another one. -/
  | double
  deriving DecidableEq, Repr

/-- The slashes that write a root. -/
def Root.slashes : Root → List Char
  | .relative => []
  | .single => ['/']
  | .double => ['/', '/']

/-- Whether a text stands for a name in a path. -/
def isPathName (name : List Char) : Bool := !name.isEmpty && name != ['.'] && !name.contains '/'

/-- A path: a root and names, outermost first. -/
structure Path where
  root : Root
  names : List (List Char)
  deriving DecidableEq, Repr

namespace Path

/-- The root that a text begins with; three slashes and more are one. -/
def rootOf : List Char → Root
  | '/' :: '/' :: '/' :: _ => .single
  | '/' :: '/' :: _ => .double
  | '/' :: _ => .single
  | _ => .relative

/-- Read a path. -/
def ofChars (s : List Char) : Path where
  root := rootOf s
  names := (splitAll '/' s).filter isPathName

/-- Read a path. -/
def ofText (s : String) : Path := ofChars s.toList

/-- The characters of a path; one without any is the working directory. -/
def chars (p : Path) : List Char :=
  match p.root.slashes ++ List.intercalate ['/'] p.names with
  | [] => ['.']
  | s => s

/-- The text of a path. -/
def text (p : Path) : String := String.ofList p.chars

/-- The path without its last name. -/
def parent (p : Path) : Path := { p with names := p.names.dropLast }

/-- Whether a path begins at the root. -/
def isAbsolute (p : Path) : Bool := p.root ≠ .relative

/-- The path that `q` means when seen from `p`. -/
def join (p q : Path) : Path :=
  if q.isAbsolute then q else { p with names := p.names ++ q.names }

/-- The path of a name below `p`. -/
def child (p : Path) (name : String) : Path := p.join (ofText name)

/-- The path that leads from `base` to `p`, if the names of `base` begin `p`. -/
def relativeTo? (p base : Path) : Option Path :=
  if p.root = base.root ∧ base.names.isPrefixOf p.names then
    some { root := .relative, names := p.names.drop base.names.length }
  else none

end Path

end SafeFetch
