import SafeFetch.Failure
import SafeFetch.FileSystem.Basic
import SafeFetch.Text.Utf8

/-!
# Walks

A path is walked name by name from the root or from the working directory. `..` leads to the
directory above, and a link leads on along its target. A walk ends at an entry, or at a free name in
a directory; it is refused where a name is missing, is no directory or is too long, and after too
many links.
-/

namespace SafeFetch.FileSystem

open SafeFetch.Text

/-- Where a walk ends. -/
inductive Spot where
  | entry (place : Place) (entry : Entry)
  /-- A name that is free. -/
  | vacant (place : Place)
  deriving DecidableEq, Repr

/-- What a walk does about its last name. -/
inductive Ending where
  /-- A link is where the walk ends. -/
  | keepsLink
  | followsLink
  /-- A link is followed, and the name is the name of a file: no slash may follow it. -/
  | makesFile
  deriving DecidableEq, Repr

/-- The most bytes of a name. -/
def maxNameBytes : Nat := 255

/-- Paths must have fewer bytes than this. -/
def pathBytesLimit : Nat := 4096

/-- The most links that one walk follows. -/
def maxLinks : Nat := 40

/-- The place where a path begins. -/
def startOf (base : Place) (path : List Char) : Place :=
  if path.head? = some '/' then [] else base

/-- Whether nothing but slashes follows a name. -/
def isSlashed (rest : List (List Char)) : Bool := !rest.isEmpty && rest.all (·.isEmpty)

/-- Walk along names from a directory. Where a link has to be followed, `onLink` goes on from the
directory and along the names that the link stands for. -/
def walkNames (fs : FileSystem) (ending : Ending)
    (onLink : Place → List (List Char) → Except SystemError Spot) (here : Place) :
    List (List Char) → Except SystemError Spot
  | [] => .ok (.entry here ((fs.get? here).getD (.directory rootMode)))
  | name :: rest =>
    if name = [] ∨ name = ['.'] then walkNames fs ending onLink here rest
    else if name = ['.', '.'] then walkNames fs ending onLink here.tail rest
    else if ending = .makesFile ∧ isSlashed rest then .error .isDirectory
    else if maxNameBytes < (Utf8.encode name).length then .error .nameTooLong
    else
      match fs.get? (name :: here) with
      | none =>
        if rest.all (·.isEmpty) then .ok (.vacant (name :: here)) else .error .noEntry
      | some (.directory _) => walkNames fs ending onLink (name :: here) rest
      | some (.file contents modified) =>
        if rest.isEmpty then .ok (.entry (name :: here) (.file contents modified))
        else .error .notDirectory
      | some (.link target) =>
        if rest.isEmpty && ending = .keepsLink then .ok (.entry (name :: here) (.link target))
        else onLink (startOf here target) (splitAll '/' target ++ rest)

/-- Walk along names from a directory, following at most `links` links. -/
def walk (fs : FileSystem) (ending : Ending) :
    (links : Nat) → Place → List (List Char) → Except SystemError Spot
  | 0 => walkNames fs ending fun _ _ => .error .tooManyLinks
  | links + 1 => walkNames fs ending (walk fs ending links)

/-- Walk along a path. -/
def resolve (fs : FileSystem) (ending : Ending) (path : List Char) : Except SystemError Spot :=
  if path.isEmpty then .error .noEntry
  else if pathBytesLimit ≤ (Utf8.encode path).length then .error .nameTooLong
  else walk fs ending maxLinks (startOf fs.workingDirectory path) (splitAll '/' path)

end SafeFetch.FileSystem
