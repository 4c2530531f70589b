import SafeFetch.FileInfo
import SafeFetch.Path
import SafeFetch.Platform
import SafeFetch.Session

/-!
# Destinations

Where a file goes: a destination names the file itself, unless it is a directory or is written with
a slash at its end; then the file goes into it, under the name chosen from the response. The
directories on the way are made when they are missing, unless there are too many of them.
-/

namespace SafeFetch.Destination

variable [Platform]

/-- The mode of directories made on the way to a file, before the umask. -/
def directoryMode : Nat := 0o755

/-- Do what takes one of the directories that may still be made, of which there are `room`. -/
def within (room : Nat) (action : Action Unit) : Action Unit :=
  if room = 0 then throw .tooManyMissing else action

/-- Make the directory with the given names, innermost first, and those above it, at most `room`. -/
def makeDirectories (root : Root) (room : Nat) : List (List Char) → Action Unit
  | [] => makeOne { root, names := [] } (pure ())
  | name :: above =>
    makeOne { root, names := (name :: above).reverse }
      (within room (makeDirectories root (room - 1) above))
where
  /-- Make one directory after those above it, unless it is there. -/
  makeOne (path : Path) (makeAbove : Action Unit) : Action Unit := do
    unless ← Action.query (·.isDirectory path.text) do
      makeAbove
      tryCatch (Action.change (·.makeDirectory path.text directoryMode)) fun
        | .system .entryExists place => do
          unless ← Action.query (·.isDirectory path.text) do
            throw (.system .entryExists place)
        | failure => throw failure

/-- The mode of a directory that a user asks for, before the umask. -/
def openMode : Nat := 0o777

/-- Make a directory that may be there already, knowing how to make the one above it. -/
def makeIfMissing (path : Path) (makeAbove : Action Unit) : Action Unit :=
  tryCatch (Action.change (·.makeDirectory path.text openMode)) fun
    | .system .noEntry place => do
      if path.names.isEmpty then throw (.system .noEntry place)
      makeAbove
      settle (Action.change (·.makeDirectory path.text openMode))
    | failure => settle (throw failure)
where
  /-- Let a refusal pass if the directory is there. -/
  settle (action : Action Unit) : Action Unit :=
    tryCatch action fun
      | .system error place => do
        unless ← Action.query (·.isDirectory path.text) do throw (.system error place)
      | failure => throw failure

/-- Make the directory with the given names, innermost first, and at most `room` above it; it may be
there already. -/
def ensureNames (root : Root) (room : Nat) : List (List Char) → Action Unit
  | [] => makeIfMissing { root, names := [] } (pure ())
  | name :: above =>
    makeIfMissing { root, names := (name :: above).reverse }
      (within room (ensureNames root (room - 1) above))

/-- Make a directory and those above it; it may be there already. -/
def ensure (path : Path) : Action Unit :=
  ensureNames path.root Platform.openLimit path.names.reverse

/-- Make the missing directories above a file. -/
def prepare (file : Path) : Action Unit := do
  let above := file.parent
  match (← get).fs.stat above.text with
  | .ok (.directory _) => pure ()
  | .ok _ => throw (.notDirectory above.text)
  | .error (.system .noEntry _) =>
    Action.report .debug ("Creating destination directory " ++ above.text)
    makeDirectories above.root Platform.directoryLimit above.names.reverse
  | .error failure => throw failure

/-- Whether a destination is written as a directory. -/
def endsInSlash (destination : String) : Bool := destination.toList.getLast? = some '/'

/-- The path of the file that a response goes to. -/
def resolve (destination : String) (info : FileInfo) : Action Path := do
  let path := Path.ofText destination
  let isDirectory ←
    if endsInSlash destination then pure true else Action.query (·.isDirectory path.text)
  if isDirectory then return path.child (← Action.reporting info.chooseName) else return path

/-- Stamp a file with the instant of its last modification, and tell whether there was one. -/
def stamp (info : FileInfo) (path : String) : Action Bool := do
  match ← Action.reporting info.modifiedAt with
  | some instant =>
    Action.change (·.setModified path instant)
    return true
  | none => return false

end SafeFetch.Destination
