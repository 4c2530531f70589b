import SafeFetch.FileSystem.Walk

/-!
# System calls

The requests that a program makes of a file system, by path. A request that is refused changes
nothing, so a call returns either a failure or the file system that it leaves.
-/

namespace SafeFetch.FileSystem

/-- Walk along the path of a request. -/
def spotAt (fs : FileSystem) (ending : Ending) (path : String) : Except Failure Spot :=
  if path.toList.contains '\x00' then .error .nulInPath
  else (fs.resolve ending path.toList).mapError (.system · (some path))

/-- The failure of a request that the file system refuses. -/
def refuse {α : Type} (path : String) (error : SystemError) : Except Failure α :=
  .error (.system error (some path))

/-- The entry that a path leads to. -/
def stat (fs : FileSystem) (path : String) : Except Failure Entry :=
  match fs.spotAt .followsLink path with
  | .error failure => .error failure
  | .ok (.entry _ entry) => .ok entry
  | .ok (.vacant _) => refuse path .noEntry

/-- Whether a failure only means that a path leads nowhere. -/
def meansNowhere : Failure → Bool
  | .nulInPath => true
  | .system .noEntry _ | .system .notDirectory _ | .system .tooManyLinks _ => true
  | _ => false

/-- Whether the entry that a path leads to has a property; a path that leads nowhere has none. -/
def entryHas (fs : FileSystem) (property : Entry → Bool) (path : String) : Except Failure Bool :=
  match fs.stat path with
  | .ok entry => .ok (property entry)
  | .error failure => if meansNowhere failure then .ok false else .error failure

/-- Whether an entry is a directory. -/
def isDirectoryEntry : Entry → Bool
  | .directory _ => true
  | _ => false

/-- Whether a path leads to a directory. -/
def isDirectory (fs : FileSystem) (path : String) : Except Failure Bool :=
  fs.entryHas isDirectoryEntry path

/-- Whether a path leads to an entry. -/
def leadsSomewhere (fs : FileSystem) (path : String) : Except Failure Bool :=
  fs.entryHas (fun _ => true) path

/-- Make a directory. -/
def makeDirectory (fs : FileSystem) (path : String) (mode : Nat) : Except Failure FileSystem :=
  match fs.spotAt .keepsLink path with
  | .error failure => .error failure
  | .ok (.entry _ _) => refuse path .entryExists
  | .ok (.vacant place) => .ok (fs.put place (.directory (fs.maskedMode mode)))

/-- Make a link. -/
def makeLink (fs : FileSystem) (path target : String) : Except Failure FileSystem :=
  match fs.spotAt .keepsLink path with
  | .error failure => .error failure
  | .ok (.entry _ _) => refuse path .entryExists
  | .ok (.vacant place) => .ok (fs.put place (.link target.toList))

/-- Remove a file or a link. -/
def remove (fs : FileSystem) (path : String) : Except Failure FileSystem :=
  match fs.spotAt .keepsLink path with
  | .error failure => .error failure
  | .ok (.vacant _) => refuse path .noEntry
  | .ok (.entry _ (.directory _)) => refuse path .isDirectory
  | .ok (.entry place _) => .ok (fs.erase place)

/-- Remove a file or a link, if there is one. -/
def removeIfPresent (fs : FileSystem) (path : String) : Except Failure FileSystem :=
  match fs.remove path with
  | .error (.system .noEntry _) => .ok fs
  | outcome => outcome

/-- Write the contents of the file at a place. -/
def store (fs : FileSystem) (place : Place) (contents : List UInt8) : FileSystem :=
  fs.put place (.file contents none)

/-- Open a file for writing, which empties it or makes it; the place is where it stands. -/
def create (fs : FileSystem) (path : String) : Except Failure (Place × FileSystem) :=
  match fs.spotAt .makesFile path with
  | .error failure => .error failure
  | .ok (.entry place (.file _ _)) => .ok (place, fs.store place [])
  | .ok (.entry _ _) => refuse path .isDirectory
  | .ok (.vacant place) => .ok (place, fs.store place [])

/-- The contents of a file. -/
def read (fs : FileSystem) (path : String) : Except Failure (List UInt8) :=
  match fs.stat path with
  | .error failure => .error failure
  | .ok (.file contents _) => .ok contents
  | .ok _ => refuse path .isDirectory

/-- Set the instants of the last access and of the last modification of the entry that a path leads
to, both to the same one. Only the second is kept, and only for files: nothing here ever asks for the
others. A refusal does not tell the path. -/
def setModified (fs : FileSystem) (path : String) (instant : Int) : Except Failure FileSystem :=
  match fs.spotAt .followsLink path with
  | .error (.system error _) => .error (.system error none)
  | .error failure => .error failure
  | .ok (.vacant _) => .error (.system .noEntry none)
  | .ok (.entry place (.file contents _)) => .ok (fs.put place (.file contents (some instant)))
  | .ok (.entry _ _) => .ok fs

end SafeFetch.FileSystem
