import SafeFetch.Text.Blank

/-!
# File systems

A file system as a finite map from places to entries. A place is a list of names, innermost first;
the place without names is the root, which is always a directory. One place is the working
directory, where paths without a root begin.

A file stands at one place only, so there are no hard links. Whoever works on a file system may do
everything: nothing is refused for lack of permission, and modes are kept for those who look at
them. A new directory takes nothing but its mode from whom it is made by; that a directory may hand
on its group and the bit that says so is left out.
-/

namespace SafeFetch

/-- A place in a file system: the names that lead to it, innermost first. -/
abbrev Place := List (List Char)

/-- What stands at a place. -/
inductive Entry where
  /-- A file and the instant of its last modification, which is unknown after a write. -/
  | file (contents : List UInt8) (modified : Option Int)
  | directory (mode : Nat)
  | link (target : List Char)
  deriving DecidableEq, Repr

/-- The mode of directories that are there from the start. -/
def rootMode : Nat := 0o755

/-- What a place is found by: how deep it lies, which tells most places apart at once, and its
names. -/
abbrev Key := Nat × Place

/-- The key of a place. -/
def Place.key (place : Place) : Key := (place.length, place)

/-- Places have keys of their own. -/
@[simp]
theorem Place.key_inj {place other : Place} : place.key = other.key ↔ place = other :=
  ⟨fun h => (Prod.mk.inj h).2, fun h => h ▸ rfl⟩

/-- A file system. -/
structure FileSystem where
  entries : List (Key × Entry)
  workingDirectory : Place
  /-- The bits that the mode of a new directory must not have. -/
  umask : Nat
  deriving DecidableEq, Repr

namespace FileSystem

/-- The entry at a place. -/
def get? (fs : FileSystem) (place : Place) : Option Entry :=
  if place = [] then some (.directory rootMode) else fs.entries.lookup place.key

/-- Put an entry at a place. -/
def put (fs : FileSystem) (place : Place) (entry : Entry) : FileSystem :=
  { fs with entries := (place.key, entry) :: fs.entries.filter fun e => e.1 ≠ place.key }

/-- Take away the entry at a place. -/
def erase (fs : FileSystem) (place : Place) : FileSystem :=
  { fs with entries := fs.entries.filter fun e => e.1 ≠ place.key }

/-- The root is a directory. -/
@[simp]
theorem get?_nil (fs : FileSystem) : fs.get? [] = some (.directory rootMode) := by
  simp [get?]

/-- Looking up a key that a filter lets pass. -/
private theorem lookup_filter_ne (entries : List (Key × Entry)) {key other : Key}
    (h : other ≠ key) :
    (entries.filter fun e => e.1 ≠ key).lookup other = entries.lookup other := by
  induction entries with
  | nil => rfl
  | cons e rest ih =>
    obtain ⟨first, entry⟩ := e
    by_cases hk : first = key
    · have hb : (other == first) = false := by
        rw [hk]
        exact beq_false_of_ne h
      rw [List.filter_cons_of_neg (by simpa using hk), List.lookup_cons, hb]
      exact ih
    · rw [List.filter_cons_of_pos (by simpa using hk), List.lookup_cons, List.lookup_cons, ih]

/-- Looking up a key that a filter takes away. -/
private theorem lookup_filter_self (entries : List (Key × Entry)) (key : Key) :
    (entries.filter fun e => e.1 ≠ key).lookup key = none := by
  induction entries with
  | nil => rfl
  | cons e rest ih =>
    obtain ⟨first, entry⟩ := e
    by_cases hk : first = key
    · rw [List.filter_cons_of_neg (by simpa using hk)]
      exact ih
    · have hb : (key == first) = false := beq_false_of_ne (Ne.symm hk)
      rw [List.filter_cons_of_pos (by simpa using hk), List.lookup_cons, hb]
      exact ih

/-- What was put at a place below the root stands there. -/
theorem get?_put_self (fs : FileSystem) {place : Place} (h : place ≠ []) (entry : Entry) :
    (fs.put place entry).get? place = some entry := by
  simp [get?, put, h]

/-- Putting an entry at one place leaves the others alone. -/
theorem get?_put_of_ne (fs : FileSystem) {place other : Place} (h : other ≠ place)
    (entry : Entry) : (fs.put place entry).get? other = fs.get? other := by
  have hk : other.key ≠ place.key := fun same => h (Place.key_inj.mp same)
  have hb : (other.key == place.key) = false := beq_false_of_ne hk
  simp only [get?, put, List.lookup_cons, hb, lookup_filter_ne fs.entries hk]

/-- Nothing stands at a place below the root that was cleared. -/
theorem get?_erase_self (fs : FileSystem) {place : Place} (h : place ≠ []) :
    (fs.erase place).get? place = none := by
  simp only [get?, erase, h, if_false, lookup_filter_self]

/-- Clearing one place leaves the others alone. -/
theorem get?_erase_of_ne (fs : FileSystem) {place other : Place} (h : other ≠ place) :
    (fs.erase place).get? other = fs.get? other := by
  have hk : other.key ≠ place.key := fun same => h (Place.key_inj.mp same)
  simp only [get?, erase, lookup_filter_ne fs.entries hk]

/-- A place and the places above it, except the root. -/
def lineage : Place → List Place
  | [] => []
  | name :: above => (name :: above) :: lineage above

/-- A file system with nothing but an empty working directory and those above it. -/
def empty (workingDirectory : Place) (umask : Nat) : FileSystem where
  entries := (lineage workingDirectory).map fun place => (place.key, .directory rootMode)
  workingDirectory := workingDirectory
  umask := umask

/-- The mode of a new directory. -/
def maskedMode (fs : FileSystem) (mode : Nat) : Nat := mode &&& (0o777 ^^^ (fs.umask &&& 0o777))

/-- The places and entries below a place, as names that lead there from it, outermost first. -/
def below (fs : FileSystem) (place : Place) : List (List (List Char) × Entry) :=
  fs.entries.filterMap fun ((_, other), entry) =>
    let names := other.take (other.length - place.length)
    if names ≠ [] ∧ names ++ place = other then some (names.reverse, entry) else none

end FileSystem

end SafeFetch
