import SafeFetch.Path
import SafeFetch.Text.Binary64
import SafeFetch.Text.Numeral

/-!
# Settings

What a user may set through the environment. A value that is absent, empty or malformed leaves the
default in force.
-/

namespace SafeFetch

open SafeFetch.Text

/-- The settings of a run. -/
structure Settings where
  /-- How many seconds an exchange may take. -/
  timeout : Binary64
  /-- How many bytes are copied between two looks at the cancel signal. -/
  chunkSize : Nat
  /-- The name of the checksum algorithm. -/
  algorithm : String
  /-- The directory that files go to. -/
  destination : Path
  deriving DecidableEq, Repr

namespace Settings

/-- The settings of a user who sets nothing: a minute, and 32 kibibytes at a time. -/
def default : Settings where
  timeout := .ofRatio false 60 1
  chunkSize := 32768
  algorithm := "sha256"
  destination := .ofText "downloads"

/-- The variable that sets the timeout. -/
def timeoutVariable : String := "GRABFILE_DOWNLOAD_TIMEOUT"

/-- The variable that sets the size of chunks. -/
def chunkSizeVariable : String := "GRABFILE_CHUNK_SIZE"

/-- The variable that sets the checksum algorithm. -/
def algorithmVariable : String := "GRABFILE_CHECKSUM_ALGORITHM"

/-- The variable that sets the destination. -/
def destinationVariable : String := "GRABFILE_DEST_DIR"

/-- The variables that set something. -/
def variableNames : List String :=
  [timeoutVariable, chunkSizeVariable, algorithmVariable, destinationVariable]

/-- The text of a variable, unless it is empty. -/
def lookUp? (environment : List (String × String)) (key : String) : Option String :=
  (environment.lookup key).filter (!·.isEmpty)

/-- Read a size of chunks, which must be positive. -/
def chunkSize? (s : String) : Option Nat :=
  match Numeral.int? s.toList with
  | some (.ofNat (n + 1)) => some (n + 1)
  | _ => none

/-- What is read as a size is positive. -/
theorem pos_of_chunkSize? {s : String} {size : Nat} (isSize : chunkSize? s = some size) :
    0 < size := by
  rw [chunkSize?] at isSize
  split at isSize
  · obtain rfl := Option.some.inj isSize
    exact Nat.succ_pos _
  · cases isSize

/-- The settings that an environment makes. -/
def ofEnvironment (environment : List (String × String)) : Settings where
  timeout :=
    ((lookUp? environment timeoutVariable).bind fun s =>
      Binary64.ofText? s.toList).getD default.timeout
  chunkSize := ((lookUp? environment chunkSizeVariable).bind chunkSize?).getD default.chunkSize
  algorithm := (lookUp? environment algorithmVariable).getD default.algorithm
  destination :=
    ((lookUp? environment destinationVariable).map Path.ofText).getD default.destination

/-- The size of chunks that an environment makes is positive. -/
theorem chunkSize_pos (environment : List (String × String)) :
    0 < (ofEnvironment environment).chunkSize := by
  cases isSize : (lookUp? environment chunkSizeVariable).bind chunkSize? with
  | none =>
    have positive : 0 < default.chunkSize := by decide
    rw [ofEnvironment, isSize]
    exact positive
  | some size =>
    obtain ⟨text, -, isSize'⟩ := Option.bind_eq_some_iff.mp isSize
    rw [ofEnvironment, isSize]
    exact pos_of_chunkSize? isSize'

end Settings

end SafeFetch
