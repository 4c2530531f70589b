/-!
# The platform

What a run takes from the machine and the installation that it runs on, and what no text of the
program decides: the room in memory, the character sets that the installation adds, the size of a
directory, and how deep calls may be nested. Definitions take it as an inferred parameter, and
results about them hold on every platform; `Platform.ordinary` is there to run them.
-/

namespace SafeFetch

/-- What a run takes from its machine and installation. -/
class Platform where
  /-- The size in bytes of the largest block of memory that there is room for. -/
  memory : Nat
  /-- The reader of a character set that is not one of those described here, by its label in normal
  form. It gives no text for bytes that are none in the set. -/
  reader? : String → Option (List UInt8 → Option (List Char))
  /-- How many bytes the file system takes for a directory. -/
  directorySize : Nat
  /-- How many directories are made on the way to a file at most. Each is made by a call within the
  one for the directory below it, so the limit is what the calls that led to the first have left of
  the depth to which calls may be nested. -/
  directoryLimit : Nat
  /-- Whoever asks for a file has not used up most of the depth. -/
  directoryLimit_ge : 500 ≤ directoryLimit
  /-- How many directories above one that a user asks for are made at most, for the same reason. -/
  openLimit : Nat

/-- A platform with room for blocks of sixteen gibibytes and without character sets of its own,
where a thousand calls may be nested. -/
instance Platform.ordinary : Platform where
  memory := 0x400000000
  reader? _ := none
  directorySize := 4096
  directoryLimit := 984
  directoryLimit_ge := by decide
  openLimit := 987

end SafeFetch
