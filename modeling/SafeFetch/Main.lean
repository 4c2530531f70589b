import SafeFetch.CommandLine.Run

/-!
# The program

Reads the command line and the environment, runs them and shows the log. The program comes without
a network and without a disk: it works on an empty file system of its own, and every server is out
of reach. A program with both hands them to `SafeFetch.CommandLine.run` in the same way.
-/

namespace SafeFetch

/-- The variables of the environment that are set. -/
def readEnvironment : IO (List (String × String)) :=
  Settings.variableNames.filterMapM fun name => do
    return (← IO.getEnv name).map (name, ·)

/-- The name of the program. -/
def programName : String := "safefetch"

/-- What surrounds a run without a network. -/
def isolated (environment : List (String × String)) : CommandLine.Surroundings :=
  .ofEnvironment (.ofRoutes []) "1970-01-01T00:00:00+00:00" environment

/-- The empty file system that a run works on. -/
def emptyDisk : FileSystem := .empty ["home".toList] 0o022

end SafeFetch

open SafeFetch in
/-- Run the command line. -/
def main (words : List String) : IO UInt32 := do
  let surroundings := isolated (← readEnvironment)
  let (outcome, session) := CommandLine.run programName surroundings words emptyDisk
  IO.print outcome.output
  IO.eprint outcome.errorOutput
  if let .unexplained fault := outcome.ending then IO.eprintln fault.message
  for record in session.log.reverse.filter (·.isShown) do
    IO.eprintln record.line
  return outcome.exitCode.toUInt32
