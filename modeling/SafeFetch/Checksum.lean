import SafeFetch.Digest.Expected
import SafeFetch.Path
import SafeFetch.Session
import SafeFetch.Settings
import SafeFetch.Transfer.Copy

/-!
# Checksums of files

The digest of a file, computed by a copy of the file into a hasher that can be cancelled like any
other, and its comparison with the digest that is expected.
-/

namespace SafeFetch

open SafeFetch.Text SafeFetch.Transfer

/-- What computes the digests of an operation. -/
inductive HasherChoice where
  | named (name : String)
  | given (hasher : Hasher)
  deriving DecidableEq, Repr

/-- A fresh hasher. -/
def HasherChoice.start : HasherChoice → Except Failure Hasher
  | .named name => (Algorithm.ofName name).map (.standard · [])
  | .given hasher => .ok hasher

namespace Checksum

variable [Platform]

/-- Copy a source into a sink under the cancel signal of the session. -/
def copyInto (source : Source) (sink : Sink) : Action (Except Failure Nat × Sink) := do
  let (count, progress) := copy source sink (← get).signal
  modify fun s => { s with signal := progress.signal }
  return (count, progress.sink)

/-- The digest of the contents of a file. -/
def ofFile (path : String) (choice : HasherChoice) (chunkSize : Int) : Action (List UInt8) := do
  let hasher ← Action.ofExcept choice.start
  let contents ← Action.query (·.read path)
  let (count, sink) ← copyInto (.file contents chunkSize) (.hash hasher)
  let _ ← Action.ofExcept count
  Action.ofExcept ((sink.firstHasher?.getD hasher).digest)

/-- Report that a file does not have the expected digest, and remove it on request. -/
def failMismatch {α : Type} (path : Path) (expected actual : List UInt8) (removes : Bool) :
    Action α := do
  Action.report .warning
    (s!"Checksum mismatch for {path.text}: expected " ++ String.ofList (Hex.encode expected) ++
      ", got " ++ String.ofList (Hex.encode actual))
  if removes then Action.change (·.removeIfPresent path.text)
  throw (.mismatch path.text expected actual)

/-- Check that a file has the expected digest. -/
def verify (path : Path) (choice : HasherChoice) (expected : Expected) (removes : Bool)
    (chunkSize : Int) : Action (List UInt8) := do
  let wanted ← Action.ofExcept expected.decode
  let actual ← ofFile path.text choice chunkSize
  if actual = wanted then return actual else failMismatch path wanted actual removes

end Checksum

end SafeFetch
