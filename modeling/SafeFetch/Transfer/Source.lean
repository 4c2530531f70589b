import SafeFetch.Chunk
import SafeFetch.Failure
import SafeFetch.Platform

/-!
# Sources

Where the chunks of a copy come from: bytes or a file that are read in pieces of a size, a reader
that gives what it likes, or a stream of chunks. An empty piece ends a reader and means nothing in a
stream.
-/

namespace SafeFetch.Transfer

/-- What a source does when it is asked for a chunk. -/
inductive Item where
  | chunk (bytes : List UInt8)
  /-- It gives no bytes at all. -/
  | missing
  | fault (failure : Failure)
  /-- Somebody sets the cancel signal before the next item comes. -/
  | signal
  deriving DecidableEq, Repr

/-- Where chunks come from. -/
inductive Source where
  /-- Bytes in memory; without a size, and with a negative one, all of them are asked for. -/
  | bytes (data : List UInt8) (size : Option Int)
  /-- An open file. -/
  | file (data : List UInt8) (size : Int)
  /-- A reader that does not look at the size it is asked for. -/
  | reader (items : List Item) (size : Option Int)
  | stream (items : List Item)
  deriving DecidableEq, Repr

namespace Source

variable [Platform]

/-- All bytes at once, unless there are none. -/
def whole (data : List UInt8) : List Item := if data.isEmpty then [] else [.chunk data]

/-- Bytes in pieces of a size; no piece of size zero says anything. -/
def pieces (data : List UInt8) (size : Nat) : List Item :=
  if size = 0 then [] else (chunks size data).map .chunk

/-- Whether a size fits into a machine word. -/
def fitsWord (size : Int) : Bool := -0x8000000000000000 ≤ size && size < 0x8000000000000000

/-- What bytes in memory give. -/
def bytesItems (data : List UInt8) : Option Int → List Item
  | none => whole data
  | some size =>
    if !fitsWord size then [.fault .sizeBeyondWord]
    else if size < 0 then whole data
    else pieces data size.toNat

/-- The failure of a read from a file, which makes room for as much as it asks for. The largest sizes
are refused on every platform, and others if there is no room. -/
def fileFault? (size : Int) : Option Failure :=
  if !fitsWord size then some .sizeBeyondWord
  else if size < -1 then some .negativeSize
  else if 0x8000000000000000 - 33 ≤ size then some .sizeBeyondBlock
  else if Platform.memory < size then some .outOfMemory
  else none

/-- What an open file gives. -/
def fileItems (data : List UInt8) (size : Int) : List Item :=
  match fileFault? size with
  | some failure => [.fault failure]
  | none => if size < 0 then whole data else pieces data size.toNat

/-- The items of a source up to its end. -/
def items : Source → List Item
  | .bytes data size => bytesItems data size
  | .file data size => fileItems data size
  | .reader items _ => items.takeWhile (· ≠ .chunk [])
  | .stream items => items

/-- The size that a copy asks a source for, if it asks for any. -/
def asked? : Source → Option (Option Int)
  | .bytes _ size => some size
  | .file _ size => some (some size)
  | .reader _ size => some size
  | .stream _ => none

end Source

end SafeFetch.Transfer
