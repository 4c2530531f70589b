import SafeFetch.Digest.Word

/-!
# SHA-3

A sponge of 25 lanes of 64 bits. Blocks are added to its first lanes, and the lanes are permuted
after each; the digest is read off the lanes at the end.
-/

namespace SafeFetch.Digest.Sha3

/-- The lanes of a sponge, row by row. -/
abbrev Lanes := Array (BitVec 64)

/-- The lane in a column and a row, both counted around. -/
def lane (s : Lanes) (x y : Nat) : BitVec 64 := s.getD (x % 5 + 5 * (y % 5)) 0

/-- The sponge with a lane for every column and row. -/
def ofLanes (f : Nat → Nat → BitVec 64) : Lanes :=
  Array.ofFn fun i : Fin 25 => f (i.val % 5) (i.val / 5)

/-- How far the lanes are rotated. -/
def rotations : List Nat :=
  [
    0, 1, 62, 28, 27,
    36, 44, 6, 55, 20,
    3, 10, 43, 25, 39,
    41, 45, 15, 21, 8,
    18, 2, 61, 56, 14]

/-- The constants of the rounds. -/
def constants : List (BitVec 64) :=
  [
    0x0000000000000001, 0x0000000000008082, 0x800000000000808A, 0x8000000080008000,
    0x000000000000808B, 0x0000000080000001, 0x8000000080008081, 0x8000000000008009,
    0x000000000000008A, 0x0000000000000088, 0x0000000080008009, 0x000000008000000A,
    0x000000008000808B, 0x800000000000008B, 0x8000000000008089, 0x8000000000008003,
    0x8000000000008002, 0x8000000000000080, 0x000000000000800A, 0x800000008000000A,
    0x8000000080008081, 0x8000000000008080, 0x0000000080000001, 0x8000000080008008]

/-- Add the parities of two neighbouring columns to every lane. -/
def spread (s : Lanes) : Lanes :=
  let parity : Lanes := Array.ofFn fun x : Fin 5 =>
    lane s x.val 0 ^^^ lane s x.val 1 ^^^ lane s x.val 2 ^^^ lane s x.val 3 ^^^ lane s x.val 4
  ofLanes fun x y =>
    lane s x y ^^^ parity.getD ((x + 4) % 5) 0 ^^^ (parity.getD ((x + 1) % 5) 0).rotateLeft 1

/-- Rotate every lane and move it to its new place. -/
def scatter (s : Lanes) : Lanes :=
  ofLanes fun x y =>
    let column := (x + 3 * y) % 5
    (lane s column x).rotateLeft (rotations.getD (column + 5 * x) 0)

/-- Mix every lane with the next two of its row. -/
def bend (s : Lanes) : Lanes :=
  ofLanes fun x y => lane s x y ^^^ (~~~lane s (x + 1) y &&& lane s (x + 2) y)

/-- One round with its constant. -/
def round (s : Lanes) (constant : BitVec 64) : Lanes :=
  (bend (scatter (spread s))).modify 0 (· ^^^ constant)

/-- Permute the lanes. -/
def permute (s : Lanes) : Lanes := constants.foldl round s

/-- Add a block to the first lanes and permute. -/
def absorb (s : Lanes) (block : List UInt8) : Lanes :=
  let words := (littleEndianWords 64 block).toArray
  permute (ofLanes fun x y => lane s x y ^^^ words.getD (x + 5 * y) 0)

/-- A message that is padded to whole blocks: two bits that tell the use, a bit at the beginning and
a bit at the end of the padding. -/
def padded (blockSize : Nat) (message : List UInt8) : List UInt8 :=
  match blockSize - message.length % blockSize with
  | n + 2 => message ++ 0x06 :: List.replicate n 0 ++ [0x80]
  | _ => message ++ [0x86]

/-- The digest of `size` bytes. The room that a block leaves is twice the digest. -/
def digest (size : Nat) (message : List UInt8) : List UInt8 :=
  let blockSize := 200 - 2 * size
  let s := (chunks blockSize (padded blockSize message)).foldl absorb (ofLanes fun _ _ => 0)
  (littleEndianBytes s.toList).take size

end SafeFetch.Digest.Sha3
