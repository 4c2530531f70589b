import SafeFetch.Digest.Sha2

/-!
# BLAKE2

One algorithm in words of 32 and of 64 bits, with its longest digests of 32 and 64 bytes and without
a key. A block of sixteen words is mixed into a square of words in every round, first along the
columns and then along the diagonals.
-/

namespace SafeFetch.Digest.Blake2

/-- What depends on the width of words. -/
structure Variant where
  rounds : Nat
  /-- The four rotations of a mixing step. -/
  rotation0 : Nat
  rotation1 : Nat
  rotation2 : Nat
  rotation3 : Nat

/-- The variant in words of 32 bits. -/
def narrow : Variant :=
  { rounds := 10, rotation0 := 16, rotation1 := 12, rotation2 := 8, rotation3 := 7 }

/-- The variant in words of 64 bits. -/
def wide : Variant :=
  { rounds := 12, rotation0 := 32, rotation1 := 24, rotation2 := 16, rotation3 := 63 }

/-- The order in which rounds take the words of a block; it begins anew after ten rounds. -/
def orders : List (List Nat) :=
  [
    [0, 1, 2, 3, 4, 5, 6, 7, 8, 9, 10, 11, 12, 13, 14, 15],
    [14, 10, 4, 8, 9, 15, 13, 6, 1, 12, 0, 2, 11, 7, 5, 3],
    [11, 8, 12, 0, 5, 2, 15, 13, 10, 14, 3, 6, 7, 1, 9, 4],
    [7, 9, 3, 1, 13, 12, 11, 14, 2, 6, 5, 10, 4, 0, 15, 8],
    [9, 0, 5, 7, 2, 4, 10, 15, 14, 1, 11, 12, 6, 8, 3, 13],
    [2, 12, 6, 10, 0, 11, 8, 3, 4, 13, 7, 5, 15, 14, 1, 9],
    [12, 5, 1, 15, 14, 13, 4, 10, 0, 7, 6, 3, 9, 2, 8, 11],
    [13, 11, 7, 14, 12, 1, 3, 9, 5, 0, 15, 4, 8, 6, 2, 10],
    [6, 15, 14, 9, 11, 3, 0, 8, 12, 2, 13, 7, 1, 4, 10, 5],
    [10, 2, 8, 4, 7, 6, 1, 5, 15, 11, 9, 14, 3, 12, 13, 0]]

/-- The four places that each mixing step of a round works on: columns, then diagonals. -/
def quarters : List (Nat × Nat × Nat × Nat) :=
  [
    (0, 4, 8, 12), (1, 5, 9, 13), (2, 6, 10, 14), (3, 7, 11, 15),
    (0, 5, 10, 15), (1, 6, 11, 12), (2, 7, 8, 13), (3, 4, 9, 14)]

section

variable {w : Nat} (v : Variant)

/-- One mixing step with two words of the block. -/
def mix (square : Array (BitVec w)) (quarter : (Nat × Nat × Nat × Nat) × BitVec w × BitVec w) :
    Array (BitVec w) :=
  let ((i, j, k, l), x, y) := quarter
  let a := square.getD i 0
  let b := square.getD j 0
  let c := square.getD k 0
  let d := square.getD l 0
  let a := a + b + x
  let d := (d ^^^ a).rotateRight v.rotation0
  let c := c + d
  let b := (b ^^^ c).rotateRight v.rotation1
  let a := a + b + y
  let d := (d ^^^ a).rotateRight v.rotation2
  let c := c + d
  let b := (b ^^^ c).rotateRight v.rotation3
  (((square.setIfInBounds i a).setIfInBounds j b).setIfInBounds k c).setIfInBounds l d

/-- Words in pairs. -/
def pairs {α : Type} : List α → List (α × α)
  | a :: b :: rest => (a, b) :: pairs rest
  | _ => []

/-- One round over the words of a block. -/
def round (words : Array (BitVec w)) (square : Array (BitVec w)) (number : Nat) :
    Array (BitVec w) :=
  let taken := (orders.getD (number % 10) []).map fun i => words.getD i 0
  (quarters.zip (pairs taken)).foldl (mix v) square

/-- The words that every square begins with. -/
def startWords (w : Nat) : List (BitVec w) := (Sha2.firstRoots w).words

/-- Take a block into the chaining value, knowing how many bytes came so far and whether the block
is the last one. -/
def compress (chain : List (BitVec w)) (block : List UInt8) (count : Nat) (isLast : Bool) :
    List (BitVec w) :=
  let words := (littleEndianWords w block).toArray
  let low := BitVec.ofNat w count
  let high := BitVec.ofNat w (count >>> w)
  let ending : BitVec w := if isLast then ~~~0 else 0
  let marks := [0, 0, 0, 0, low, high, ending, 0]
  let square := (chain ++ List.zipWith (· ^^^ ·) (startWords w) marks).toArray
  let mixed := ((List.range v.rounds).foldl (round v words) square).toList
  List.zipWith (· ^^^ ·) chain (List.zipWith (· ^^^ ·) (mixed.take 8) (mixed.drop 8))

/-- Take the blocks of a message into the chaining value; `count` bytes came before. -/
def compressAll (chain : List (BitVec w)) (count : Nat) :
    List (List UInt8) → List (BitVec w)
  | [] => compress v chain (List.replicate (2 * w) 0) count true
  | [block] =>
    compress v chain (block ++ List.replicate (2 * w - block.length) 0) (count + block.length) true
  | block :: rest =>
    compressAll (compress v chain block (count + block.length) false) (count + block.length) rest

/-- The digest of eight words. The first word of the chaining value tells the length of the digest,
that there is no key, and that there is one message only. -/
def finish (w : Nat) (message : List UInt8) : List UInt8 :=
  let tag : BitVec w := BitVec.ofNat w (0x01010000 + w)
  let chain := List.zipWith (· ^^^ ·) (startWords w) (tag :: List.replicate 7 0)
  littleEndianBytes (compressAll v chain 0 (chunks (2 * w) message))

end

/-- The digest of 32 bytes. -/
def digest32 (message : List UInt8) : List UInt8 := finish narrow 32 message

/-- The digest of 64 bytes. -/
def digest64 (message : List UInt8) : List UInt8 := finish wide 64 message

end SafeFetch.Digest.Blake2
