import SafeFetch.Chunk

/-!
# Words and blocks

What the digest algorithms share: words as bytes in either order, and the padding of a message to
whole blocks that ends with its length.
-/

namespace SafeFetch.Digest

/-- The word that bytes write, first byte highest. -/
def bigEndian (w : Nat) (bytes : List UInt8) : BitVec w :=
  BitVec.ofNat w (bytes.foldl (fun n b => 256 * n + b.toNat) 0)

/-- The word that bytes write, first byte lowest. -/
def littleEndian (w : Nat) (bytes : List UInt8) : BitVec w :=
  BitVec.ofNat w (bytes.foldr (fun b n => 256 * n + b.toNat) 0)

/-- The lowest `count` bytes of a number, lowest first. -/
def lowBytes (count n : Nat) : List UInt8 :=
  (List.range count).map fun i => UInt8.ofNat ((n >>> (8 * i)) % 256)

/-- The lowest `count` bytes of a number, lowest last. -/
def highBytes (count n : Nat) : List UInt8 := (lowBytes count n).reverse

/-- The bytes of words, each with its highest byte first. -/
def bigEndianBytes {w : Nat} (words : List (BitVec w)) : List UInt8 :=
  words.flatMap fun word => highBytes (w / 8) word.toNat

/-- The bytes of words, each with its lowest byte first. -/
def littleEndianBytes {w : Nat} (words : List (BitVec w)) : List UInt8 :=
  words.flatMap fun word => lowBytes (w / 8) word.toNat

/-- The words of a block, each with its highest byte first. -/
def bigEndianWords (w : Nat) (block : List UInt8) : List (BitVec w) :=
  (chunks (w / 8) block).map (bigEndian w)

/-- The words of a block, each with its lowest byte first. -/
def littleEndianWords (w : Nat) (block : List UInt8) : List (BitVec w) :=
  (chunks (w / 8) block).map (littleEndian w)

/-- The blocks of a message that is followed by a single bit, zeros and its length in bits. The
length is written by `lengthBytes` and fills the end of the last block. -/
def paddedBlocks (blockSize : Nat) (lengthBytes : Nat → List UInt8) (message : List UInt8) :
    List (List UInt8) :=
  let ending := lengthBytes (8 * message.length)
  let used := (message.length + 1 + ending.length) % blockSize
  chunks blockSize
    (message ++ 0x80 :: List.replicate ((blockSize - used) % blockSize) 0 ++ ending)

end SafeFetch.Digest
