import SafeFetch.Digest.Algorithm

/-!
# Lengths of digests

Every algorithm that has digests has them of one length, whatever the message is, and none of them
is empty.

## Main definitions

* `Algorithm.digestLength`: how many bytes the digests of an algorithm have.

## Main results

* `Algorithm.length_of_digest`: digests have this length;
* `Algorithm.ne_nil_of_digest`: no digest is empty.
-/

namespace SafeFetch

namespace Digest

/-! ## Bytes of words -/

@[simp]
theorem length_lowBytes (count n : Nat) : (lowBytes count n).length = count := by
  simp [lowBytes]

@[simp]
theorem length_highBytes (count n : Nat) : (highBytes count n).length = count := by
  simp [highBytes]

/-- Words of equal width have equally many bytes. -/
@[simp]
theorem length_littleEndianBytes {w : Nat} (words : List (BitVec w)) :
    (littleEndianBytes words).length = words.length * (w / 8) := by
  simp only [littleEndianBytes, List.length_flatMap, length_lowBytes, List.map_const',
    List.sum_replicate_nat]

@[simp]
theorem length_bigEndianBytes {w : Nat} (words : List (BitVec w)) :
    (bigEndianBytes words).length = words.length * (w / 8) := by
  simp only [bigEndianBytes, List.length_flatMap, length_highBytes, List.map_const',
    List.sum_replicate_nat]

/-! ## SHA-2 -/

/-- The last chaining value has eight words. -/
theorem Sha2.length_finish {w : Nat} (v : Sha2.Variant w) (start : Sha2.State w)
    (message : List UInt8) : (Sha2.finish v start message).length = 8 * (w / 8) := by
  simp [Sha2.finish, Sha2.State.words]

/-! ## SHA-3 -/

namespace Sha3

/-- A sponge has 25 lanes. -/
@[simp]
theorem size_ofLanes (f : Nat → Nat → BitVec 64) : (ofLanes f).size = 25 := by
  simp [ofLanes]

/-- A sponge has 25 lanes after a block. -/
theorem size_absorb (s : Lanes) (block : List UInt8) : (absorb s block).size = 25 := by
  have rounds (constants : List (BitVec 64)) (s : Lanes) (lanes : s.size = 25) :
      (constants.foldl round s).size = 25 := by
    induction constants generalizing s with
    | nil => exact lanes
    | cons constant constants ih =>
      have next : (round s constant).size = 25 := by simp [round, bend]
      rw [List.foldl_cons]
      exact ih _ next
  rw [absorb, permute]
  exact rounds _ _ (size_ofLanes _)

/-- The digest is cut from 200 bytes. -/
theorem length_digest {size : Nat} (fits : size ≤ 200) (message : List UInt8) :
    (digest size message).length = size := by
  have lanes (blocks : List (List UInt8)) (s : Lanes) (lanes : s.size = 25) :
      (blocks.foldl absorb s).size = 25 := by
    induction blocks generalizing s with
    | nil => exact lanes
    | cons block blocks ih =>
      rw [List.foldl_cons]
      exact ih _ (size_absorb s block)
  simp [digest, lanes, fits]

end Sha3

/-! ## BLAKE2 -/

namespace Blake2

variable {w : Nat} (v : Variant)

/-- Mixing changes words in their places. -/
theorem size_round (words square : Array (BitVec w)) (number : Nat) :
    (round v words square number).size = square.size := by
  have mixes (steps : List ((Nat × Nat × Nat × Nat) × BitVec w × BitVec w))
      (square : Array (BitVec w)) : (steps.foldl (mix v) square).size = square.size := by
    induction steps generalizing square with
    | nil => rfl
    | cons step steps ih => rw [List.foldl_cons, ih, mix]; simp
  exact mixes _ _

/-- A chaining value of eight words has eight words after a block. -/
theorem length_compress {chain : List (BitVec w)} (eight : chain.length = 8) (block : List UInt8)
    (count : Nat) (isLast : Bool) : (compress v chain block count isLast).length = 8 := by
  have rounds (words : Array (BitVec w)) (numbers : List Nat) (square : Array (BitVec w)) :
      (numbers.foldl (round v words) square).size = square.size := by
    induction numbers generalizing square with
    | nil => rfl
    | cons number numbers ih => rw [List.foldl_cons, ih, size_round]
  simp [compress, rounds, eight, startWords, Sha2.State.words]

/-- A chaining value of eight words has eight words after a message. -/
theorem length_compressAll {chain : List (BitVec w)} (eight : chain.length = 8) (count : Nat)
    (blocks : List (List UInt8)) : (compressAll v chain count blocks).length = 8 := by
  fun_induction compressAll v chain count blocks with
  | case1 chain => exact length_compress v eight _ _ _
  | case2 chain => exact length_compress v eight _ _ _
  | case3 chain count block rest _ ih => exact ih (length_compress v eight _ _ _)

/-- The digest has eight words. -/
theorem length_finish (w : Nat) (message : List UInt8) :
    (finish v w message).length = 8 * (w / 8) := by
  rw [finish, length_littleEndianBytes, length_compressAll v]
  simp [startWords, Sha2.State.words]

end Blake2

end Digest

namespace Algorithm

open SafeFetch.Digest

/-- How many bytes the digests of an algorithm have, if it has any. -/
def digestLength : Algorithm → Option Nat
  | .md5 => some 16
  | .sha1 => some 20
  | .sha224 | .sha3x224 => some 28
  | .sha256 | .sha3x256 | .blake2s => some 32
  | .sha384 | .sha3x384 => some 48
  | .sha512 | .sha3x512 | .blake2b => some 64
  | .shake128 | .shake256 => none

/-- Digests of one algorithm have one length. -/
theorem length_of_digest {algorithm : Algorithm} {message bytes : List UInt8}
    (digested : algorithm.digest message = .ok bytes) :
    algorithm.digestLength = some bytes.length := by
  cases algorithm with
  | shake128 | shake256 => cases digested
  | sha3x224 | sha3x256 | sha3x384 | sha3x512 =>
    obtain rfl := Except.ok.inj digested
    rw [Sha3.length_digest (by decide), digestLength]
  | blake2b | blake2s =>
    obtain rfl := Except.ok.inj digested
    simp [digestLength, Blake2.digest64, Blake2.digest32, Blake2.length_finish]
  | sha224 | sha256 | sha384 | sha512 =>
    obtain rfl := Except.ok.inj digested
    simp [digestLength, Sha2.digest224, Sha2.digest256, Sha2.digest384, Sha2.digest512,
      Sha2.length_finish]
  | md5 | sha1 =>
    obtain rfl := Except.ok.inj digested
    simp [digestLength, Md5.digest, Sha1.digest]

/-- No digest is empty. -/
theorem ne_nil_of_digest {algorithm : Algorithm} {message bytes : List UInt8}
    (digested : algorithm.digest message = .ok bytes) : bytes ≠ [] := by
  rintro rfl
  have length := length_of_digest digested
  cases algorithm <;> cases length

end Algorithm

end SafeFetch
