import SafeFetch.Digest.Root
import SafeFetch.Digest.Word

/-!
# SHA-2

One algorithm in words of 32 and of 64 bits, with digests of 28 and 32 and of 48 and 64 bytes. The
two widths differ in the number of rounds and in the rotations; all constants are bits of roots of
primes.
-/

namespace SafeFetch.Digest.Sha2

/-- What depends on the width of words. -/
structure Variant (w : Nat) where
  /-- The two mixing functions of the schedule. -/
  small0 : BitVec w → BitVec w
  small1 : BitVec w → BitVec w
  /-- The two mixing functions of the rounds. -/
  large0 : BitVec w → BitVec w
  large1 : BitVec w → BitVec w
  /-- The constants of the rounds. -/
  constants : List (BitVec w)

/-- The sum without carries of three rotations. -/
def rotations {w : Nat} (i j k : Nat) (x : BitVec w) : BitVec w :=
  x.rotateRight i ^^^ x.rotateRight j ^^^ x.rotateRight k

/-- The sum without carries of two rotations and a shift. -/
def shifted {w : Nat} (i j k : Nat) (x : BitVec w) : BitVec w :=
  x.rotateRight i ^^^ x.rotateRight j ^^^ (x >>> k)

/-- The bits of the cube roots of the first primes. -/
def cubeRoots (w rounds : Nat) : List (BitVec w) :=
  (primes.take rounds).map fun p => BitVec.ofNat w (rootFraction 3 w p)

/-- The variant in words of 32 bits. -/
def narrow : Variant 32 where
  small0 := shifted 7 18 3
  small1 := shifted 17 19 10
  large0 := rotations 2 13 22
  large1 := rotations 6 11 25
  constants := cubeRoots 32 64

/-- The variant in words of 64 bits. -/
def wide : Variant 64 where
  small0 := shifted 1 8 7
  small1 := shifted 19 61 6
  large0 := rotations 28 34 39
  large1 := rotations 14 18 41
  constants := cubeRoots 64 80

/-- The chaining value. -/
structure State (w : Nat) where
  a : BitVec w
  b : BitVec w
  c : BitVec w
  d : BitVec w
  e : BitVec w
  f : BitVec w
  g : BitVec w
  h : BitVec w

/-- The words of a chaining value. -/
def State.words {w : Nat} (s : State w) : List (BitVec w) :=
  [s.a, s.b, s.c, s.d, s.e, s.f, s.g, s.h]

/-- The chaining value of eight words. -/
def State.ofWords {w : Nat} (words : List (BitVec w)) : State w where
  a := words.getD 0 0
  b := words.getD 1 0
  c := words.getD 2 0
  d := words.getD 3 0
  e := words.getD 4 0
  f := words.getD 5 0
  g := words.getD 6 0
  h := words.getD 7 0

section

variable {w : Nat} (v : Variant w)

/-- The words of all rounds: sixteen from the block, then each from four earlier ones. -/
def schedule (block : List UInt8) : Array (BitVec w) :=
  (List.range (v.constants.length - 16)).foldl
    (fun words i =>
      words.push
        (v.small1 (words.getD (i + 14) 0) + words.getD (i + 9) 0 +
          v.small0 (words.getD (i + 1) 0) + words.getD i 0))
    (bigEndianWords w block).toArray

/-- One round with its constant and its word. -/
def step (s : State w) (round : BitVec w × BitVec w) : State w :=
  let choice := (s.e &&& s.f) ^^^ (~~~s.e &&& s.g)
  let majority := (s.a &&& s.b) ^^^ (s.a &&& s.c) ^^^ (s.b &&& s.c)
  let sum := s.h + v.large1 s.e + choice + round.1 + round.2
  { a := sum + v.large0 s.a + majority, b := s.a, c := s.b, d := s.c,
    e := s.d + sum, f := s.e, g := s.f, h := s.g }

/-- Take a block into the chaining value. -/
def compress (s : State w) (block : List UInt8) : State w :=
  let t := (v.constants.zip (schedule v block).toList).foldl (step v) s
  .ofWords (List.zipWith (· + ·) s.words t.words)

/-- The bytes of the last chaining value. A block is sixteen words, of which the length of the
message takes the last two. -/
def finish (start : State w) (message : List UInt8) : List UInt8 :=
  let size := w / 8
  bigEndianBytes ((paddedBlocks (16 * size) (highBytes (2 * size)) message).foldl (compress v)
    start).words

end

/-- The chaining value of the square roots of the first eight primes. -/
def firstRoots (w : Nat) : State w :=
  .ofWords ((primes.take 8).map fun p => BitVec.ofNat w (rootFraction 2 w p))

/-- The bits of the square roots of the next eight primes. -/
def secondRoots : List (BitVec 64) :=
  ((primes.drop 8).take 8).map fun p => BitVec.ofNat 64 (rootFraction 2 64 p)

/-- The digest of 28 bytes. -/
def digest224 (message : List UInt8) : List UInt8 :=
  (finish narrow (.ofWords (secondRoots.map (·.setWidth 32))) message).take 28

/-- The digest of 32 bytes. -/
def digest256 (message : List UInt8) : List UInt8 := finish narrow (firstRoots 32) message

/-- The digest of 48 bytes. -/
def digest384 (message : List UInt8) : List UInt8 :=
  (finish wide (.ofWords secondRoots) message).take 48

/-- The digest of 64 bytes. -/
def digest512 (message : List UInt8) : List UInt8 := finish wide (firstRoots 64) message

end SafeFetch.Digest.Sha2
