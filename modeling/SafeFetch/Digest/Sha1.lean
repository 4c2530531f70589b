import SafeFetch.Digest.Word

/-!
# SHA-1

The digest of twenty bytes over blocks of 64 bytes, in words of 32 bits with the highest byte first.
-/

namespace SafeFetch.Digest.Sha1

/-- The chaining value. -/
structure State where
  a : BitVec 32
  b : BitVec 32
  c : BitVec 32
  d : BitVec 32
  e : BitVec 32

/-- The words of all rounds: sixteen from the block, then each from four earlier ones. -/
def schedule (block : List UInt8) : Array (BitVec 32) :=
  (List.range 64).foldl
    (fun words i =>
      words.push
        ((words.getD (i + 13) 0 ^^^ words.getD (i + 8) 0 ^^^ words.getD (i + 2) 0 ^^^
          words.getD i 0).rotateLeft 1))
    (bigEndianWords 32 block).toArray

/-- How a round mixes three words. -/
def mix (round : Nat) (x y z : BitVec 32) : BitVec 32 :=
  match round / 20 with
  | 0 => (x &&& y) ||| (~~~x &&& z)
  | 2 => (x &&& y) ||| (x &&& z) ||| (y &&& z)
  | _ => x ^^^ y ^^^ z

/-- The constant of a round. -/
def constant (round : Nat) : BitVec 32 :=
  match round / 20 with
  | 0 => 0x5A827999
  | 1 => 0x6ED9EBA1
  | 2 => 0x8F1BBCDC
  | _ => 0xCA62C1D6

/-- One round with its word. -/
def step (s : State) (round : Nat × BitVec 32) : State where
  a := s.a.rotateLeft 5 + mix round.1 s.b s.c s.d + s.e + constant round.1 + round.2
  b := s.a
  c := s.b.rotateLeft 30
  d := s.c
  e := s.d

/-- Take a block into the chaining value. -/
def compress (s : State) (block : List UInt8) : State :=
  let t := ((List.range 80).zip (schedule block).toList).foldl step s
  { a := s.a + t.a, b := s.b + t.b, c := s.c + t.c, d := s.d + t.d, e := s.e + t.e }

/-- The chaining value before the first block. -/
def start : State where
  a := 0x67452301
  b := 0xEFCDAB89
  c := 0x98BADCFE
  d := 0x10325476
  e := 0xC3D2E1F0

/-- The digest of a message. -/
def digest (message : List UInt8) : List UInt8 :=
  let s := (paddedBlocks 64 (highBytes 8) message).foldl compress start
  bigEndianBytes [s.a, s.b, s.c, s.d, s.e]

end SafeFetch.Digest.Sha1
