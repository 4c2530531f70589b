import SafeFetch.Digest.Word

/-!
# MD5

The digest of sixteen bytes over blocks of 64 bytes, in words of 32 bits with the lowest byte first.
-/

namespace SafeFetch.Digest.Md5

/-- The chaining value. -/
structure State where
  a : BitVec 32
  b : BitVec 32
  c : BitVec 32
  d : BitVec 32

/-- The constants added in the rounds: the first bits after the point of the sines of 1 to 64. -/
def sines : List (BitVec 32) :=
  [
    0xD76AA478, 0xE8C7B756, 0x242070DB, 0xC1BDCEEE, 0xF57C0FAF, 0x4787C62A, 0xA8304613, 0xFD469501,
    0x698098D8, 0x8B44F7AF, 0xFFFF5BB1, 0x895CD7BE, 0x6B901122, 0xFD987193, 0xA679438E, 0x49B40821,
    0xF61E2562, 0xC040B340, 0x265E5A51, 0xE9B6C7AA, 0xD62F105D, 0x02441453, 0xD8A1E681, 0xE7D3FBC8,
    0x21E1CDE6, 0xC33707D6, 0xF4D50D87, 0x455A14ED, 0xA9E3E905, 0xFCEFA3F8, 0x676F02D9, 0x8D2A4C8A,
    0xFFFA3942, 0x8771F681, 0x6D9D6122, 0xFDE5380C, 0xA4BEEA44, 0x4BDECFA9, 0xF6BB4B60, 0xBEBFBC70,
    0x289B7EC6, 0xEAA127FA, 0xD4EF3085, 0x04881D05, 0xD9D4D039, 0xE6DB99E5, 0x1FA27CF8, 0xC4AC5665,
    0xF4292244, 0x432AFF97, 0xAB9423A7, 0xFC93A039, 0x655B59C3, 0x8F0CCC92, 0xFFEFF47D, 0x85845DD1,
    0x6FA87E4F, 0xFE2CE6E0, 0xA3014314, 0x4E0811A1, 0xF7537E82, 0xBD3AF235, 0x2AD7D2BB, 0xEB86D391]

/-- The rotations of the four kinds of rounds. -/
def rotations : List (List Nat) :=
  [[7, 12, 17, 22], [5, 9, 14, 20], [4, 11, 16, 23], [6, 10, 15, 21]]

/-- The rotation of a round. -/
def rotation (round : Nat) : Nat := (rotations.getD (round / 16) []).getD (round % 4) 0

/-- How a round mixes three words. -/
def mix (round : Nat) (x y z : BitVec 32) : BitVec 32 :=
  match round / 16 with
  | 0 => (x &&& y) ||| (~~~x &&& z)
  | 1 => (z &&& x) ||| (~~~z &&& y)
  | 2 => x ^^^ y ^^^ z
  | _ => y ^^^ (x ||| ~~~z)

/-- Which word of the block a round takes. -/
def wordIndex (round : Nat) : Nat :=
  match round / 16 with
  | 0 => round
  | 1 => (5 * round + 1) % 16
  | 2 => (3 * round + 5) % 16
  | _ => 7 * round % 16

/-- One round with its constant. -/
def step (words : Array (BitVec 32)) (s : State) (round : Nat × BitVec 32) : State :=
  let sum := s.a + mix round.1 s.b s.c s.d + round.2 + words.getD (wordIndex round.1) 0
  { a := s.d, b := s.b + sum.rotateLeft (rotation round.1), c := s.b, d := s.c }

/-- Take a block into the chaining value. -/
def compress (s : State) (block : List UInt8) : State :=
  let words := (littleEndianWords 32 block).toArray
  let t := ((List.range 64).zip sines).foldl (step words) s
  { a := s.a + t.a, b := s.b + t.b, c := s.c + t.c, d := s.d + t.d }

/-- The chaining value before the first block. -/
def start : State := { a := 0x67452301, b := 0xEFCDAB89, c := 0x98BADCFE, d := 0x10325476 }

/-- The digest of a message. -/
def digest (message : List UInt8) : List UInt8 :=
  let s := (paddedBlocks 64 (lowBytes 8) message).foldl compress start
  littleEndianBytes [s.a, s.b, s.c, s.d]

end SafeFetch.Digest.Md5
