/-!
# UTF-16 and UTF-32

Texts in units of two and of four bytes, in either byte order. A stream without a fixed order may
begin with a byte order mark, which is then not part of the text; without one the least significant
byte comes first.
-/

namespace SafeFetch.Charset

/-- Which byte of a unit comes first. -/
inductive ByteOrder where
  | little
  | big
  deriving DecidableEq, Repr

namespace Wide

/-- Join bytes to units of two. -/
def pairs? (order : ByteOrder) : List UInt8 → Option (List Nat)
  | [] => some []
  | [_] => none
  | a :: b :: rest =>
    let unit := match order with
      | .little => a.toNat + 0x100 * b.toNat
      | .big => 0x100 * a.toNat + b.toNat
    (pairs? order rest).map (unit :: ·)

/-- Join bytes to units of four. -/
def quads? (order : ByteOrder) : List UInt8 → Option (List Nat)
  | [] => some []
  | a :: b :: c :: d :: rest =>
    let unit := match order with
      | .little => a.toNat + 0x100 * b.toNat + 0x10000 * c.toNat + 0x1000000 * d.toNat
      | .big => 0x1000000 * a.toNat + 0x10000 * b.toNat + 0x100 * c.toNat + d.toNat
    (quads? order rest).map (unit :: ·)
  | _ => none

/-- Whether a unit of two bytes is the first half of a surrogate pair. -/
def isHighSurrogate (n : Nat) : Bool := 0xD800 ≤ n && n < 0xDC00

/-- Whether a unit of two bytes is the second half of a surrogate pair. -/
def isLowSurrogate (n : Nat) : Bool := 0xDC00 ≤ n && n < 0xE000

/-- Read units of two bytes; a half without its other half refuses the whole. -/
def ofPairs? : List Nat → Option (List Char)
  | [] => some []
  | n :: m :: rest =>
    if isHighSurrogate n then
      if isLowSurrogate m then
        (ofPairs? rest).map
          (Char.ofNat (0x10000 + (n - 0xD800) * 0x400 + (m - 0xDC00)) :: ·)
      else none
    else if isLowSurrogate n then none
    else (ofPairs? (m :: rest)).map (Char.ofNat n :: ·)
  | [n] => if isHighSurrogate n || isLowSurrogate n then none else some [Char.ofNat n]

/-- The character of a code point, unless it is a surrogate or past the last one. -/
def char? (n : Nat) : Option Char := if n.isValidChar then some (Char.ofNat n) else none

/-- Read a stream of two-byte units. -/
def decode16? (order : ByteOrder) (bytes : List UInt8) : Option (List Char) :=
  (pairs? order bytes).bind ofPairs?

/-- Read a stream of four-byte units. -/
def decode32? (order : ByteOrder) (bytes : List UInt8) : Option (List Char) :=
  (quads? order bytes).bind (·.mapM char?)

/-- Read a stream of two-byte units that may begin with a byte order mark. -/
def decodeMarked16? : List UInt8 → Option (List Char)
  | 0xFF :: 0xFE :: rest => decode16? .little rest
  | 0xFE :: 0xFF :: rest => decode16? .big rest
  | bytes => decode16? .little bytes

/-- Read a stream of four-byte units that may begin with a byte order mark. -/
def decodeMarked32? : List UInt8 → Option (List Char)
  | 0xFF :: 0xFE :: 0x00 :: 0x00 :: rest => decode32? .little rest
  | 0x00 :: 0x00 :: 0xFE :: 0xFF :: rest => decode32? .big rest
  | bytes => decode32? .little bytes

end Wide

end SafeFetch.Charset
