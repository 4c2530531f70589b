import SafeFetch.Charset.Wide

/-!
# UTF-7

ASCII text in which stretches of base-64 digits between a plus and a minus sign carry units of two
bytes. Left-over bits of a stretch must be fewer than a digit and all zero.
-/

namespace SafeFetch.Charset.Utf7

/-- The value of a base-64 digit. -/
def digitValue? (b : UInt8) : Option Nat :=
  let n := b.toNat
  if 0x41 ≤ n ∧ n ≤ 0x5A then some (n - 0x41)
  else if 0x61 ≤ n ∧ n ≤ 0x7A then some (n - 0x61 + 26)
  else if 0x30 ≤ n ∧ n ≤ 0x39 then some (n - 0x30 + 52)
  else if n = 0x2B then some 62
  else if n = 0x2F then some 63
  else none

/-- Where the reader stands: outside a stretch, or inside one with bits that make no unit yet. -/
inductive Phase where
  | direct
  | shifted (bits value : Nat)
  deriving DecidableEq, Repr

/-- Whether the bits left at the end of a stretch are padding. -/
def isPadding (bits value : Nat) : Bool := bits < 6 && value == 0

/-- The two-byte units that the bytes spell, read from the given phase on. Each stretch is closed
by a unit that no text has, so that halves of a surrogate pair never meet across stretches. -/
def units? : Phase → List UInt8 → Option (List Nat)
  | .direct, [] => some []
  | .shifted bits value, [] => if isPadding bits value then some [] else none
  | .direct, b :: rest =>
    if b = 0x2B then
      match rest with
      | 0x2D :: rest => (units? .direct rest).map (0x2B :: ·)
      | c :: rest =>
        if (digitValue? c).isSome then units? (.shifted 0 0) (c :: rest) else none
      | [] => units? (.shifted 0 0) []
    else if b.toNat < 0x80 then (units? .direct rest).map (b.toNat :: ·)
    else none
  | .shifted bits value, b :: rest =>
    match digitValue? b with
    | some digit =>
      let value := value * 64 + digit
      let bits := bits + 6
      if 16 ≤ bits then
        (units? (.shifted (bits - 16) (value % 2 ^ (bits - 16))) rest).map
          (value / 2 ^ (bits - 16) :: ·)
      else units? (.shifted bits value) rest
    | none =>
      if isPadding bits value then
        if b = 0x2D then units? .direct rest
        else if b.toNat < 0x80 then (units? .direct rest).map (b.toNat :: ·)
        else none
      else none

/-- Read bytes as a text. -/
def decode? (bytes : List UInt8) : Option (List Char) :=
  (units? .direct bytes).bind Wide.ofPairs?

end SafeFetch.Charset.Utf7
