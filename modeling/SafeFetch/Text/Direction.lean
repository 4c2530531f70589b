import SafeFetch.Text.Mark

/-!
# Direction of writing

Whether the characters of names are written from the left or from the right, and which characters
have no direction of their own.
-/

namespace SafeFetch.Text

/-- The direction of a character. -/
inductive Direction where
  | left
  | right
  /-- A letter of the Arabic family, which is written from the right as well. -/
  | arabicLetter
  | number
  | arabicNumber
  | hyphen
  | neutral
  /-- A character that is not seen. -/
  | boundary
  | mark
  deriving DecidableEq, Repr

namespace Direction

/-- The blocks of the scripts that are written from the right, except the Arabic family. -/
def rightBlocks : Ranges :=
  #[
    (0x5d0, 0x5f4), (0x7c0, 0x858), (0x10800, 0x10cf2), (0x10e80, 0x10f27), (0x10f70, 0x10ff6),
    (0x1e800, 0x1e959)]

/-- The blocks of the Arabic family. -/
def arabicBlocks : Ranges :=
  #[
    (0x620, 0x7b1), (0x860, 0x8c9), (0xfe73, 0xfe73), (0x10d00, 0x10d23), (0x10f30, 0x10f45)]

/-- The letters and signs without a direction. -/
def neutralCharacters : Ranges :=
  #[
    (0xb7, 0xb7), (0x2b9, 0x2ba), (0x2c6, 0x2cf), (0x2ec, 0x2ec), (0x375, 0x375), (0x2e2f, 0x2e2f),
    (0x30fb, 0x30fb), (0xa67f, 0xa67f), (0xa717, 0xa71f), (0xa788, 0xa788)]

/-- The marks that have the direction of the letters they are written with. -/
def directedMarks : List Nat := [0xcbf, 0xcc6, 0x11a07, 0x11a08, 0x11c3f]

/-- Whether a code point is a digit that is written as in Europe. -/
def isEuropeanDigit (n : Nat) : Bool := (0x30 ≤ n && n ≤ 0x39) || (0x6f0 ≤ n && n ≤ 0x6f9)

/-- Whether a code point is a digit that is written as in Arabic. -/
def isArabicDigit (n : Nat) : Bool := (0x660 ≤ n && n ≤ 0x669) || (0x10d30 ≤ n && n ≤ 0x10d39)

/-- Whether a code point joins or separates the letters around it without being seen. -/
def isJoiner (n : Nat) : Bool := n == 0x200c || n == 0x200d

/-- The direction of a code point that may stand in a host name. -/
def ofCodePoint (n : Nat) : Direction :=
  if n = 0x2d then .hyphen
  else if isEuropeanDigit n then .number
  else if isArabicDigit n then .arabicNumber
  else if isJoiner n then .boundary
  else if isNonspacingMark n && !directedMarks.contains n then .mark
  else if neutralCharacters.holds n then .neutral
  else if rightBlocks.holds n then .right
  else if arabicBlocks.holds n then .arabicLetter
  else .left

end Direction

end SafeFetch.Text
