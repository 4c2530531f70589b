import SafeFetch.Text.Blank
import SafeFetch.Text.Digit

/-!
# Numerals

Integers as people write them into settings and headers: decimal digits of any script, single low
lines between digits, a sign, and white space around.
-/

namespace SafeFetch.Text.Numeral

/-- The ASCII character that a numeral reads in place of `c`: the digit of the same value, a space
for white space beyond ASCII, and a question mark for any other character beyond ASCII. -/
def plainChar (c : Char) : Char :=
  if c.toNat < 0x7F then c
  else if isBlank c then ' '
  else
    match digitValue? c with
    | some value => Char.ofNat ('0'.toNat + value)
    | none => '?'

/-- The ASCII form of a numeral, without the white space around it. -/
def plain (s : List Char) : List Char := trimWhile isAsciiBlank (s.map plainChar)

/-- Split a leading sign off; true means negative. -/
def splitSign : List Char → Bool × List Char
  | '-' :: rest => (true, rest)
  | '+' :: rest => (false, rest)
  | s => (false, s)

/-- Whether `c` is an ASCII digit. -/
def isPlainDigit (c : Char) : Bool := '0' ≤ c && c ≤ '9'

/-- The number that a list of ASCII digits writes. -/
def natOfDigits (digits : List Char) : Nat :=
  digits.foldl (fun n c => 10 * n + (c.toNat - '0'.toNat)) 0

/-- The digits of a text that has nothing but digits and single low lines between them. -/
def groupedDigits? (s : List Char) : Option (List Char) :=
  let groups := splitAll '_' s
  if groups.all fun group => !group.isEmpty && group.all isPlainDigit then some groups.flatten
  else none

/-- The most digits that a numeral may have. -/
def maxDigits : Nat := 4300

/-- Read an integer. -/
def int? (s : List Char) : Option Int :=
  let (isNegative, body) := splitSign (plain s)
  match groupedDigits? body with
  | none => none
  | some digits =>
    if maxDigits < digits.length then none
    else if isNegative then some (-(natOfDigits digits : Int))
    else some (natOfDigits digits)

end SafeFetch.Text.Numeral
