import SafeFetch.Http.HostName.Permitted
import SafeFetch.Text.Direction
import SafeFetch.Text.Hex
import SafeFetch.Text.Joining
import SafeFetch.Text.NormalForm
import SafeFetch.Text.Quoted
import SafeFetch.Text.Script

/-!
# Labels of international host names

The rules that a label of a host name keeps: it is in normal form, hyphens stand inside only, it
does not begin with a mark, its characters are permitted, some of them between certain neighbours
only, and it is read in one direction. A label is a list of code points, since what is written in
Punycode need not be characters. Positions count from one.
-/

namespace SafeFetch.Http.HostName

open SafeFetch.Text

/-- Why a host name cannot be read. -/
inductive Fault where
  /-- The name has too many characters. -/
  | tooLong
  | emptyLabel
  /-- Nothing follows the mark of a label in Punycode. -/
  | emptyPunycode
  | punycodeEndsInHyphen
  | malformedPunycode
  | notNormal
  /-- Hyphens in the third and the fourth place are kept for marks of labels. -/
  | hyphensLikeMark
  | hyphenAtEnd
  | leadingMark
  /-- A joiner between letters that it cannot join. -/
  | joiner (code position : Nat) (label : List Nat)
  /-- A character that is permitted between other neighbours only. -/
  | misplaced (code position : Nat) (label : List Nat)
  | notPermitted (code position : Nat) (label : List Nat)
  /-- A character too new to have a known direction. -/
  | unknownDirection (position : Nat) (label : List Nat)
  | undirectedStart (label : List Nat)
  /-- A character against the direction that the label has, from the right or from the left. -/
  | wrongDirection (position : Nat) (fromRight : Bool)
  | mixedNumbers
  | undirectedEnd
  deriving DecidableEq, Repr

/-- A code point as messages name it. -/
def codeName (n : Nat) : String :=
  let digits := Hex.capitals n
  "U+" ++ String.ofList (List.replicate (4 - digits.length) '0' ++ digits)

/-- The text of a fault. -/
def Fault.message : Fault → String
  | .tooLong => "Domain too long"
  | .emptyLabel => "Empty Label"
  | .emptyPunycode => "Malformed A-label, no Punycode eligible content found"
  | .punycodeEndsInHyphen => "A-label must not end with a hyphen"
  | .malformedPunycode => "Invalid A-label"
  | .notNormal => "Label must be in Normalization Form C"
  | .hyphensLikeMark => "Label has disallowed hyphens in 3rd and 4th position"
  | .hyphenAtEnd => "Label must not start or end with a hyphen"
  | .leadingMark => "Label begins with an illegal combining character"
  | .joiner code position label =>
    s!"Unknown codepoint adjacent to joiner {codeName code} at position {position} in " ++
      quotedCodes label
  | .misplaced code position label =>
    s!"Codepoint {codeName code} not allowed at position {position} in " ++ quotedCodes label
  | .notPermitted code position label =>
    s!"Codepoint {codeName code} at position {position} of " ++ quotedCodes label ++
      " not allowed"
  | .unknownDirection position label =>
    "Unknown directionality in label " ++ quotedCodes label ++ s!" at position {position}"
  | .undirectedStart label =>
    "First codepoint in label " ++ quotedCodes label ++ " must be directionality L, R or AL"
  | .wrongDirection position fromRight =>
    s!"Invalid direction for codepoint at position {position} in a " ++
      (if fromRight then "right-to-left label" else "left-to-right label")
  | .mixedNumbers => "Can not mix numeral types in a right-to-left label"
  | .undirectedEnd => "Label ends with illegal codepoint directionality"

/-! ## Neighbours -/

/-- The joiner that keeps letters apart. -/
def nonJoiner : Nat := 0x200c

/-- Whether a code point is a character that has a name. -/
def isKnown (n : Nat) : Bool :=
  (n.isValidChar && isPrintable (Char.ofNat n)) || Direction.isJoiner n

/-- Whether the letters around a joiner would join without it. The letters before it are given
backwards. -/
def isBetweenJoining (before after : List Nat) : Bool :=
  let nearest (s : List Nat) : Option Joining :=
    (s.map Joining.ofCodePoint).find? (· ≠ .transparent)
  (nearest before).any (fun j => j = .after || j = .both) &&
    (nearest after).any (fun j => j = .before || j = .both)

/-- Whether a joiner may stand between letters: after a sign that takes the vowel off a consonant,
and if it keeps letters apart, between letters that would join without it. -/
def isJoinerAllowed (before : List Nat) (n : Nat) (after : List Nat) : Bool :=
  match before with
  | [] => false
  | last :: _ =>
    combiningClass last = viramaClass ||
      (isKnown last && n = nonJoiner && isBetweenJoining before after)

/-- The signs that need certain neighbours. -/
def isContextual (n : Nat) : Bool :=
  n == 0xb7 || n == 0x375 || n == 0x5f3 || n == 0x5f4 || n == 0x30fb ||
    (0x660 ≤ n && n ≤ 0x669) || (0x6f0 ≤ n && n ≤ 0x6f9)

/-- Whether a contextual sign may stand between letters: a middle dot between two letters l, a Greek
numeral sign before a Greek letter, Hebrew signs after a Hebrew letter, the Katakana dot in a label
with any Japanese letter, and Arabic digits of one kind only. -/
def isContextMet (label before : List Nat) (n : Nat) (after : List Nat) : Bool :=
  if n = 0xb7 then before.head? = some 0x6c && after.head? = some 0x6c
  else if n = 0x375 then after.head?.any greekCharacters.holds
  else if n = 0x5f3 ∨ n = 0x5f4 then before.head?.any hebrewCharacters.holds
  else if n = 0x30fb then
    label.any fun m =>
      m != 0x30fb && (hiraganaCharacters.holds m || katakanaCharacters.holds m ||
        hanCharacters.holds m)
  else if n ≤ 0x669 then !label.any fun m => 0x6f0 ≤ m && m ≤ 0x6f9
  else !label.any fun m => 0x660 ≤ m && m ≤ 0x669

/-- The fault of one code point of a label, at a position and between its neighbours. -/
def codeFault? (label : List Nat) (position : Nat) (before : List Nat) (n : Nat)
    (after : List Nat) : Option Fault :=
  if isPermitted n then none
  else if Direction.isJoiner n then
    if isJoinerAllowed before n after then none else some (.joiner n position label)
  else if isContextual n then
    if isContextMet label before n after then none else some (.misplaced n position label)
  else some (.notPermitted n position label)

/-- The first fault among the code points of a label after those that are checked, which are given
backwards. -/
def codesFault? (label before : List Nat) : List Nat → Option Fault
  | [] => none
  | n :: after =>
    (codeFault? label (before.length + 1) before n after).or
      (codesFault? label (n :: before) after)

/-! ## Direction -/

/-- The first fault among the directions of a label that is read from the right, from a position on.
The label must end, marks aside, with a letter or a digit, and its digits must be of one kind. -/
def rightFault? (position : Nat) (mayEnd : Bool) (digits : Option Direction) :
    List Direction → Option Fault
  | [] => if mayEnd then none else some .undirectedEnd
  | d :: rest =>
    if d = .left then some (.wrongDirection position true)
    else
      let isDigit := d = .number || d = .arabicNumber
      let isEnd := isDigit || d = .right || d = .arabicLetter
      if isDigit && digits.any (· ≠ d) then some .mixedNumbers
      else
        rightFault? (position + 1) (isEnd || (mayEnd && d = .mark))
          (if isDigit then some d else digits) rest

/-- The first fault among the directions of a label that is read from the left, from a position
on. -/
def leftFault? (position : Nat) (mayEnd : Bool) : List Direction → Option Fault
  | [] => if mayEnd then none else some .undirectedEnd
  | d :: rest =>
    if d = .right ∨ d = .arabicLetter ∨ d = .arabicNumber then
      some (.wrongDirection position false)
    else
      leftFault? (position + 1) (d = .left || d = .number || (mayEnd && d = .mark)) rest

/-- The fault of the directions in a label. They matter only if something in it is written from the
right. -/
def directionFault? (label : List Nat) : Option Fault :=
  match label.findIdx? (!isKnown ·) with
  | some i => some (.unknownDirection (i + 1) label)
  | none =>
    let directions := label.map Direction.ofCodePoint
    if directions.any fun d => d = .right || d = .arabicLetter || d = .arabicNumber then
      match directions.head? with
      | some .right | some .arabicLetter => rightFault? 1 false none directions
      | some .left => leftFault? 1 false directions
      | _ => some (.undirectedStart label)
    else none

/-! ## Labels -/

/-- The code point of a hyphen. -/
def hyphen : Nat := 0x2d

/-- The fault of a label. -/
def labelFault? (label : List Nat) : Option Fault :=
  if label.isEmpty then some .emptyLabel
  else if !NormalForm.isNormal label then some .notNormal
  else if (label.drop 2).take 2 = [hyphen, hyphen] then some .hyphensLikeMark
  else if label.head? = some hyphen ∨ label.getLast? = some hyphen then some .hyphenAtEnd
  else if label.head?.any isMark then some .leadingMark
  else (codesFault? label [] label).or (directionFault? label)

end SafeFetch.Http.HostName
