import SafeFetch.Text.Hex
import SafeFetch.Text.Printable

/-!
# Quoted texts in messages

A text shown inside a message is put in quotation marks, and every character that a reader could
not see is shown as an escape: the common controls and the backslash by a letter, the others by
their code point in two, four or eight hexadecimal digits.
-/

namespace SafeFetch.Text.Quoted

/-- The mark around a text: single, unless the text holds a single mark and no double one. -/
def mark (s : List Char) : Char :=
  if s.contains '\'' && !s.contains '"' then '"' else '\''

/-- A code point as an escape of the shortest of the three widths. -/
def codePoint (n : Nat) : List Char :=
  if n < 0x100 then '\\' :: 'x' :: Hex.padded 2 n
  else if n < 0x10000 then '\\' :: 'u' :: Hex.padded 4 n
  else '\\' :: 'U' :: Hex.padded 8 n

/-- How one character is shown between marks. -/
def shown (mark c : Char) : List Char :=
  if c = mark ∨ c = '\\' then ['\\', c]
  else if c = '\t' then ['\\', 't']
  else if c = '\n' then ['\\', 'n']
  else if c = '\r' then ['\\', 'r']
  else if isPrintable c then [c]
  else codePoint c.toNat

/-- The quoted form of a text. -/
def encode (s : List Char) : List Char :=
  mark s :: s.flatMap (shown (mark s)) ++ [mark s]

/-- The character of a code point, if it has one. -/
def character? (n : Nat) : Option Char := if n.isValidChar then some (Char.ofNat n) else none

/-- How one code point is shown between marks. -/
def shownCode (mark : Char) (n : Nat) : List Char :=
  match character? n with
  | some c => shown mark c
  | none => codePoint n

/-- The quoted form of a text of code points, which need not be characters. -/
def encodeCodes (codes : List Nat) : List Char :=
  let mark := mark (codes.filterMap character?)
  mark :: codes.flatMap (shownCode mark) ++ [mark]

end SafeFetch.Text.Quoted

namespace SafeFetch.Text

/-- The quoted form of a text, as messages show it. -/
def quoted (s : String) : String := String.ofList (Quoted.encode s.toList)

/-- The quoted form of a text of code points, as messages show it. -/
def quotedCodes (codes : List Nat) : String := String.ofList (Quoted.encodeCodes codes)

end SafeFetch.Text
