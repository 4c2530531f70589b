/-!
# Code pages

A single-byte character set: a name, the other labels that select it, and one character for every
byte. The noncharacter U+FFFE marks a byte that stands for nothing.
-/

namespace SafeFetch.Charset

/-- A single-byte character set. -/
structure CodePage where
  /-- The registered name, in normal form. -/
  name : String
  /-- The other labels of the set, in normal form. -/
  aliases : List String
  /-- The character of every byte. -/
  chars : Array Char

namespace CodePage

/-- The mark of a byte without a character. -/
def unassigned : Char := '\uFFFE'

/-- A table that lists the character of every byte, row by row. -/
def ofChars (rows : List String) : Array Char := (rows.flatMap String.toList).toArray

/-- A table whose lower half is ASCII and whose upper half is listed row by row. -/
def ofUpper (rows : List String) : Array Char :=
  ((List.range 128).map Char.ofNat ++ rows.flatMap String.toList).toArray

/-- The character of one byte, if it stands for one. -/
def char? (page : CodePage) (b : UInt8) : Option Char :=
  match page.chars[b.toNat]? with
  | some c => if c = unassigned then none else some c
  | none => none

/-- Read bytes as a text; a byte without a character refuses the whole. -/
def decode? (page : CodePage) (bytes : List UInt8) : Option (List Char) :=
  bytes.mapM page.char?

end CodePage

end SafeFetch.Charset
