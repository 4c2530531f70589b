import SafeFetch.Text.Hex

/-!
# Numbered characters

Characters that have no name of their own but a number behind the name of their kind. Mostly the
number is the code point; others are counted.
-/

namespace SafeFetch.Text.CharacterName

/-- Characters of one kind that follow each other. -/
structure Series where
  /-- What all names begin with. -/
  kind : String
  first : Nat
  last : Nat
  /-- The number of a code point. -/
  number : Nat → List Char

/-- Characters with their code points for numbers. -/
def Series.byCode (kind : String) (first last : Nat) : Series :=
  { kind, first, last, number := Hex.capitals }

/-- Characters that are counted on from `start`, with leading zeros up to three places if they are
`aligned`. -/
def Series.counted (kind : String) (first last start : Nat) (aligned : Bool) : Series where
  kind := kind
  first := first
  last := last
  number n :=
    let digits := Nat.toDigits 10 (n - first + start)
    if aligned then List.replicate (3 - digits.length) '0' ++ digits else digits

/-- The code point of a name in a series. -/
def Series.find? (s : Series) (name : List Char) : Option Nat :=
  let kind := s.kind.toList
  if kind.isPrefixOf name then
    (List.range' s.first (s.last + 1 - s.first)).find? fun n => s.number n == name.drop kind.length
  else none

/-- All series, apart from the ideographs proper. -/
def series : List Series :=
  [
    .byCode "CJK COMPATIBILITY IDEOGRAPH-" 0xf900 0xfa6d,
    .byCode "CJK COMPATIBILITY IDEOGRAPH-" 0xfa70 0xfad9,
    .byCode "CJK COMPATIBILITY IDEOGRAPH-" 0x2f800 0x2fa1d,
    .byCode "KHITAN SMALL SCRIPT CHARACTER-" 0x18b00 0x18cd5,
    .byCode "NUSHU CHARACTER-" 0x1b170 0x1b2fb,
    .counted "TANGUT COMPONENT-" 0x18800 0x18aff 1 true,
    .counted "VARIATION SELECTOR-" 0xfe00 0xfe0f 1 false,
    .counted "VARIATION SELECTOR-" 0xe0100 0xe01ef 17 false,
    .counted "VS" 0xfe00 0xfe0f 1 false,
    .counted "VS" 0xe0100 0xe01ef 17 false]

end SafeFetch.Text.CharacterName
