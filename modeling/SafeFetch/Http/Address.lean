import SafeFetch.Text.Blank
import SafeFetch.Text.Hex
import SafeFetch.Text.Numeral

/-!
# Internet addresses

Which texts are addresses of the fourth and of the sixth version of the Internet protocol.
-/

namespace SafeFetch.Http.Address

open SafeFetch.Text

/-- Whether a text is one decimal part of an address: at most 255, without leading zeros. -/
def isOctet (s : List Char) : Bool :=
  !s.isEmpty && s.all Numeral.isPlainDigit && s.length ≤ 3 &&
    (s == ['0'] || s.head? != some '0') && Numeral.natOfDigits s ≤ 255

/-- Whether a text is an address of version four. -/
def isVersion4 (s : List Char) : Bool :=
  let parts := splitAll '.' s
  parts.length == 4 && parts.all isOctet

/-- Whether a text is one hexadecimal part of an address. -/
def isHextet (s : List Char) : Bool :=
  !s.isEmpty && s.length ≤ 4 && s.all fun c => (Hex.digitValue? c).isSome

/-- The positions of the empty parts between the first and the last one. -/
def innerGaps (parts : List (List Char)) : List Nat :=
  (List.range parts.length).filter fun i =>
    0 < i && i + 1 < parts.length && parts[i]? == some []

/-- Whether eight parts in all can be made of the parts between colons, at most one run of which is
left out. -/
def areParts (parts : List (List Char)) : Bool :=
  match innerGaps parts with
  | [] => parts.length == 8 && parts.all isHextet
  | [gap] =>
    let before := parts.take gap
    let after := parts.drop (gap + 1)
    let before := if before == [[]] then [] else before
    let after := if after == [[]] then [] else after
    before.length + after.length ≤ 7 && before.all isHextet && after.all isHextet
  | _ => false

/-- Whether a text is an address of version six without a zone. -/
def isPlainVersion6 (s : List Char) : Bool :=
  let parts := splitAll ':' s
  let last := parts.getLast?.getD []
  if parts.length < 3 then false
  else if last.contains '.' then
    isVersion4 last && parts.length ≤ 8 && areParts (parts.dropLast ++ [['0'], ['0']])
  else parts.length ≤ 9 && areParts parts

/-- Whether a text is an address of version six, perhaps with a zone after a percent sign. -/
def isVersion6 (s : List Char) : Bool :=
  match cut? '%' s with
  | none => !s.contains '/' && isPlainVersion6 s
  | some (address, zone) =>
    !s.contains '/' && !zone.isEmpty && !zone.contains '%' && isPlainVersion6 address

/-- Whether a text looks as if an address of version four was meant: four numbers with points
between them. -/
def looksLikeVersion4 (s : List Char) : Bool :=
  let parts := splitAll '.' s
  parts.length == 4 && parts.all fun part => !part.isEmpty && part.all Numeral.isPlainDigit

end SafeFetch.Http.Address
