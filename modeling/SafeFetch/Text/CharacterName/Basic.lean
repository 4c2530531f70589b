import SafeFetch.Text.Blank

/-!
# Tables of character names

Neighbours mostly have similar names, so a table gives of each name what it has anew beside the
name before it. Two digits tell how many words stay at the beginning and at the end; the new words
follow and take the place of those between: after `LATIN SMALL LETTER A`, the entry `30B` means
`LATIN SMALL LETTER B`, and `12CAPITAL` means `LATIN CAPITAL LETTER A`.
-/

namespace SafeFetch.Text.CharacterName

/-- Characters that follow each other, from a code point on. Each line of names is what some of them
have anew, separated by semicolons. -/
structure Run where
  first : Nat
  names : List String
  deriving DecidableEq, Repr

/-- The value of a digit of a table. -/
def digit (c : Char) : Nat := c.toNat - '0'.toNat

/-- The words of a name after the words of the name before it. -/
def renew (before : List (List Char)) : List Char → List (List Char)
  | front :: back :: new =>
    before.take (digit front) ++ (if new.isEmpty then [] else splitAll ' ' new) ++
      before.drop (before.length - digit back)
  | _ => []

/-- The code point of a name among entries of a table. The first of them is for `code`. -/
def findFrom (name : List (List Char)) (before : List (List Char)) (code : Nat) :
    List (List Char) → Option Nat
  | [] => none
  | entry :: rest =>
    let words := renew before entry
    if words = name then some code else findFrom name words (code + 1) rest

/-- The code point of a name, given by its words, in a run. -/
def Run.find? (r : Run) (name : List (List Char)) : Option Nat :=
  findFrom name [] r.first (r.names.flatMap fun line => splitAll ';' line.toList)

end SafeFetch.Text.CharacterName
