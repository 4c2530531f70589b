import SafeFetch.Text.Hex

/-!
# JSON documents

Documents of texts, natural numbers, arrays and objects, and their indented text, which is pure
ASCII. A character that cannot stand in it is escaped, by a letter or by its 16-bit units in
hexadecimal digits.
-/

namespace SafeFetch.Text

/-- A document. -/
inductive JsonValue where
  | null
  | number (n : Nat)
  | text (s : List Char)
  | array (items : List JsonValue)
  | object (members : List (List Char × JsonValue))

namespace JsonValue

/-- The escape of a 16-bit unit. -/
def unitEscape (unit : Nat) : List Char := '\\' :: 'u' :: Hex.padded 4 unit

/-- The escape of a character by its 16-bit units. -/
def escapeUnits (c : Char) : List Char :=
  let n := c.toNat
  if n < 0x10000 then unitEscape n
  else
    unitEscape (0xD800 + (n - 0x10000) / 0x400) ++ unitEscape (0xDC00 + (n - 0x10000) % 0x400)

/-- How a character stands in a text. -/
def shownChar (c : Char) : List Char :=
  if c = '"' ∨ c = '\\' then ['\\', c]
  else if c = '\n' then ['\\', 'n']
  else if c = '\r' then ['\\', 'r']
  else if c = '\t' then ['\\', 't']
  else if c = '\x0C' then ['\\', 'f']
  else if c = '\x08' then ['\\', 'b']
  else if 0x20 ≤ c.toNat ∧ c.toNat ≤ 0x7E then [c]
  else escapeUnits c

/-- A text in quotation marks. -/
def quote (s : List Char) : List Char := '"' :: s.flatMap shownChar ++ ['"']

/-- The beginning of a line at a level of indentation. -/
def newLine (level : Nat) : List Char := '\n' :: List.replicate (2 * level) ' '

/-- Parts between two brackets, each on lines of its own. -/
def bracketed (opening closing : Char) (level : Nat) (parts : List (List Char)) : List Char :=
  if parts.isEmpty then [opening, closing]
  else
    opening :: newLine (level + 1) ++ List.intercalate (',' :: newLine (level + 1)) parts ++
      newLine level ++ [closing]

mutual

/-- The text of a document at a level of indentation. -/
def render (level : Nat) : JsonValue → List Char
  | .null => ['n', 'u', 'l', 'l']
  | .number n => Nat.toDigits 10 n
  | .text s => quote s
  | .array items => bracketed '[' ']' level (renderItems (level + 1) items)
  | .object members => bracketed '\x7b' '\x7d' level (renderMembers (level + 1) members)

/-- The texts of the items of an array. -/
def renderItems (level : Nat) : List JsonValue → List (List Char)
  | [] => []
  | item :: rest => render level item :: renderItems level rest

/-- The texts of the members of an object. -/
def renderMembers (level : Nat) : List (List Char × JsonValue) → List (List Char)
  | [] => []
  | (name, value) :: rest =>
    (quote name ++ ':' :: ' ' :: render level value) :: renderMembers level rest

end

end JsonValue

end SafeFetch.Text
