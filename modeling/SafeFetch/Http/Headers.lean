import SafeFetch.Text.Blank
import SafeFetch.Text.Quoted
import SafeFetch.Text.Utf8

/-!
# Header fields

The header of a response: fields of bytes in the order they came. Their bytes are text in UTF-8 when
all of them are, and in the character set of the first 256 code points otherwise. A name is looked
up without regard to the case of its letters, and fields of one name are joined by commas.
-/

namespace SafeFetch.Http

open SafeFetch.Text

/-- A field of a header. -/
structure Field where
  name : List UInt8
  value : List UInt8
  deriving DecidableEq, Repr

/-- The fields of a header, in order. -/
structure Headers where
  fields : List Field
  deriving DecidableEq, Repr

namespace Headers

/-- Why texts make no field: the characters from `first` to `last` are beyond ASCII. -/
structure Fault where
  character : Char
  first : Nat
  last : Nat
  deriving DecidableEq, Repr

/-- The text of a fault. -/
def Fault.message (f : Fault) : String :=
  "'ascii' codec can't encode " ++
    (if f.first = f.last then
      "character '" ++ String.ofList (Quoted.codePoint f.character.toNat) ++
        s!"' in position {f.first}"
    else s!"characters in position {f.first}-{f.last}") ++
    ": ordinal not in range(128)"

/-- The bytes of a text that has nothing but ASCII. -/
def asciiBytes (s : String) : Except Fault (List UInt8) :=
  let before := s.toList.takeWhile isAscii
  match s.toList.dropWhile isAscii with
  | [] => .ok (before.map fun c => UInt8.ofNat c.toNat)
  | c :: rest =>
    .error {
      character := c
      first := before.length
      last := before.length + (rest.takeWhile (!isAscii ·)).length }

/-- The field that a name and a value make. -/
def fieldOf (name value : String) : Except Fault Field := do
  let name ← asciiBytes name
  let value ← asciiBytes value
  return { name, value }

/-- The header of fields given as texts. -/
def ofTexts (fields : List (String × String)) : Except Fault Headers := do
  return { fields := ← fields.mapM fun (name, value) => fieldOf name value }

/-- Put an entry into a list of entries with distinct keys: the last value of a key counts, at the
place of the first. -/
def insertEntry (entries : List (String × String)) (entry : String × String) :
    List (String × String) :=
  if entries.any (·.1 == entry.1) then
    entries.map fun other => if other.1 == entry.1 then entry else other
  else entries ++ [entry]

/-- The header of a mapping from names to values. -/
def ofMapping (entries : List (String × String)) : Except Fault Headers :=
  ofTexts (entries.foldl insertEntry [])

/-- The text of bytes in the character set of the first 256 code points. -/
def latin1 (bytes : List UInt8) : List Char := bytes.map fun b => Char.ofNat b.toNat

/-- Whether bytes are text in UTF-8. -/
def isUtf8 (bytes : List UInt8) : Bool := (Utf8.decode? bytes).isSome

/-- Whether all bytes of a header are text in UTF-8. -/
def isAllUtf8 (h : Headers) : Bool := h.fields.all fun f => isUtf8 f.name && isUtf8 f.value

/-- The text of a value among the fields of a header. -/
def textOf (h : Headers) (value : List UInt8) : List Char :=
  if h.isAllUtf8 then (Utf8.decode? value).getD [] else latin1 value

/-- The small form of an ASCII capital among bytes. -/
def lowerByte (b : UInt8) : UInt8 := if 0x41 ≤ b ∧ b ≤ 0x5A then b + 0x20 else b

/-- Whether a field has the name `name`, which is given in small letters. -/
def isNamed (name : String) (f : Field) : Bool := f.name.map lowerByte == Utf8.encode name.toList

/-- The value of the fields of a name given in small letters, if there are any. -/
def get? (h : Headers) (name : String) : Option String :=
  match h.fields.filter (isNamed name) with
  | [] => none
  | fields =>
    some (String.ofList (List.intercalate [',', ' '] (fields.map fun f => h.textOf f.value)))

/-- Whether a header has a field of a name given in small letters. -/
def has (h : Headers) (name : String) : Bool := h.fields.any (isNamed name)

end Headers

end SafeFetch.Http
