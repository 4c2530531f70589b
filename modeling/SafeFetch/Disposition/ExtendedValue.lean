import SafeFetch.Charset.Basic
import SafeFetch.Disposition.Basic
import SafeFetch.Percent

/-!
# Extended values and continuations

A parameter value that names its character set: the label, a quote, a language, a quote, and the
text with percent escapes. A long value may be continued over several parameters, numbered from
zero; the number is followed by an asterisk when the piece has percent escapes, and the first such
piece may name the character set of the whole.
-/

namespace SafeFetch.Disposition

open SafeFetch.Text

variable [Platform]

/-- The label of the character set and the escaped text of an extended value. -/
def labelAndText? (value : List Char) : Option (List Char × List Char) :=
  (cut? '\'' value).bind fun (label, rest) =>
    (cut? '\'' rest).map fun (_, text) => (label, text)

/-- Read bytes in a declared character set. Bytes that are no text in it, or a label that selects
none, give no text; a label with a NUL is refused. -/
def decodeDeclared (label : List Char) (bytes : List UInt8) :
    Except Charset.Fault (Option (List Char)) :=
  match Charset.decodeLabelled label bytes with
  | .ok text => .ok (some text)
  | .error .nulInLabel => .error .nulInLabel
  | .error _ => .ok none

/-- Read an extended value. -/
def decodeExtended (value : List Char) : Except Charset.Fault (Option (List Char)) :=
  match labelAndText? value with
  | none => .ok none
  | some (label, text) =>
    if label.isEmpty then .ok none else decodeDeclared label (Percent.bytes text)

/-- The name of the parameter that continuations belong to. -/
def fileNameKey : List Char := "filename".toList

/-- The name of the plain piece number `n`. -/
def plainKey (n : Nat) : List Char := fileNameKey ++ '*' :: Nat.toDigits 10 n

/-- The name of the escaped piece number `n`. -/
def escapedKey (n : Nat) : List Char := plainKey n ++ ['*']

/-- The bytes of the pieces from number `n` on, at most `count` of them. An escaped piece goes
before a plain one of the same number. -/
def piecesFrom (ps : List Parameter) : (count n : Nat) → List (List UInt8)
  | 0, _ => []
  | count + 1, n =>
    match get? ps (escapedKey n), get? ps (plainKey n) with
    | some text, _ => Percent.bytes text :: piecesFrom ps count (n + 1)
    | none, some text => Utf8.encode text :: piecesFrom ps count (n + 1)
    | none, none => []

/-- The character set that pieces are in when none is declared. -/
def defaultLabel : List Char := "utf-8".toList

/-- Join the pieces of a continued file name. Every piece takes a parameter of its own, so there are
no more pieces than parameters. -/
def continuedFileName (ps : List Parameter) : Except Charset.Fault (Option (List Char)) :=
  match get? ps (escapedKey 0), get? ps (plainKey 0) with
  | some value, _ =>
    match labelAndText? value with
    | none => .ok none
    | some (label, text) =>
      if label.isEmpty then .ok none
      else decodeDeclared label (Percent.bytes text ++ (piecesFrom ps ps.length 1).flatten)
  | none, some text =>
    decodeDeclared defaultLabel (Utf8.encode text ++ (piecesFrom ps ps.length 1).flatten)
  | none, none => .ok none

/-- A text, unless it is empty. -/
def nonempty? (text : Option (List Char)) : Option (List Char) := text.filter (!·.isEmpty)

/-- The file name that parameters give: the extended one, else the continued one, else the plain
one. An empty name is none. -/
def fileName (ps : List Parameter) : Except Charset.Fault (Option (List Char)) := do
  let extended ← match get? ps (fileNameKey ++ ['*']) with
    | some value => decodeExtended value
    | none => pure none
  match nonempty? extended with
  | some name => return some name
  | none =>
    match nonempty? (← continuedFileName ps) with
    | some name => return some name
    | none => return nonempty? (get? ps fileNameKey)

/-- The file name in the value of a `Content-Disposition` header. -/
def fileNameOf (value : String) : Except Charset.Fault (Option String) :=
  match parse? value with
  | none => .ok none
  | some ps => (fileName ps).map (·.map String.ofList)

end SafeFetch.Disposition
