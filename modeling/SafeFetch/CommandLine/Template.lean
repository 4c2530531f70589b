import SafeFetch.Text.Quoted

/-!
# Templates

Texts with places for values. A percent sign begins a directive: perhaps the name of a value in
parentheses, then flags, a width and a precision, and last a letter that tells how the value is
shown. Without a name the directive means all values together, which it may do once. A second
percent sign right behind the first stands for a percent sign.

```
%(default)s      the value named `default`
%(default)-20r   the same as it is written among other values, in a width of twenty
100%%            a percent sign
```
-/

namespace SafeFetch.CommandLine.Template

open SafeFetch.Text

/-- A value that a template may show. -/
structure Value where
  name : String
  /-- What kind of value it is. -/
  kind : String
  text : String
  /-- The value as it is written among other values. -/
  literal : String
  /-- Whether the value is also the number zero. -/
  isZero : Bool
  deriving DecidableEq, Repr

/-- Why a template cannot be filled in. -/
inductive Fault where
  /-- A parenthesis around a name is not closed. -/
  | openName
  | unknownName (name : String)
  /-- The template ends inside a directive. -/
  | cutOff
  | widthTooLarge
  | precisionTooLarge
  /-- A width or a precision shall be taken from a value. -/
  | widthFromValue
  /-- The values were shown already. -/
  | usedUp
  /-- A letter that shows numbers only. -/
  | notANumber (letter : Char) (kind : String)
  /-- A letter that shows single characters only. -/
  | notACharacter
  | unknownLetter (letter : Char) (position : Nat)
  deriving DecidableEq, Repr

/-- Whether a letter shows whole numbers in a base other than ten. -/
def isBaseLetter (c : Char) : Bool := c == 'o' || c == 'x' || c == 'X'

/-- Whether a letter shows whole numbers in base ten. -/
def isDecimalLetter (c : Char) : Bool := c == 'd' || c == 'i' || c == 'u'

/-- Whether a letter shows numbers with places. -/
def isPlacesLetter (c : Char) : Bool := "eEfFgG".toList.contains c

/-- The small hexadecimal digits of a number. -/
def hexadecimal (n : Nat) : String := String.ofList (Nat.toDigits 16 n)

/-- The text of a fault. -/
def Fault.message : Fault → String
  | .openName => "incomplete format key"
  | .unknownName name => quoted name
  | .cutOff => "incomplete format"
  | .widthTooLarge => "width too big"
  | .precisionTooLarge => "precision too big"
  | .widthFromValue => "* wants int"
  | .usedUp => "not enough arguments for format string"
  | .notANumber letter kind =>
    if isPlacesLetter letter then "must be real number, not " ++ kind
    else if isBaseLetter letter then s!"%{letter} format: an integer is required, not {kind}"
    else s!"%{letter} format: a real number is required, not {kind}"
  | .notACharacter => "%c requires int or char"
  | .unknownLetter letter position =>
    let shown := if 31 ≤ letter.toNat ∧ letter.toNat ≤ 126 then letter else '?'
    s!"unsupported format character '{shown}' (0x{hexadecimal letter.toNat}) at index {position}"

/-! ## Directives -/

/-- How a directive shows its value. -/
structure Directive where
  flags : List Char
  width : Nat
  precision : Option Nat
  letter : Char
  deriving DecidableEq, Repr

/-- Read the name in front up to the parenthesis that closes it, inside `depth` further ones. -/
def name? (depth : Nat) : List Char → Option (List Char × List Char)
  | [] => none
  | ')' :: rest =>
    match depth with
    | 0 => some ([], rest)
    | depth + 1 => (name? depth rest).map fun (name, rest) => (')' :: name, rest)
  | c :: rest =>
    (name? (if c = '(' then depth + 1 else depth) rest).map fun (name, rest) => (c :: name, rest)

/-- Whether `c` is a flag of a directive. -/
def isFlag (c : Char) : Bool := "-+ #0".toList.contains c

/-- Whether `c` is an ASCII digit. -/
def isDigit (c : Char) : Bool := '0' ≤ c && c ≤ '9'

/-- Read the number in front, which must not exceed a limit on the way. -/
def number? (limit : Nat) (digits : List Char) : Option Nat :=
  digits.foldlM
    (fun n c =>
      let digit := c.toNat - '0'.toNat
      if (limit - digit) / 10 < n then none else some (10 * n + digit))
    0

/-- The largest width. -/
def widthLimit : Nat := 0x7fffffffffffffff

/-- The largest precision. -/
def precisionLimit : Nat := 0x7fffffff

/-- What is left of a template: the value that the next directive without a name shows, and the
rest of the text. -/
structure Rest where
  current : Option Value
  text : List Char

/-- Take a width or a precision from the value, which is used up by that. -/
def Rest.takeMeasure (r : Rest) (text : List Char) : Except Fault (Option Nat × Rest) :=
  match r.current with
  | none => .error .usedUp
  | some value =>
    if value.isZero then .ok (some 0, { current := none, text }) else .error .widthFromValue

/-- Read a width or a precision. -/
def Rest.measure (r : Rest) (limit : Nat) (tooLarge : Fault) : Except Fault (Option Nat × Rest) :=
  match r.text with
  | '*' :: text => r.takeMeasure text
  | text =>
    let digits := text.takeWhile isDigit
    if digits.isEmpty then .ok (none, r)
    else
      match number? limit digits with
      | none => .error tooLarge
      | some n => .ok (some n, { r with text := text.dropWhile isDigit })

/-- Read the precision behind a point, if there is one. -/
def Rest.precision (r : Rest) : Except Fault (Option Nat × Rest) :=
  match r.text with
  | '.' :: text => do
    let (precision, r) ← { r with text }.measure precisionLimit .precisionTooLarge
    return (some (precision.getD 0), r)
  | _ => .ok (none, r)

/-- Read a directive from its flags on. -/
def Rest.directive (r : Rest) : Except Fault (Directive × Rest) := do
  let flags := r.text.takeWhile isFlag
  let r := { r with text := r.text.dropWhile isFlag }
  let (width, r) ← r.measure widthLimit .widthTooLarge
  let (precision, r) ← r.precision
  let text :=
    match r.text with
    | c :: text => if c = 'h' ∨ c = 'l' ∨ c = 'L' then text else c :: text
    | [] => []
  match text with
  | [] => .error .cutOff
  | letter :: text => .ok ({ flags, width := width.getD 0, precision, letter }, { r with text })

/-- What fills the width of a directive that a text of a length is short of. -/
def Directive.room (d : Directive) (fill : Char) (length : Nat) : List Char :=
  List.replicate (d.width - length) fill

/-- A text in the width of a directive. -/
def Directive.pad (d : Directive) (s : List Char) : List Char :=
  if d.flags.contains '-' then s ++ d.room ' ' s.length else d.room ' ' s.length ++ s

/-- A text cut to the precision of a directive. -/
def Directive.cut (d : Directive) (s : List Char) : List Char :=
  match d.precision with
  | some n => s.take n
  | none => s

/-- A text with escapes in place of the characters beyond ASCII. -/
def asciiOnly (s : List Char) : List Char :=
  s.flatMap fun c => if c.toNat < 0x80 then [c] else Quoted.codePoint c.toNat

/-- What a directive writes in front of the digits of zero: a sign, and the letter of a base. -/
def Directive.front (d : Directive) : List Char :=
  (if d.flags.contains '+' then ['+'] else if d.flags.contains ' ' then [' '] else []) ++
    if d.flags.contains '#' && isBaseLetter d.letter then ['0', d.letter] else []

/-- Zero with places, of which none may be left. -/
def Directive.places (d : Directive) (n : Nat) : List Char :=
  '0' :: (if n = 0 && !d.flags.contains '#' then [] else '.' :: List.replicate n '0')

/-- The digits of zero. -/
def Directive.zeroDigits (d : Directive) : List Char :=
  if !isPlacesLetter d.letter then List.replicate (max 1 (d.precision.getD 1)) '0'
  else
    let precision := d.precision.getD 6
    if d.letter = 'f' ∨ d.letter = 'F' then d.places precision
    else if d.letter = 'g' ∨ d.letter = 'G' then
      d.places (if d.flags.contains '#' then precision - 1 else 0)
    else d.places precision ++ [d.letter, '+', '0', '0']

/-- Show the number zero. Zeros that fill the width stand behind the sign. -/
def Directive.zero (d : Directive) : List Char :=
  let s := d.front ++ d.zeroDigits
  if d.flags.contains '0' && !d.flags.contains '-' then
    d.front ++ d.room '0' s.length ++ d.zeroDigits
  else d.pad s

/-- The character that a value is. -/
def Value.character? (value : Value) : Option Char :=
  if value.isZero then some '\x00'
  else
    match value.text.toList with
    | [c] => if value.kind = "str" then some c else none
    | _ => none

/-- Show a value. The letter stands at a position. -/
def Directive.show? (d : Directive) (position : Nat) (value : Value) :
    Except Fault (List Char) :=
  if d.letter = 's' then .ok (d.pad (d.cut value.text.toList))
  else if d.letter = 'r' then .ok (d.pad (d.cut value.literal.toList))
  else if d.letter = 'a' then .ok (d.pad (d.cut (asciiOnly value.literal.toList)))
  else if d.letter = 'c' then
    match value.character? with
    | some c => .ok (d.pad [c])
    | none => .error .notACharacter
  else if isDecimalLetter d.letter || isBaseLetter d.letter || isPlacesLetter d.letter then
    if value.isZero then .ok d.zero else .error (.notANumber d.letter value.kind)
  else .error (.unknownLetter d.letter position)

/-! ## Filling in -/

/-- All values together. -/
def together (values : List Value) : Value :=
  let entries := values.map fun value => quoted value.name ++ ": " ++ value.literal
  let text := "\x7b" ++ String.intercalate ", " entries ++ "\x7d"
  { name := "", kind := "dict", text, literal := text, isZero := false }

/-- Fill in the directive in front, after its percent sign, in a template of a length. -/
def fillOne (values : List Value) (length : Nat) (r : Rest) : Except Fault (List Char × Rest) := do
  if let '%' :: text := r.text then return (['%'], { r with text })
  let r ←
    match r.text with
    | '(' :: text =>
      match name? 0 text with
      | none => throw .openName
      | some (name, text) =>
        match values.find? fun value => value.name.toList == name with
        | none => throw (.unknownName (String.ofList name))
        | some value => pure { current := some value, text : Rest }
    | _ => pure r
  let (d, r) ← r.directive
  match r.current with
  | none => throw .usedUp
  | some value => return (← d.show? (length - r.text.length - 1) value, { r with current := none })

/-- Fill in a template of a length, from a place on where at most `fuel` characters are left. -/
def fillFrom (values : List Value) (length : Nat) : (fuel : Nat) → Rest → Except Fault (List Char)
  | 0, _ => .ok []
  | fuel + 1, r =>
    match r.text with
    | [] => .ok []
    | '%' :: text => do
      let (shown, r) ← fillOne values length { r with text }
      return shown ++ (← fillFrom values length fuel r)
    | c :: text => do return c :: (← fillFrom values length fuel { r with text })

/-- Fill in a template. -/
def fill (values : List Value) (template : String) : Except Fault String :=
  let text := template.toList
  let rest : Rest := { current := some (together values), text }
  (fillFrom values text.length text.length rest).map String.ofList

end SafeFetch.CommandLine.Template
