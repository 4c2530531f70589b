import SafeFetch.Settings
import SafeFetch.Text.Digit
import SafeFetch.Text.Quoted

/-!
# Arguments of the command line

The options that a user may give, in any order and by any unambiguous beginning of their names, and
the URLs among them. A double hyphen ends the options. All URLs must stand together; what cannot be
taken is reported.
-/

namespace SafeFetch.CommandLine

open SafeFetch.Text

/-! ## Options -/

/-- The name of an option. -/
inductive OptionName where
  | help
  | dest
  | force
  | algorithm
  | checksum
  | manifest
  deriving DecidableEq, Repr

namespace OptionName

/-- The long spelling of a name. -/
def spelling : OptionName → String
  | .help => "--help"
  | .dest => "--dest"
  | .force => "--force"
  | .algorithm => "--algorithm"
  | .checksum => "--checksum"
  | .manifest => "--manifest"

/-- All spellings of a name, as messages give them. -/
def spellings : OptionName → String
  | .help => "-h/--help"
  | name => name.spelling

/-- Whether a value belongs to the option. -/
def takesValue : OptionName → Bool
  | .dest | .algorithm | .checksum => true
  | .help | .force | .manifest => false

/-- All names, in the order of the help. -/
def all : List OptionName := [.help, .dest, .force, .algorithm, .checksum, .manifest]

/-- The name that a text spells. -/
def ofSpelling? (s : List Char) : Option OptionName :=
  if s = ['-', 'h'] then some .help else all.find? fun name => name.spelling.toList == s

/-- The names whose long spelling begins with a text. -/
def startingWith (s : List Char) : List OptionName :=
  all.filter fun name => s.isPrefixOf name.spelling.toList

end OptionName

/-! ## Words -/

/-- A word of the command line. -/
inductive Word where
  | plain (s : String)
  /-- The double hyphen that ends the options. -/
  | divider
  /-- An option by its long name, perhaps with a value after an equals sign. -/
  | long (name : OptionName) (value : Option (List Char))
  /-- The short name of the help with what follows it. -/
  | short (value : Option (List Char))
  | unknown (s : String)
  deriving DecidableEq, Repr

/-- Whether a word is a negative number, whole or with a point, perhaps with a line feed at its
end. -/
def isNegativeNumber (s : List Char) : Bool :=
  let isNd (c : Char) := (digitValue? c).isSome
  match if s.getLast? = some '\n' then s.dropLast else s with
  | '-' :: rest =>
    (!rest.isEmpty && rest.all isNd) ||
      (match cut? '.' rest with
        | some (whole, places) => whole.all isNd && !places.isEmpty && places.all isNd
        | none => false)
  | _ => false

/-- The part of a word before its first equals sign, and the value after it. -/
def splitValue (s : List Char) : List Char × Option (List Char) :=
  match cut? '=' s with
  | some (name, value) => (name, some value)
  | none => (s, none)

/-- A word by the name that it spells. -/
def named (s : List Char) (name : OptionName) (value : Option (List Char)) : Word :=
  if s.take 2 = ['-', '-'] then .long name value else .short value

/-- A word that spells no name exactly. -/
def approximate (s : List Char) : Except String Word :=
  let (beginning, value) := splitValue s
  let other : Word :=
    if isNegativeNumber s || s.contains ' ' then .plain (String.ofList s)
    else .unknown (String.ofList s)
  if s.take 2 = ['-', '-'] then
    match OptionName.startingWith beginning with
    | [] => .ok other
    | [name] => .ok (.long name value)
    | names =>
      .error ("ambiguous option: " ++ String.ofList s ++ " could match " ++
        String.intercalate ", " (names.map (·.spelling)))
  else if s.take 2 = ['-', 'h'] then .ok (.short (some (s.drop 2)))
  else .ok other

/-- Tell what a word before a divider is. -/
def classifyOne (word : String) : Except String Word :=
  let s := word.toList
  if s.head? != some '-' then .ok (.plain word)
  else
    match OptionName.ofSpelling? s with
    | some name => .ok (named s name none)
    | none =>
      if s.length = 1 then .ok (.plain word)
      else
        match splitValue s with
        | (spelled, some value) =>
          match OptionName.ofSpelling? spelled with
          | some name => .ok (named spelled name (some value))
          | none => approximate s
        | (_, none) => approximate s

/-- Tell what the words of a command line are. -/
def classify : List String → Except String (List Word)
  | [] => .ok []
  | word :: rest =>
    if word = "--" then .ok (.divider :: rest.map .plain)
    else do
      let first ← classifyOne word
      return first :: (← classify rest)

/-! ## Arguments -/

/-- The value of an option. -/
inductive OptionValue (α : Type) where
  | given (a : α)
  /-- A double hyphen stands in the place of the value. -/
  | withheld
  deriving DecidableEq, Repr

/-- Put a value to use. -/
def OptionValue.map {α β : Type} (f : α → β) : OptionValue α → OptionValue β
  | .given a => .given (f a)
  | .withheld => .withheld

/-- What a user asks for. -/
structure Arguments where
  urls : List String
  destination : OptionValue Path
  force : Bool
  algorithm : OptionValue String
  /-- The digest that the only file must have. -/
  checksum : Option (OptionValue String)
  manifest : Bool
  deriving DecidableEq, Repr

/-- What a command line amounts to. -/
inductive Request where
  | run (arguments : Arguments)
  | help
  | refused (message : String)
  deriving DecidableEq, Repr

/-- The arguments while they are collected. -/
structure Collected where
  arguments : Arguments
  /-- The plain words and dividers since the last option, latest first. -/
  waiting : List Word
  /-- The words that cannot be taken, in order. -/
  extras : List String
  deriving DecidableEq, Repr

namespace Collected

/-- The text of a waiting word. -/
def wordText : Word → String
  | .plain s => s
  | _ => "--"

/-- Take the waiting words as the URLs, unless there are some already; a divider alone is none. -/
def settle (c : Collected) : Collected :=
  let words := c.waiting.reverse
  let isUrls := c.arguments.urls.isEmpty && words.any (· ≠ .divider)
  if isUrls then
    { c with
      arguments := { c.arguments with urls := (words.filter (· ≠ .divider)).map wordText }
      waiting := [] }
  else { c with extras := c.extras ++ words.map wordText, waiting := [] }

/-- Set an option to a value. -/
def set (c : Collected) (name : OptionName) (value : OptionValue String) : Collected :=
  let a := c.arguments
  { c with
    arguments :=
      match name with
      | .dest => { a with destination := value.map .ofText }
      | .algorithm => { a with algorithm := value }
      | .checksum => { a with checksum := some value }
      | .force => { a with force := true }
      | .manifest => { a with manifest := true }
      | .help => a }

/-- Give an option that takes no value. -/
def turnOn (c : Collected) (name : OptionName) : Collected := c.set name .withheld

end Collected

/-- The value after an equals sign. -/
def attachedValue (s : List Char) : OptionValue String :=
  if s = ['-', '-'] then .withheld else .given (String.ofList s)

/-- Why a command line is not run. -/
abbrev Stop := Request

/-- Refuse the value of an option that takes none. -/
def ignoredValue (name : OptionName) (value : List Char) : Stop :=
  .refused (s!"argument {name.spellings}: ignored explicit argument " ++
    quoted (String.ofList value))

/-- Collect the arguments from words. -/
def collect (c : Collected) : List Word → Except Stop Collected
  | [] => .ok c.settle
  | .plain s :: rest => collect { c with waiting := .plain s :: c.waiting } rest
  | .divider :: rest => collect { c with waiting := .divider :: c.waiting } rest
  | .unknown s :: rest =>
    let c := c.settle
    collect { c with extras := c.extras ++ [s] } rest
  | .short value :: _ =>
    match value with
    | none => .error .help
    | some letters =>
      let others := letters.dropWhile (· == 'h')
      if others.isEmpty && !letters.isEmpty then .error .help
      else .error (ignoredValue .help others)
  | .long name (some value) :: rest =>
    if name.takesValue then collect (c.settle.set name (attachedValue value)) rest
    else .error (ignoredValue name value)
  | .long name none :: .plain value :: rest =>
    if name.takesValue then collect (c.settle.set name (.given value)) rest
    else if name = .help then .error .help
    else collect { c.settle.turnOn name with waiting := [.plain value] } rest
  | .long name none :: rest =>
    if name.takesValue then
      .error (.refused s!"argument {name.spellings}: expected one argument")
    else if name = .help then .error .help
    else collect (c.settle.turnOn name) rest

/-- The arguments before any word is read. -/
def initial (settings : Settings) : Collected where
  arguments := {
    urls := [], destination := .given settings.destination, force := false
    algorithm := .given settings.algorithm, checksum := none, manifest := false }
  waiting := []
  extras := []

/-- The digits of the checksum, unless there are none. -/
def Arguments.checksumDigits? (a : Arguments) : Option String :=
  match a.checksum with
  | some (.given digits) => if digits.isEmpty then none else some digits
  | _ => none

/-- Whether a checksum is given for several files. -/
def isChecksumMisplaced (a : Arguments) : Bool :=
  a.checksumDigits?.isSome && a.urls.length != 1

/-- The request of arguments that were collected to the end. -/
def Collected.request (c : Collected) : Request :=
  if c.arguments.urls.isEmpty then .refused "the following arguments are required: URL"
  else if !c.extras.isEmpty then
    .refused ("unrecognized arguments: " ++ String.intercalate " " c.extras)
  else if isChecksumMisplaced c.arguments then .refused "--checksum requires exactly one URL"
  else .run c.arguments

/-- Read a command line. -/
def parse (settings : Settings) (words : List String) : Request :=
  match classify words with
  | .error message => .refused message
  | .ok words =>
    match collect (initial settings) words with
    | .error stop => stop
    | .ok c => c.request

end SafeFetch.CommandLine
