import SafeFetch.CommandLine.Arguments
import SafeFetch.CommandLine.Template
import SafeFetch.Text.Wrap

/-!
# Help on the command line

The usage and the help, laid out for a terminal of eighty columns: the options in one column and
what they do in another.
-/

namespace SafeFetch.CommandLine

open SafeFetch.Text

/-- The columns that text may take. -/
def textWidth : Nat := 78

/-- The column where explanations begin. -/
def helpColumn : Nat := 24

/-- The indentation of the list of options. -/
def listIndent : Nat := 2

/-- Lines as a text, each ended. -/
def unlines (lines : List (List Char)) : List Char := lines.flatMap (· ++ ['\n'])

/-- Spaces. -/
def spaces (n : Nat) : List Char := List.replicate n ' '

/-- The options as the usage shows them. -/
def usageOptions : List String :=
  ["[-h]", "[--dest DEST]", "[--force]", "[--algorithm ALGORITHM]", "[--checksum CHECKSUM]",
    "[--manifest]"]

/-- The URLs as the usage shows them. -/
def usageUrls : List String := ["URL", "[URL ...]"]

/-- What the usage begins with. -/
def usageMark : List Char := "usage: ".toList

/-- How a program of a name is used. -/
def usage (program : String) : List Char :=
  let indent := usageMark.length + program.length + 1
  let options :=
    Wrap.fill textWidth (usageMark.length - 1) indent [] ((program :: usageOptions).map (·.toList))
  let urls := Wrap.fill textWidth (indent - 1) indent [] (usageUrls.map (·.toList))
  usageMark ++ List.intercalate ('\n' :: spaces indent) (options ++ urls) ++ ['\n']

/-- The lines on one option or argument. What does not fit into the first column gets a line of its
own. -/
def helpLines (header explanation : String) : List (List Char) :=
  let room := helpColumn - listIndent - 2
  let lines := Wrap.wrap (textWidth - helpColumn) (Wrap.squeeze explanation.toList)
  let header := header.toList
  let shown := lines.map (spaces helpColumn ++ ·)
  if header.length ≤ room then
    match shown with
    | [] => [spaces listIndent ++ header]
    | first :: rest =>
      (spaces listIndent ++ header ++
        spaces (room - header.length + 2) ++ first.drop helpColumn) :: rest
  else (spaces listIndent ++ header) :: shown

/-- A value of a kind that looks the same everywhere. -/
def plainValue (name kind text : String) : Template.Value :=
  { name, kind, text, literal := text, isZero := false }

/-- A value that is no value. -/
def noneValue (name : String) : Template.Value := plainValue name "NoneType" "None"

/-- A value that is a text. -/
def textValue (name text : String) : Template.Value :=
  { name, kind := "str", text, literal := quoted text, isZero := false }

/-- A value that is false. -/
def falseValue (name : String) : Template.Value :=
  { plainValue name "bool" "False" with isZero := true }

/-- The values that the explanation of an option may show. The address of the group that holds the
option stands for one that is not known. -/
def optionValues (program : String) (name : OptionName) (explanation : String)
    (default kind : Template.Value) : List Template.Value :=
  let spelling := name.spelling
  [
    plainValue "option_strings" "list" ("[" ++ quoted spelling ++ "]"),
    textValue "dest" (String.ofList (spelling.toList.drop 2)), noneValue "nargs",
    noneValue "const", default, kind, noneValue "choices", falseValue "required",
    textValue "help" explanation, noneValue "metavar",
    plainValue "container" "_ArgumentGroup"
      "<argparse._ArgumentGroup object at 0x7f0000000000>",
    textValue "prog" program]

/-- What the destination is for. -/
def explainDestination (program : String) (settings : Settings) : Except Template.Fault String :=
  let text := settings.destination.text
  let explanation := s!"Destination directory (default: {text})"
  let default : Template.Value :=
    { plainValue "default" "PosixPath" text with literal := "PosixPath(" ++ quoted text ++ ")" }
  Template.fill (optionValues program .dest explanation default (textValue "type" "Path"))
    explanation

/-- What the algorithm is for. -/
def explainAlgorithm (program : String) (settings : Settings) : Except Template.Fault String :=
  let explanation := s!"hashlib algorithm for file checksums (default: {settings.algorithm})"
  Template.fill
    (optionValues program .algorithm explanation (textValue "default" settings.algorithm)
      (noneValue "type"))
    explanation

/-- The options and what they do. What the settings say is read as a part of a template. -/
def explanations (program : String) (settings : Settings) :
    Except Template.Fault (List (String × String)) := do
  let destination ← explainDestination program settings
  let algorithm ← explainAlgorithm program settings
  return [
    ("-h, --help", "show this help message and exit"),
    ("--dest DEST", destination),
    ("--force", "Re-download even if files already exist"),
    ("--algorithm ALGORITHM", algorithm),
    ("--checksum CHECKSUM", "Expected hex digest; only valid with a single URL"),
    ("--manifest", "Write manifest.json with file hashes to the destination directory")]

/-- The help of a program of a name. -/
def help (program : String) (settings : Settings) : Except Template.Fault String := do
  let options ← explanations program settings
  return String.ofList
    (usage program ++
      unlines (
        [[], "Download files over HTTP.".toList, [], "positional arguments:".toList] ++
        helpLines "URL" "URL(s) to download" ++ [[], "options:".toList] ++
        options.flatMap fun (header, text) => helpLines header text))

/-- The report of a command line that cannot be used. -/
def complaint (program message : String) : String :=
  String.ofList (usage program) ++ s!"{program}: error: {message}\n"

end SafeFetch.CommandLine
