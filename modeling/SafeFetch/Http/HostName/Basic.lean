import SafeFetch.Charset.Punycode
import SafeFetch.Http.HostName.Label
import SafeFetch.Text.LetterCase

/-!
# International host names

A host name with letters beyond ASCII has a form in ASCII: its letters are made small, and every
label with other letters is written in Punycode behind a mark. Both ways, from the letters to the
ASCII form and back, the labels must keep the rules.
-/

namespace SafeFetch.Http.HostName

open SafeFetch.Text

/-- The signs that separate the labels of a host name. -/
def isSeparator (c : Char) : Bool :=
  c == '.' || c == '\u3002' || c == '\uFF0E' || c == '\uFF61'

/-- The most characters of a label in its ASCII form. -/
def maxLabelLength : Nat := 63

/-- The most characters of a host name in its ASCII form, without a point at the end. -/
def maxLength : Nat := 253

/-- The mark of a label that is written in Punycode. -/
def mark : List Char := ['x', 'n', '-', '-']

/-- The labels of a host name, and whether a separator follows the last one. -/
def labels (host : List Char) : List (List Char) × Bool :=
  let labels := splitAll '.' (host.map fun c => if isSeparator c then '.' else c)
  if labels.getLast? = some [] then (labels.dropLast, true) else (labels, false)

/-- Put labels together again. -/
def ofLabels (labels : List (List Char)) (isEnded : Bool) : List Char :=
  List.intercalate ['.'] labels ++ (if isEnded then ['.'] else [])

/-- Let a label pass that has no fault. -/
def checked (label : List Nat) : Except Fault (List Nat) :=
  match labelFault? label with
  | some fault => .error fault
  | none => .ok label

/-- Read a label in its ASCII form. -/
def readLabel (label : List Char) : Except Fault (List Nat) :=
  let label := label.map lowerAscii
  if mark.isPrefixOf label then
    let written := label.drop mark.length
    if written.isEmpty then .error .emptyPunycode
    else if written.getLast? = some '-' then .error .punycodeEndsInHyphen
    else
      match Charset.Punycode.decodeCodes? written with
      | none => .error .malformedPunycode
      | some label => checked label
  else checked (label.map Char.toNat)

/-- The ASCII form of a label. -/
def asciiLabel? (label : List Char) : Option (List Char) :=
  let isPlain := label.all isAscii
  let reading := if isPlain then readLabel label else checked (label.map Char.toNat)
  let written := if isPlain then label else mark ++ Charset.Punycode.encode label
  if reading.isOk && written.length ≤ maxLabelLength then some written else none

/-- The ASCII form of a host name. -/
def toAscii? (host : List Char) : Option (List Char) :=
  let (labels, isEnded) := labels (lower host)
  if labels.isEmpty then none
  else
    (labels.mapM asciiLabel?).bind fun written =>
      if (List.intercalate ['.'] written).length ≤ maxLength then some (ofLabels written isEnded)
      else none

/-- Read a host name in its ASCII form. -/
def ofAscii (host : List Char) : Except Fault (List Char) :=
  if maxLength + 1 < host.length then .error .tooLong
  else do
    let (labels, isEnded) := labels host
    let read ← labels.mapM readLabel
    return ofLabels (read.map (·.map Char.ofNat)) isEnded

end SafeFetch.Http.HostName
