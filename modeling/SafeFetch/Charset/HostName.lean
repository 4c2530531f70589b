import SafeFetch.Charset.Prepared
import SafeFetch.Charset.Punycode

/-!
# Host names as texts

The written form of host names with letters beyond ASCII, used as a character set: a label behind a
mark is written in Punycode, every other label stands for itself. A label behind a mark must be the
written form of what it reads as, letter case in its ASCII part aside.
-/

namespace SafeFetch.Charset.HostName

open SafeFetch.Text

/-- The mark of a label that is written in Punycode. -/
def mark : List Char := ['x', 'n', '-', '-']

/-- The most characters of a written label. -/
def maxLabelLength : Nat := 63

/-- The written form of a prepared label with letters beyond ASCII, if it has one. -/
def write? (label : List Char) : Option (List Char) :=
  let written := mark ++ Punycode.encode label
  if label.all isAscii || mark.isPrefixOf label || maxLabelLength < written.length then none
  else some written

/-- Read a label. -/
def decodeLabel? (label : List Char) : Option (List Char) :=
  if mark.isPrefixOf label then
    (Punycode.decode? (label.drop mark.length)).bind fun read =>
      let small := read.map lowerAscii
      if isPrepared (small.map Char.toNat) && write? small = some (label.map lowerAscii) then
        some read
      else none
  else some label

/-- Read a host name, label by label. -/
def decode? (name : List Char) : Option (List Char) :=
  ((splitAll '.' name).mapM decodeLabel?).map (List.intercalate ['.'])

end SafeFetch.Charset.HostName
