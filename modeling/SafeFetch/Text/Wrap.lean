import SafeFetch.Text.Blank
import SafeFetch.Text.Digit

/-!
# Paragraphs

Wrapping of a paragraph into lines of a width. A line may end after a word, after the hyphen of a
compound word, and before and after a dash of two hyphens or more; only a word that is longer than a
line is cut.
-/

namespace SafeFetch.Text.Wrap

/-! ## Where a line may end -/

/-- Whether `c` may stand in a word; every character beyond ASCII that is not blank may. -/
def isWordChar (c : Char) : Bool :=
  ('a' ≤ c && c ≤ 'z') || ('A' ≤ c && c ≤ 'Z') || ('0' ≤ c && c ≤ '9') || c == '_' ||
    (!isAscii c && !isBlank c)

/-- Whether `c` is a letter, in a wide sense. -/
def isLetter (c : Char) : Bool := isWordChar c && (digitValue? c).isNone

/-- Whether a dash may follow `c`. -/
def isBeforeDash (c : Char) : Bool := isWordChar c || "!\"'&.,?".toList.contains c

/-- Whether a dash that leads to a word is in front. -/
def startsDash (s : List Char) : Bool :=
  2 ≤ (s.takeWhile (· == '-')).length && ((s.dropWhile (· == '-')).head?.map isWordChar).getD false

/-- Whether the end of a compound's first part was read, latest character first. -/
def endsPart : List Char → Bool
  | a :: '-' :: b :: _ => isLetter a && isLetter b
  | a :: b :: _ => isLetter a && isLetter b
  | _ => false

/-- Whether a compound's second part is in front. -/
def startsPart : List Char → Bool
  | a :: '-' :: b :: _ => isLetter a && isLetter b
  | a :: b :: _ => isLetter a && isLetter b
  | _ => false

/-- Whether a line may end between `c` and `rest`, where the characters `seen` came before `c`,
latest first, and those of `piece` since the last such place. -/
def mayEnd (inDash : Bool) (seen piece : List Char) (c : Char) (rest : List Char) : Bool :=
  if inDash then rest.head? != some '-'
  else
    (isBeforeDash c && startsDash rest) ||
      (c == '-' && !piece.isEmpty && endsPart seen && startsPart rest)

/-- Cut a word wherever a line may end. -/
def cutWord (inDash : Bool) (seen piece : List Char) : List Char → List (List Char)
  | [] => if piece.isEmpty then [] else [piece.reverse]
  | c :: rest =>
    let inDash :=
      if piece.isEmpty then (seen.head?.map isBeforeDash).getD false && startsDash (c :: rest)
      else inDash
    if mayEnd inDash seen piece c rest then
      (c :: piece).reverse :: cutWord false (c :: seen) [] rest
    else cutWord inDash (c :: seen) (c :: piece) rest

/-- The pieces of a paragraph; spaces are pieces of their own. -/
def pieces (s : List Char) : List (List Char) :=
  List.intercalate [[' ']] ((splitAll ' ' s).map (cutWord false [] []))

/-! ## Lines -/

/-- Lines that are being filled. -/
structure Lines where
  /-- The lines that are full, latest first. -/
  full : List (List Char)
  /-- The pieces of the line at the end, latest first. -/
  current : List (List Char)

namespace Lines

/-- The length of the line at the end. -/
def currentLength (l : Lines) : Nat := l.current.flatten.length

/-- Put a piece on the line at the end. -/
def push (l : Lines) (piece : List Char) : Lines := { l with current := piece :: l.current }

/-- End the line; blank space at its end is left out, and so is an empty line. -/
def close (l : Lines) : Lines :=
  let kept :=
    match l.current with
    | [] => []
    | last :: others => if last.all isBlank then others else l.current
  { full := if kept.isEmpty then l.full else kept.reverse.flatten :: l.full, current := [] }

end Lines

/-- Where a word is cut that is longer than the space: after its last hyphen there, unless nothing
but hyphens is in front. -/
def cutPoint (space : Nat) (word : List Char) : Nat :=
  let before := word.take space
  let part := dropEndWhile (· != '-') before
  if part.dropLast.any (· != '-') then part.length else space

/-- Add a piece to the lines of a width. A piece longer than a line is cut at most `cuts` times. -/
def addPiece (width : Nat) : (cuts : Nat) → Lines → List Char → Lines
  | 0, lines, piece => lines.push piece
  | cuts + 1, lines, piece =>
    if lines.current.isEmpty && !lines.full.isEmpty && piece.all isBlank then lines
    else if lines.currentLength + piece.length ≤ width then lines.push piece
    else if width < piece.length then
      let n := cutPoint (width - lines.currentLength) piece
      addPiece width cuts ((lines.push (piece.take n)).close) (piece.drop n)
    else addPiece width cuts lines.close piece

/-- Wrap a paragraph into lines of a width. A piece needs no more cuts than it has characters,
besides one that ends the line before. -/
def wrap (width : Nat) (s : List Char) : List (List Char) :=
  let lines := (pieces s).foldl
    (fun lines piece => addPiece width (piece.length + 2) lines piece) { full := [], current := [] }
  lines.close.full.reverse

/-- Put single spaces in place of the white space of ASCII between words, and none around. -/
def squeeze (s : List Char) : List Char :=
  trim (s.foldr
    (fun c done =>
      if isAsciiBlank c then (if done.head? = some ' ' then done else ' ' :: done) else c :: done)
    [])

/-- Fill lines with parts that stay whole and are separated by spaces; `used` columns of the first
line and `indent` columns of the others are taken. -/
def fill (width used indent : Nat) : List (List Char) → List (List Char) → List (List Char)
  | line, [] => if line.isEmpty then [] else [List.intercalate [' '] line.reverse]
  | line, part :: rest =>
    if width < used + 1 + part.length && !line.isEmpty then
      List.intercalate [' '] line.reverse :: fill width (indent + part.length) indent [part] rest
    else fill width (used + 1 + part.length) indent (part :: line) rest

end SafeFetch.Text.Wrap
