import SafeFetch.Text.Blank

/-!
# Punycode

Texts written in ASCII: the ASCII characters first, then a minus sign, then numbers that say which
characters are to be inserted where. The numbers have digits of varying weight whose thresholds
adapt to the numbers seen so far.
-/

namespace SafeFetch.Charset.Punycode

open SafeFetch.Text

/-- The bias before the first number. -/
def initialBias : Nat := 72

/-- The first code point that is inserted. -/
def firstCodePoint : Nat := 0x80

/-- The threshold of the digit at position `j` of a number. -/
def threshold (bias j : Nat) : Nat := max 1 (min 26 (36 * (j + 1) - bias))

/-- Divide a difference down to the last stage of adaptation, counting the divisions by 36. -/
def settle (delta divisions : Nat) : Nat × Nat :=
  if 455 < delta then settle (delta / 35) (divisions + 36) else (delta, divisions)
termination_by delta
decreasing_by omega

/-- The bias after a number, given the count of characters it leaves. -/
def adapt (delta : Nat) (isFirst : Bool) (count : Nat) : Nat :=
  let delta := if isFirst then delta / 700 else delta / 2
  let (delta, divisions) := settle (delta + delta / count) 0
  divisions + 36 * delta / (delta + 38)

/-- The value of a digit in either letter case. -/
def digitValue? (c : Char) : Option Nat :=
  if 'a' ≤ c ∧ c ≤ 'z' then some (c.toNat - 'a'.toNat)
  else if 'A' ≤ c ∧ c ≤ 'Z' then some (c.toNat - 'A'.toNat)
  else if '0' ≤ c ∧ c ≤ '9' then some (c.toNat - '0'.toNat + 26)
  else none

/-- The digit of a value below thirty-six. -/
def digit (n : Nat) : Char :=
  if n < 26 then Char.ofNat ('a'.toNat + n) else Char.ofNat ('0'.toNat + (n - 26))

/-- Read one number from its digit at position `j` on. -/
def number? (bias j weight sum : Nat) : List Char → Option (Nat × List Char)
  | [] => none
  | c :: rest =>
    match digitValue? c with
    | none => none
    | some value =>
      let sum := sum + value * weight
      let t := threshold bias j
      if value < t then some (sum, rest)
      else number? bias (j + 1) (weight * (36 - t)) sum rest

/-- Reading a number takes at least one digit. -/
theorem number?_length {bias j weight sum : Nat} {s rest : List Char} {n : Nat}
    (h : number? bias j weight sum s = some (n, rest)) : rest.length < s.length := by
  induction s generalizing j weight sum with
  | nil => simp [number?] at h
  | cons c s ih =>
    simp only [number?] at h
    split at h
    · simp at h
    · split at h
      · simp only [Option.some.injEq, Prod.mk.injEq] at h
        simp [h.2]
      · have := ih h
        simp only [List.length_cons]
        omega

/-- The last code point. -/
def lastCodePoint : Nat := 0x10FFFF

/-- Insert the code points that the numbers of `s` call for, from the place after `position` on. -/
def insertAll? (bias code position : Nat) (isFirst : Bool) (text : List Nat) (s : List Char) :
    Option (List Nat) :=
  if s.isEmpty then some text
  else
    match _h : number? bias 0 1 0 s with
    | none => none
    | some (delta, rest) =>
      let count := text.length + 1
      let total := position + delta
      let code := code + total / count
      let place := total % count
      if code ≤ lastCodePoint then
        insertAll? (adapt delta isFirst count) code (place + 1) false (text.insertIdx place code)
          rest
      else none
termination_by s.length
decreasing_by exact number?_length _h

/-- Split at the last minus sign; without one everything is numbers. -/
def splitBase (s : List Char) : List Char × List Char :=
  let numbers := (s.reverse.takeWhile (· != '-')).reverse
  (s.take (s.length - numbers.length - 1), numbers)

/-- Read a text as code points, which need not be characters. -/
def decodeCodes? (s : List Char) : Option (List Nat) :=
  if s.all isAscii then
    let (base, numbers) := splitBase s
    insertAll? initialBias firstCodePoint 0 true (base.map Char.toNat) numbers
  else none

/-- Read a text. -/
def decode? (s : List Char) : Option (List Char) :=
  (decodeCodes? s).bind fun codes =>
    if codes.all Nat.isValidChar then some (codes.map Char.ofNat) else none

/-- Write one number from its digit at position `j` on, with `fuel` digits at most. -/
def writeNumber (bias : Nat) : (fuel j n : Nat) → List Char
  | 0, _, n => [digit (n % 36)]
  | fuel + 1, j, n =>
    let t := threshold bias j
    if n < t then [digit n]
    else digit (t + (n - t) % (36 - t)) :: writeNumber bias fuel (j + 1) ((n - t) / (36 - t))

/-- What the writer knows between two characters of one pass. -/
structure Cursor where
  delta : Nat
  bias : Nat
  isFirst : Bool
  handled : Nat
  written : List Char

/-- Write the insertions of every `code` in `text`, the smaller ones being there already. -/
def writePass (code : Nat) (text : List Char) (cursor : Cursor) : Cursor :=
  text.foldl
    (fun cursor c =>
      if c.toNat < code then { cursor with delta := cursor.delta + 1 }
      else if c.toNat = code then
        { delta := 0
          bias := adapt cursor.delta cursor.isFirst (cursor.handled + 1)
          isFirst := false
          handled := cursor.handled + 1
          written := cursor.written ++ writeNumber cursor.bias cursor.delta 0 cursor.delta }
      else cursor)
    cursor

/-- Write the insertions of the code points `codes`, which ascend, after those below `code`. -/
def writePasses (text : List Char) : (codes : List Nat) → (code : Nat) → Cursor → List Char
  | [], _, cursor => cursor.written
  | next :: codes, code, cursor =>
    let cursor := { cursor with delta := cursor.delta + (next - code) * (cursor.handled + 1) }
    let cursor := writePass next text cursor
    writePasses text codes (next + 1) { cursor with delta := cursor.delta + 1 }

/-- The code points of `text` beyond ASCII, ascending, each once. -/
def insertedCodes (text : List Char) : List Nat :=
  (((text.map Char.toNat).filter (firstCodePoint ≤ ·)).mergeSort).eraseDups

/-- Write a text. -/
def encode (text : List Char) : List Char :=
  let base := text.filter isAscii
  let start := if base.isEmpty then [] else base ++ ['-']
  start ++ writePasses text (insertedCodes text) firstCodePoint
    { delta := 0, bias := initialBias, isFirst := true, handled := base.length, written := [] }

end SafeFetch.Charset.Punycode
