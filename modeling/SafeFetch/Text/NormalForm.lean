import SafeFetch.Text.CombiningClass
import SafeFetch.Text.Composition

/-!
# Normal form

One text may be written in several ways: a letter and its marks, or one character for all of them.
The normal form is composed, with the marks of different classes in the order of their classes. A
text is a list of code points here, so that those which are no characters may be among them.
-/

namespace SafeFetch.Text.NormalForm

/-! ## Hangul -/

/-- The first syllable of Hangul, which has no last consonant. -/
def firstSyllable : Nat := 0xac00

/-- How many syllables Hangul has. -/
def syllableCount : Nat := 11172

/-- The first of the leading consonants. -/
def firstLead : Nat := 0x1100

/-- How many leading consonants there are. -/
def leadCount : Nat := 19

/-- The first of the vowels. -/
def firstVowel : Nat := 0x1161

/-- How many vowels there are. -/
def vowelCount : Nat := 21

/-- The code point before the first of the last consonants, which stands for none. -/
def noTail : Nat := 0x11a7

/-- How many ends a syllable may have, none among them. -/
def tailCount : Nat := 28

/-- The letters of a syllable. -/
def splitSyllable? (n : Nat) : Option (List Nat) :=
  if firstSyllable ≤ n ∧ n < firstSyllable + syllableCount then
    let index := n - firstSyllable
    let lead := firstLead + index / (vowelCount * tailCount)
    let vowel := firstVowel + index % (vowelCount * tailCount) / tailCount
    if index % tailCount = 0 then some [lead, vowel]
    else some [lead, vowel, noTail + index % tailCount]
  else none

/-- The syllable of two letters, or of a syllable without a last consonant and one. -/
def joinSyllable? (a b : Nat) : Option Nat :=
  if firstLead ≤ a ∧ a < firstLead + leadCount ∧ firstVowel ≤ b ∧ b < firstVowel + vowelCount then
    some (firstSyllable + ((a - firstLead) * vowelCount + (b - firstVowel)) * tailCount)
  else if firstSyllable ≤ a ∧ a < firstSyllable + syllableCount ∧
      (a - firstSyllable) % tailCount = 0 ∧ noTail < b ∧ b < noTail + tailCount then
    some (a + (b - noTail))
  else none

/-! ## Pairs -/

/-- The pair of code points that a character is composed of. -/
def split? (n : Nat) : Option (Nat × Nat) :=
  compositions.findSome? fun (mark, bases, composed) =>
    (composed.findIdx? (· == n)).bind fun i => bases[i]?.map (·, mark)

/-- The character that two code points compose. -/
def join? (a b : Nat) : Option Nat :=
  match joinSyllable? a b with
  | some n => some n
  | none =>
    (compositions.find? fun (mark, _, _) => mark == b).bind fun (_, bases, composed) =>
      (bases.findIdx? (· == a)).bind fun i => composed[i]?

/-! ## Decomposing and composing -/

/-- How often a character can be split: it carries no more than three marks. -/
def maxSplits : Nat := 4

/-- The letters and marks of a code point, found by splitting at most `fuel` times. -/
def decomposeOne : (fuel : Nat) → Nat → List Nat
  | 0, n => [n]
  | fuel + 1, n =>
    match splitSyllable? n with
    | some letters => letters
    | none =>
      match split? n with
      | some (base, mark) => decomposeOne fuel base ++ [mark]
      | none => [n]

/-- Put a mark into its place behind the marks of the same and of lower classes; everything else
ends the marks. The text is given backwards. -/
def place (n : Nat) : List Nat → List Nat
  | [] => [n]
  | last :: earlier =>
    if combiningClass n != 0 && combiningClass n < combiningClass last then
      last :: place n earlier
    else n :: last :: earlier

/-- The letters and marks of a text, the marks in the order of their classes. -/
def decompose (text : List Nat) : List Nat :=
  ((text.flatMap (decomposeOne maxSplits)).foldl (fun done n => place n done) []).reverse

/-- A text that is being composed. -/
structure Composing where
  /-- What stands before the current letter, backwards. -/
  before : List Nat
  /-- The letter that marks can be joined to. -/
  letter : Option Nat
  /-- The marks behind the letter that were not joined to it, backwards. -/
  marks : List Nat

namespace Composing

/-- The text, backwards. -/
def backwards (c : Composing) : List Nat := c.marks ++ c.letter.toList ++ c.before

/-- Whether the marks behind the letter keep a code point away from it: the last one does if it is
of the same or of a higher class. -/
def isBlocked (c : Composing) (n : Nat) : Bool :=
  c.marks.head?.any fun last => combiningClass n ≤ combiningClass last

/-- Add a code point: joined to the letter, as the next letter, or behind the marks. -/
def add (c : Composing) (n : Nat) : Composing :=
  match c.letter.bind fun letter => if c.isBlocked n then none else join? letter n with
  | some joined => { c with letter := some joined }
  | none =>
    if combiningClass n = 0 then { before := c.backwards, letter := some n, marks := [] }
    else { c with marks := n :: c.marks }

end Composing

/-- Take a text apart and compose it again. -/
def recompose (text : List Nat) : List Nat :=
  ((decompose text).foldl Composing.add
    { before := [], letter := none, marks := [] }).backwards.reverse

/-- Whether a text is in normal form. -/
def isNormal (text : List Nat) : Bool :=
  !text.any replacedCharacters.holds && recompose text == text

end SafeFetch.Text.NormalForm
