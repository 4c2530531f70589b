import SafeFetch.Text.Hex
import SafeFetch.Text.Ranges

/-!
# Composed names of characters

The names of the Korean syllables, which spell their sounds out, and of the ideographs, which give
their code points.
-/

namespace SafeFetch.Text.CharacterName

/-- What a Korean syllable may begin with, in order. -/
def leadingSounds : List String :=
  [
    "G", "GG", "N", "D", "DD", "R", "M", "B", "BB", "S", "SS", "", "J", "JJ", "C", "K", "T", "P",
    "H"]

/-- The vowels of Korean syllables, in order. -/
def vowels : List String :=
  [
    "A", "AE", "YA", "YAE", "EO", "E", "YEO", "YE", "O", "WA", "WAE", "OE", "YO", "U", "WEO", "WE",
    "WI", "YU", "EU", "YI", "I"]

/-- What a Korean syllable may end with, in order. -/
def trailingSounds : List String :=
  [
    "", "G", "GG", "GS", "N", "NJ", "NH", "D", "L", "LG", "LM", "LB", "LS", "LT", "LP", "LH", "M",
    "B", "BS", "S", "SS", "NG", "J", "C", "K", "T", "P", "H"]

/-- The places of the sounds that a text begins with, and the rest of the text after each. -/
def sounds (all : List String) (s : List Char) : List (Nat × List Char) :=
  all.zipIdx.filterMap fun (sound, place) =>
    if sound.toList.isPrefixOf s then some (place, s.drop sound.length) else none

/-- The code point of the Korean syllable that is spelt out. -/
def syllable? (s : List Char) : Option Nat :=
  (sounds leadingSounds s).findSome? fun (leading, s) =>
    (sounds vowels s).findSome? fun (vowel, s) =>
      (trailingSounds.findIdx? (·.toList == s)).map fun trailing =>
        0xac00 + (leading * vowels.length + vowel) * trailingSounds.length + trailing

/-- The ranges of the ideographs, both ends included. -/
def ideographs : Ranges :=
  #[
    (0x3400, 0x4dbf), (0x4e00, 0x9fff), (0x20000, 0x2a6df), (0x2a700, 0x2b738), (0x2b740, 0x2b81d),
    (0x2b820, 0x2cea1), (0x2ceb0, 0x2ebe0), (0x30000, 0x3134a)]

/-- The code point of the ideograph with four or five hexadecimal digits, in capitals. -/
def ideograph? (digits : List Char) : Option Nat :=
  let isRead := (digits.length == 4 || digits.length == 5) && digits.all fun c => c < 'a'
  let code := digits.foldlM (fun n c => (Hex.digitValue? c).map (16 * n + ·)) 0
  if isRead then code.filter ideographs.holds else none

end SafeFetch.Text.CharacterName
