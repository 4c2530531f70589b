import SafeFetch.Text.CharacterName.Alias
import SafeFetch.Text.CharacterName.Ancient
import SafeFetch.Text.CharacterName.Composed
import SafeFetch.Text.CharacterName.Eastern
import SafeFetch.Text.CharacterName.Inscriptions
import SafeFetch.Text.CharacterName.Music
import SafeFetch.Text.CharacterName.Newer
import SafeFetch.Text.CharacterName.Pictures
import SafeFetch.Text.CharacterName.Regional
import SafeFetch.Text.CharacterName.Series
import SafeFetch.Text.CharacterName.Shapes
import SafeFetch.Text.CharacterName.Signs
import SafeFetch.Text.CharacterName.Southern
import SafeFetch.Text.CharacterName.Western

/-!
# Characters by name

The character of a name. Capitals and small letters make no difference, except in the composed names
of syllables and ideographs, which are written in capitals.
-/

namespace SafeFetch.Text.CharacterName

/-- All tables of names, in the order of their code points. -/
def tables : List (List Run) :=
  [western, southern, signs, shapes, eastern, newer, ancient, regional, inscriptions, music,
    pictures]

/-- The code point that has a name besides its own. -/
def ofAlias? (name : List Char) : Option Nat :=
  (aliases.find? fun (_, names) => (splitAll ';' names.toList).contains name).map (·.1)

/-- The code point of a name in capitals that is no composed name. -/
def ofCapitals? (name : List Char) : Option Nat :=
  let words := splitAll ' ' name
  tables.findSome? (·.findSome? (·.find? words)) <|>
    series.findSome? (·.find? name) <|> ofAlias? name

/-- What the names of Korean syllables begin with. -/
def syllableMark : List Char := "HANGUL SYLLABLE ".toList

/-- What the names of ideographs begin with. -/
def ideographMark : List Char := "CJK UNIFIED IDEOGRAPH-".toList

/-- The character of a name. -/
def find? (name : List Char) : Option Char :=
  let code :=
    if syllableMark.isPrefixOf name then syllable? (name.drop syllableMark.length)
    else if ideographMark.isPrefixOf name then ideograph? (name.drop ideographMark.length)
    else ofCapitals? (name.map Char.toUpper)
  code.map Char.ofNat

end SafeFetch.Text.CharacterName
