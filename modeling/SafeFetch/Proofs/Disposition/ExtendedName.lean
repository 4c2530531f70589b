import SafeFetch.Disposition.ExtendedValue
import SafeFetch.Proofs.Charset
import SafeFetch.Proofs.Disposition.DeclaredName
import SafeFetch.Proofs.Disposition.Grammar
import SafeFetch.Proofs.Disposition.ParameterSet
import SafeFetch.Proofs.Percent
import SafeFetch.Proofs.Text

/-!
# Extended file names

A file name that is written as an extended value is read as it was. Its bytes in UTF-8 are spelled
one by one, each as the character it stands for or as a percent sign and two digits; in front of them
stand the label of the character set and a language, each with a quote behind it. Reading finds the
label and the bytes again, and the name they give goes before every other.

## Main definitions

* `EscapedByte`: a byte as it may be written in an extended value;
* `ExtendedSpelling`: an extended value in UTF-8, with the token it is.

## Main results

* `bytes_flatMap_chars`: escaped bytes are read back;
* `decodeExtended_chars`: so is an extended value;
* `fileName_of_extended`: an extended name goes before every other;
* `fileNameOf_of_extended`: the extended name is the file name in a disposition.
-/

namespace SafeFetch

open SafeFetch.Text

namespace Disposition

variable {ps : List Parameter} {c : Char} {label text value : List Char}

/-! ## Characters -/

/-- A character that stands for itself in an extended value: a letter or digit of ASCII, or one of
a few signs. -/
def IsAttrChar (c : Char) : Prop := c.isAlphanum ∨ c ∈ "!#$&+-.^_`|~".toList

instance : DecidablePred IsAttrChar := fun c =>
  inferInstanceAs (Decidable (c.isAlphanum ∨ c ∈ "!#$&+-.^_`|~".toList))

/-- A character of a language tag. -/
def IsLanguageChar (c : Char) : Prop := c.isAlphanum ∨ c = '-'

instance : DecidablePred IsLanguageChar := fun c =>
  inferInstanceAs (Decidable (c.isAlphanum ∨ c = '-'))

/-- Letters and digits are characters of ASCII. -/
theorem toNat_lt_of_isAlphanum (alphanum : c.isAlphanum) : c.toNat < 128 := by
  have upTo {last : Char} (bounded : c.val ≤ last.val) (ascii : last.toNat < 128) :
      c.toNat < 128 :=
    Nat.lt_of_le_of_lt bounded ascii
  rcases Bool.or_eq_true_iff.mp alphanum with letter | digit
  · rcases Bool.or_eq_true_iff.mp letter with capital | small
    · exact upTo (of_decide_eq_true capital).2 (by decide)
    · exact upTo (of_decide_eq_true (Bool.and_eq_true_iff.mp small).2) (by decide)
  · exact upTo (of_decide_eq_true (Bool.and_eq_true_iff.mp digit).2) (by decide)

/-- The characters that stand for themselves belong to tokens and begin no escape. -/
theorem IsAttrChar.spec (isAttr : IsAttrChar c) :
    c.toNat < 128 ∧ IsTokenChar c ∧ c ≠ '%' := by
  have small : ∀ n < 128, IsAttrChar (Char.ofNat n) →
      IsTokenChar (Char.ofNat n) ∧ Char.ofNat n ≠ '%' := by decide +kernel
  have ascii : c.toNat < 128 := by
    rcases isAttr with alphanum | sign
    · exact toNat_lt_of_isAlphanum alphanum
    · have signs : ∀ c ∈ "!#$&+-.^_`|~".toList, c.toNat < 128 :=
        List.all_iff_forall_prop.mp (by decide)
      exact signs c sign
  have here := small c.toNat ascii
  rw [Char.ofNat_toNat] at here
  exact ⟨ascii, here isAttr⟩

/-- The characters of a language tag belong to tokens and are no quotes. -/
theorem IsLanguageChar.spec (isLanguage : IsLanguageChar c) : IsTokenChar c ∧ c ≠ '\'' := by
  have small : ∀ n < 128, IsLanguageChar (Char.ofNat n) →
      IsTokenChar (Char.ofNat n) ∧ Char.ofNat n ≠ '\'' := by decide +kernel
  have ascii : c.toNat < 128 := by
    rcases isLanguage with alphanum | rfl
    · exact toNat_lt_of_isAlphanum alphanum
    · decide
  have here := small c.toNat ascii
  rw [Char.ofNat_toNat] at here
  exact here isLanguage

/-- A character belongs to tokens if its small letter does. -/
theorem isTokenChar_of_lowerAscii (isToken : IsTokenChar (lowerAscii c)) : IsTokenChar c :=
  forall_of_ascii (p := fun c small => IsTokenChar small → IsTokenChar c) (by decide +kernel)
    (fun _ _ => id) c isToken

/-! ## Escaped bytes -/

/-- A byte as it is written in an extended value. -/
inductive EscapedByte where
  | plain (c : Char) (isAttr : IsAttrChar c)
  /-- Two digits behind a percent sign, each in either letter case. -/
  | escaped (byte : UInt8) (high low : Char) (isPair : [high, low].map lowerAscii = Hex.pair byte)

namespace EscapedByte

/-- A byte as it is written. -/
def chars : EscapedByte → List Char
  | .plain c _ => [c]
  | .escaped _ high low _ => ['%', high, low]

/-- The byte that is written. -/
def byte : EscapedByte → UInt8
  | .plain c _ => UInt8.ofNat c.toNat
  | .escaped byte _ _ _ => byte

/-- A byte is written in characters of tokens. -/
theorem isTokenChar_of_mem (item : EscapedByte) (isIn : c ∈ item.chars) : IsTokenChar c := by
  cases item with
  | plain c isAttr =>
    obtain rfl := List.mem_singleton.mp isIn
    exact isAttr.spec.2.1
  | escaped byte high low isPair =>
    obtain ⟨isHigh, isLow⟩ := Hex.digits_of_isPair isPair
    have digits : ∀ n < 16, IsTokenChar (Hex.digit n) := by decide +kernel
    have bound := byte.toNat_lt
    simp only [chars, List.mem_cons, List.not_mem_nil, or_false] at isIn
    rcases isIn with rfl | rfl | rfl
    · decide
    · exact isTokenChar_of_lowerAscii (isHigh ▸ digits _ (by omega))
    · exact isTokenChar_of_lowerAscii (isLow ▸ digits _ (by omega))

/-- The byte as it may be written among percent escapes, where more characters stand for
themselves. -/
def toWritten : EscapedByte → Percent.WrittenByte
  | .plain c isAttr => .plain c isAttr.spec.1 isAttr.spec.2.2
  | .escaped byte high low isPair => .escaped byte high low isPair

theorem chars_toWritten (item : EscapedByte) : item.toWritten.chars = item.chars := by
  cases item <;> rfl

theorem byte_toWritten (item : EscapedByte) : item.toWritten.byte = item.byte := by
  cases item <;> rfl

end EscapedByte

/-- Escaped bytes are read as they were. -/
theorem bytes_flatMap_chars (items : List EscapedByte) :
    Percent.bytes (items.flatMap EscapedByte.chars) = items.map EscapedByte.byte := by
  have read := Percent.bytes_flatMap_chars (items.map EscapedByte.toWritten)
  simpa only [List.flatMap_map, List.map_map, Function.comp_def, EscapedByte.chars_toWritten,
    EscapedByte.byte_toWritten] using read

/-! ## Extended values -/

/-- The label and the text of an extended value are found by its first two quotes. -/
theorem labelAndText?_append {label language : List Char} (unquoted : '\'' ∉ label)
    (unquoted' : '\'' ∉ language) (text : List Char) :
    labelAndText? (label ++ '\'' :: (language ++ '\'' :: text)) = some (label, text) := by
  simp only [labelAndText?, cut?_append unquoted, cut?_append unquoted', Option.bind_some,
    Option.map_some]

/-- An extended value in UTF-8. -/
structure ExtendedSpelling where
  label : List Char
  isUtf8 : Charset.IsUtf8 label
  language : List Char
  isLanguage : ∀ c ∈ language, IsLanguageChar c
  items : List EscapedByte

namespace ExtendedSpelling

/-- An extended value as it is written. -/
def chars (e : ExtendedSpelling) : List Char :=
  e.label ++ '\'' :: (e.language ++ '\'' :: e.items.flatMap EscapedByte.chars)

/-- The bytes that are written. -/
def bytes (e : ExtendedSpelling) : List UInt8 := e.items.map EscapedByte.byte

variable (e : ExtendedSpelling)

/-- An extended value is a token. -/
def token : Token where
  chars := e.chars
  ne_nil := by simp [chars]
  areTokenChars := by
    intro c isIn
    simp only [chars, List.mem_append, List.mem_cons, List.mem_flatMap] at isIn
    -- A character of the label, of the language or of an escaped byte, or one of the two quotes.
    rcases isIn with inLabel | rfl | inLanguage | rfl | ⟨item, -, inItem⟩
    · have letters : ∀ c ∈ "utf-8".toList, IsTokenChar c :=
        List.all_iff_forall_prop.mp (by decide)
      exact isTokenChar_of_lowerAscii (letters _ (e.isUtf8.mem inLabel))
    · decide
    · exact (e.isLanguage c inLanguage).spec.1
    · decide
    · exact item.isTokenChar_of_mem inItem

/-- The label and the escaped bytes of an extended value are found by the quotes. -/
theorem labelAndText?_chars :
    labelAndText? e.chars = some (e.label, e.items.flatMap EscapedByte.chars) :=
  labelAndText?_append e.isUtf8.quoteFree (fun quote => (e.isLanguage _ quote).spec.2 rfl) _

end ExtendedSpelling

section

variable [Platform]

/-- Bytes in a character set are read in it under its label. -/
theorem decodeDeclared_of_declares {charset : Charset} (declares : Charset.Declares label charset)
    (silent : charset.decode? [] = some []) (bytes : List UInt8) :
    decodeDeclared label bytes = .ok (charset.decode? bytes) := by
  rw [decodeDeclared, declares.decodeLabelled silent]
  cases charset.decode? bytes <;> rfl

/-- An extended value is read as the text whose bytes it writes. -/
theorem decodeExtended_chars {e : ExtendedSpelling} (encodes : e.bytes = Utf8.encode text) :
    decodeExtended e.chars = .ok (some text) := by
  have bare : e.label.isEmpty = false := List.isEmpty_eq_false_iff.mpr e.isUtf8.ne_nil
  have bytes : Percent.bytes (e.items.flatMap EscapedByte.chars) = Utf8.encode text :=
    (bytes_flatMap_chars e.items).trans encodes
  simp only [decodeExtended, e.labelAndText?_chars, bare, bytes,
    decodeDeclared_of_declares e.isUtf8.declares rfl, Charset.decode?, Utf8.decode?_encode,
    Bool.false_eq_true, if_false]

/-- An extended name goes before every other. -/
theorem fileName_of_extended (found : get? ps extendedKey = some value)
    (decoded : decodeExtended value = .ok (some text)) (nonempty : text ≠ []) :
    fileName ps = .ok (some text) := by
  have named : nonempty? (some text) = some text := by simp [nonempty?, nonempty]
  have found' : get? ps (fileNameKey ++ ['*']) = some value := found
  simp only [fileName, found', decoded, bind, Except.bind, pure, Except.pure, named]

/-- The extended name in a disposition with distinct names is its file name, wherever it stands and
whatever else stands there. -/
theorem fileNameOf_of_extended {d : Spelling} {p : ParameterSpelling} {e : ExtendedSpelling}
    (distinct : (d.parameters.map fun q => q.parameter.name).Nodup) (isIn : p ∈ d.parameters)
    (named : p.parameter.name = extendedKey) (valued : p.value.text = e.chars)
    (encodes : e.bytes = Utf8.encode text) (nonempty : text ≠ []) :
    fileNameOf (String.ofList d.chars) = .ok (some (String.ofList text)) := by
  have distinct' : ((d.parameters.map ParameterSpelling.parameter).map Parameter.name).Nodup := by
    rwa [List.map_map]
  have written : (⟨extendedKey, e.chars⟩ : Parameter) ∈
      d.parameters.map ParameterSpelling.parameter := by
    rw [← named, ← valued]
    exact List.mem_map_of_mem isIn
  have found := (get?_eq_some_iff distinct').mpr written
  rw [fileNameOf_chars distinct' (List.Perm.refl _),
    fileName_of_extended found (decodeExtended_chars encodes) nonempty]
  rfl

end

/-- The letters `ä+a` as `uTf-8'de-CH'%c3%A4+%61`. -/
def umlaut : ExtendedSpelling where
  label := "uTf-8".toList
  isUtf8 := by decide
  language := "de-CH".toList
  isLanguage := List.all_iff_forall_prop.mp (by decide)
  items :=
    [.escaped 0xC3 'c' '3' (by decide), .escaped 0xA4 'A' '4' (by decide), .plain '+' (by decide),
      .escaped 0x61 '6' '1' (by decide)]

/-- The parameter that holds this value. -/
def umlautParameter : ParameterSpelling :=
  ⟨.space, .ofText "FileName*" (by decide) (by decide), .none, .none, .token umlaut.token, .none⟩

/-- The parameter stands between a plain name and a first continuation:
`attachment; filename="d"; FileName*=uTf-8'de-CH'%c3%A4+%61; filename*0=c`. -/
def amongOthers : Spelling where
  beforeType := .none
  type := attachment
  afterType := .none
  parameters :=
    [⟨.space, .ofText "filename" (by decide) (by decide), .none, .none,
        .quoted [.plain 'd' (by decide)], .none⟩,
      umlautParameter,
      ⟨.space, firstPiece, .none, .none, .token (.ofText "c" (by decide) (by decide)), .none⟩]
  closing := none

theorem fileNameOf_amongOthers :
    ((amongOthers.parameters.map fun q => q.parameter.name).Nodup ∧
        umlautParameter ∈ amongOthers.parameters ∧ umlautParameter.parameter.name = extendedKey ∧
        umlautParameter.value.text = umlaut.chars ∧
        umlaut.bytes = Utf8.encode "ä+a".toList ∧ "ä+a".toList ≠ []) ∧
      fileNameOf (String.ofList amongOthers.chars) = .ok (some (String.ofList "ä+a".toList)) := by
  have distinct : (amongOthers.parameters.map fun q => q.parameter.name).Nodup := by decide
  have isIn : umlautParameter ∈ amongOthers.parameters := .tail _ (.head _)
  have encodes : umlaut.bytes = Utf8.encode "ä+a".toList := by decide
  exact ⟨⟨distinct, isIn, by decide, rfl, encodes, by decide⟩,
    fileNameOf_of_extended distinct isIn (by decide) rfl encodes (by decide)⟩

end Disposition

end SafeFetch
