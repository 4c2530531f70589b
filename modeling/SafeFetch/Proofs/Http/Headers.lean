import Mathlib.Data.List.Forall2
import Mathlib.Data.List.TakeWhile
import SafeFetch.FileInfo
import SafeFetch.Proofs.Utf8

/-!
# Headers made from texts

A mapping from names to values makes a header if all of its texts are ASCII, and then the header is
the one that a server sends in UTF-8, on which lookups find the texts again, whatever the letter
case of the names. So the two ways in which it is known what a response says about its file, from the
response itself and from a URL with a mapping, agree on the two fields that count. A value beyond
ASCII is read from a response, but refused in a mapping.

## Main definitions

* `Headers.IsPlain`: a text is ASCII;
* `Headers.inUtf8`: the header whose fields are texts in UTF-8;
* `Headers.SameFields`: fields with the same values, and names that differ in letter case only;
* `FileInfo.Concurs`: a URL with a mapping says what the response with such fields says.

## Main results

* `Headers.ofMapping_eq_ok_iff`: a mapping makes a header exactly if its texts are ASCII;
* `Headers.get?_inUtf8_congr`: letter case does not count in the names of fields;
* `FileInfo.concurs_iff`: the two ways agree exactly if the values are ASCII.
-/

namespace SafeFetch

open SafeFetch.Text

namespace Http.Headers

variable {s : String} {name : String} {bytes : List UInt8} {field : String × String}
  {fields sent : List (String × String)} {h : Headers}

/-! ## Texts of ASCII -/

/-- All characters of a text belong to ASCII. -/
def IsPlain (s : String) : Prop := ∀ c ∈ s.toList, c.toNat < 0x80

instance (s : String) : Decidable (IsPlain s) :=
  List.decidableBAll (fun c : Char => c.toNat < 0x80) s.toList

/-- A text has bytes of its own exactly if it is ASCII, and they are those of UTF-8. -/
theorem asciiBytes_eq_ok_iff :
    asciiBytes s = .ok bytes ↔ IsPlain s ∧ bytes = Utf8.encode s.toList := by
  rw [asciiBytes]
  -- What is left behind the ASCII characters in front begins with the first one beyond.
  cases beyond : s.toList.dropWhile isAscii with
  | nil =>
    have ascii := List.dropWhile_eq_nil_iff.mp beyond
    have plain : IsPlain s := fun c isIn => by simpa [isAscii] using ascii c isIn
    have whole : s.toList.takeWhile isAscii = s.toList := List.takeWhile_eq_self_iff.mpr ascii
    simp only [whole, plain, Utf8.encode_of_ascii plain, Except.ok.injEq, true_and, eq_comm]
  | cons c rest =>
    have notPlain : ¬IsPlain s := by
      intro plain
      have kept : s.toList.dropWhile isAscii ≠ [] := by simp [beyond]
      have refused := List.head_dropWhile_not isAscii kept
      have isIn := (List.dropWhile_suffix isAscii).subset (List.head_mem kept)
      simp only [isAscii, decide_eq_false_iff_not] at refused
      exact refused (plain _ isIn)
    simp [notPlain]

/-! ## Mappings -/

/-- A field in UTF-8. -/
def utf8Field (field : String × String) : Field where
  name := Utf8.encode field.1.toList
  value := Utf8.encode field.2.toList

/-- The header whose fields are texts in UTF-8. -/
def inUtf8 (fields : List (String × String)) : Headers := { fields := fields.map utf8Field }

/-- A name and a value make a field exactly if they are ASCII. -/
theorem fieldOf_eq_ok_iff {value : String} {made : Field} :
    fieldOf name value = .ok made ↔
      (IsPlain name ∧ IsPlain value) ∧ made = utf8Field (name, value) := by
  have both : fieldOf name value = .ok made ↔ ∃ nameBytes valueBytes,
      asciiBytes name = .ok nameBytes ∧ asciiBytes value = .ok valueBytes ∧
        made = { name := nameBytes, value := valueBytes } := by
    rw [fieldOf]
    cases asciiBytes name <;> cases asciiBytes value <;>
      simp [bind, Except.bind, pure, Except.pure, eq_comm]
  simp only [both, asciiBytes_eq_ok_iff]
  constructor
  · rintro ⟨_, _, ⟨plain, rfl⟩, ⟨plain', rfl⟩, rfl⟩
    exact ⟨⟨plain, plain'⟩, rfl⟩
  · rintro ⟨⟨plain, plain'⟩, rfl⟩
    exact ⟨_, _, ⟨plain, rfl⟩, ⟨plain', rfl⟩, rfl⟩

/-- Texts make a header exactly if they are ASCII. -/
theorem ofTexts_eq_ok_iff :
    ofTexts fields = .ok h ↔
      (∀ field ∈ fields, IsPlain field.1 ∧ IsPlain field.2) ∧ h = inUtf8 fields := by
  induction fields generalizing h with
  | nil => simp [ofTexts, inUtf8, bind, Except.bind, pure, Except.pure, eq_comm]
  | cons field fields ih =>
    have both : ofTexts (field :: fields) = .ok h ↔ ∃ first others,
        fieldOf field.1 field.2 = .ok first ∧ ofTexts fields = .ok others ∧
          h = { fields := first :: others.fields } := by
      rw [ofTexts, ofTexts, List.mapM_cons]
      cases first : fieldOf field.1 field.2 <;>
        cases (fields.mapM fun field => fieldOf field.1 field.2) <;>
          simp [bind, Except.bind, pure, Except.pure, first, eq_comm]
    simp only [both, fieldOf_eq_ok_iff, ih, List.forall_mem_cons]
    constructor
    · rintro ⟨_, _, ⟨plain, rfl⟩, ⟨others, rfl⟩, rfl⟩
      exact ⟨⟨plain, others⟩, rfl⟩
    · rintro ⟨⟨plain, others⟩, rfl⟩
      exact ⟨_, _, ⟨plain, rfl⟩, ⟨others, rfl⟩, rfl⟩

/-- A new name is put behind the others. -/
theorem insertEntry_of_new (new : field.1 ∉ fields.map Prod.fst) :
    insertEntry fields field = fields ++ [field] := by
  have notThere : fields.any (·.1 == field.1) = false := by
    rw [List.any_eq_false]
    intro other isIn same
    exact new (List.mem_map.mpr ⟨other, isIn, beq_iff_eq.mp same⟩)
  rw [insertEntry, notThere, if_neg Bool.false_ne_true]

/-- A mapping is its entries, in order. -/
theorem foldl_insertEntry (before : List (String × String))
    (distinct : ((before ++ fields).map Prod.fst).Nodup) :
    fields.foldl insertEntry before = before ++ fields := by
  induction fields generalizing before with
  | nil => simp
  | cons field fields ih =>
    have new : field.1 ∉ before.map Prod.fst := by
      rw [List.map_append, List.nodup_append] at distinct
      exact fun isIn => distinct.2.2 _ isIn _ List.mem_cons_self rfl
    rw [List.foldl_cons, insertEntry_of_new new, ih _ (by simpa using distinct)]
    simp

/-- A mapping makes a header exactly if its texts are ASCII. -/
theorem ofMapping_eq_ok_iff (distinct : (fields.map Prod.fst).Nodup) :
    ofMapping fields = .ok h ↔
      (∀ field ∈ fields, IsPlain field.1 ∧ IsPlain field.2) ∧ h = inUtf8 fields := by
  rw [ofMapping, foldl_insertEntry [] distinct, List.nil_append]
  exact ofTexts_eq_ok_iff

/-! ## Lookups -/

/-- Fields with the same values, and names that differ in letter case only. -/
def SameFields : List (String × String) → List (String × String) → Prop :=
  List.Forall₂ fun field other =>
    field.1.toList.map lowerAscii = other.1.toList.map lowerAscii ∧ field.2 = other.2

/-- A small letter belongs to ASCII exactly if its capital does. -/
theorem lowerAscii_lt_iff (c : Char) : (lowerAscii c).toNat < 0x80 ↔ c.toNat < 0x80 := by
  rw [lowerAscii]
  split
  next capital =>
    have bounds : 65 ≤ c.toNat ∧ c.toNat ≤ 90 := capital
    have isValid : (c.toNat + 32).isValidChar := .inl (by omega)
    have code : (Char.ofNat (c.toNat + 32)).toNat = c.toNat + 32 := by
      rw [Char.ofNat, dif_pos isValid]
      rfl
    omega
  next => rfl

/-- The bytes of an ASCII text take small letters as the text does. -/
theorem map_lowerByte_encode {chars : List Char} (plain : ∀ c ∈ chars, c.toNat < 0x80) :
    (Utf8.encode chars).map lowerByte = Utf8.encode (chars.map lowerAscii) := by
  have plain' : ∀ c ∈ chars.map lowerAscii, c.toNat < 0x80 := by
    simpa [lowerAscii_lt_iff] using plain
  -- There are few enough characters to look at each of them.
  have small : ∀ n < 0x80, lowerByte (UInt8.ofNat (Char.ofNat n).toNat) =
      UInt8.ofNat (lowerAscii (Char.ofNat n)).toNat := by decide +kernel
  rw [Utf8.encode_of_ascii plain, Utf8.encode_of_ascii plain', List.map_map, List.map_map]
  refine List.map_congr_left fun c isIn => ?_
  have here := small c.toNat (plain c isIn)
  rwa [Char.ofNat_toNat] at here

/-- The letter case of a name does not count. -/
theorem isNamed_utf8Field_congr {other : String × String} (plain : IsPlain field.1)
    (same : field.1.toList.map lowerAscii = other.1.toList.map lowerAscii) :
    isNamed name (utf8Field field) = isNamed name (utf8Field other) := by
  -- A name in another letter case is ASCII as well.
  have plain' : IsPlain other.1 := by
    intro c isIn
    have isSmall : lowerAscii c ∈ field.1.toList.map lowerAscii :=
      same ▸ List.mem_map_of_mem isIn
    obtain ⟨d, isThere, small⟩ := List.mem_map.mp isSmall
    exact (lowerAscii_lt_iff c).mp (small ▸ (lowerAscii_lt_iff d).mpr (plain d isThere))
  rw [isNamed, isNamed, utf8Field, utf8Field, map_lowerByte_encode plain,
    map_lowerByte_encode plain', same]

/-- A value in UTF-8 is read back. -/
theorem textOf_inUtf8 (fields : List (String × String)) (value : List Char) :
    (inUtf8 fields).textOf (Utf8.encode value) = value := by
  have all : (inUtf8 fields).isAllUtf8 = true := by
    simp [isAllUtf8, inUtf8, utf8Field, isUtf8, Utf8.decode?_encode]
  rw [textOf, all, if_pos rfl, Utf8.decode?_encode, Option.getD_some]

/-- Values with commas between them, if there are any. -/
def joined : List (List Char) → Option String
  | [] => none
  | texts => some (String.ofList (List.intercalate [',', ' '] texts))

theorem get?_eq_joined (h : Headers) (name : String) :
    h.get? name = joined ((h.fields.filter (isNamed name)).map fun f => h.textOf f.value) := by
  rw [get?]
  cases h.fields.filter (isNamed name) <;> rfl

/-- On fields in UTF-8 a lookup finds the texts of the values. -/
theorem get?_inUtf8 (fields : List (String × String)) (name : String) :
    (inUtf8 fields).get? name = joined
      ((fields.filter fun field => isNamed name (utf8Field field)).map fun field =>
        field.2.toList) := by
  rw [get?_eq_joined]
  have texts : (inUtf8 fields).fields.filter (isNamed name) =
      (fields.filter fun field => isNamed name (utf8Field field)).map utf8Field :=
    List.filter_map ..
  rw [texts, List.map_map]
  refine congrArg joined (List.map_congr_left fun field _ => ?_)
  exact textOf_inUtf8 fields field.2.toList

/-- Fields with names in another letter case are found alike. -/
theorem get?_inUtf8_congr (plain : ∀ field ∈ fields, IsPlain field.1)
    (same : SameFields fields sent) (name : String) :
    (inUtf8 fields).get? name = (inUtf8 sent).get? name := by
  rw [get?_inUtf8, get?_inUtf8]
  refine congrArg joined ?_
  -- The same fields are picked out of both lists, and their values are the same.
  induction same with
  | nil => rfl
  | @cons field other fields sent here later ih =>
    obtain ⟨first, others⟩ := List.forall_mem_cons.mp plain
    rw [List.filter_cons, List.filter_cons, isNamed_utf8Field_congr first here.1]
    split
    · rw [List.map_cons, List.map_cons, ih others, here.2]
    · exact ih others

end Http.Headers

namespace FileInfo

open Http.Headers

variable {url : String} {fields sent : List (String × String)} {parts : Http.UrlParts}

/-- A URL with a mapping can be used, and says what the response with such fields in UTF-8 says,
wherever that comes from. -/
def Concurs (url : String) (fields sent : List (String × String)) : Prop :=
  ∃ info, ofUrl url fields = .ok info ∧ ∀ answered,
    info.contentDisposition = (ofResponse answered (inUtf8 sent)).contentDisposition ∧
      info.lastModified = (ofResponse answered (inUtf8 sent)).lastModified

/-- A URL with a mapping of ASCII texts says what the header in UTF-8 says. -/
theorem ofUrl_of_plain (valid : Http.UrlParts.parse url.toList = .ok parts)
    (distinct : (fields.map Prod.fst).Nodup)
    (plain : ∀ field ∈ fields, IsPlain field.1 ∧ IsPlain field.2) :
    ofUrl url fields =
      .ok (ofHeaders (String.ofList (Percent.decode parts.path)) (inUtf8 fields)) := by
  have made := (ofMapping_eq_ok_iff distinct).mpr ⟨plain, rfl⟩
  rw [ofUrl, made, valid]
  rfl

/-- Any other text in the mapping is refused. -/
theorem ofUrl_of_not_plain (url : String) (distinct : (fields.map Prod.fst).Nodup)
    (beyond : ¬∀ field ∈ fields, IsPlain field.1 ∧ IsPlain field.2) :
    ∃ fault, ofUrl url fields = .error (.header fault) := by
  cases made : ofMapping fields with
  | error fault =>
    refine ⟨fault, ?_⟩
    rw [ofUrl, made]
    rfl
  | ok h => exact absurd ((ofMapping_eq_ok_iff distinct).mp made).1 beyond

/-- A URL with a mapping agrees with the response exactly if the values are ASCII, and is refused
because of the mapping exactly if one of them is not. -/
theorem concurs_iff (valid : Http.UrlParts.parse url.toList = .ok parts)
    (distinct : (fields.map Prod.fst).Nodup) (plain : ∀ field ∈ fields, IsPlain field.1)
    (same : SameFields fields sent) :
    (Concurs url fields sent ↔ ∀ field ∈ fields, IsPlain field.2) ∧
      ((∃ fault, ofUrl url fields = .error (.header fault)) ↔
        ¬∀ field ∈ fields, IsPlain field.2) := by
  by_cases values : ∀ field ∈ fields, IsPlain field.2
  -- ASCII has the same bytes in both headers, so every lookup agrees.
  · have made := ofUrl_of_plain valid distinct fun field isIn =>
      ⟨plain field isIn, values field isIn⟩
    refine ⟨iff_of_true ⟨_, made, fun answered => ?_⟩ values, iff_of_false ?_ (not_not.mpr values)⟩
    · exact ⟨get?_inUtf8_congr plain same _, get?_inUtf8_congr plain same _⟩
    · rintro ⟨fault, refused⟩
      cases made.symm.trans refused
  · have refused := ofUrl_of_not_plain url distinct fun both =>
      values fun field isIn => (both field isIn).2
    refine ⟨iff_of_false ?_ values, iff_of_true refused values⟩
    rintro ⟨info, made, -⟩
    obtain ⟨fault, refused⟩ := refused
    cases made.symm.trans refused

theorem exists_parts : ∃ parts, Http.UrlParts.parse "http://h/a".toList = .ok parts := by
  have valid : (Http.UrlParts.parse "http://h/a".toList).toOption.isSome = true := by
    decide +kernel
  cases parsed : Http.UrlParts.parse "http://h/a".toList with
  | error fault =>
    rw [parsed] at valid
    cases valid
  | ok parts => exact ⟨parts, rfl⟩

/-- A header whose names come back in small letters. -/
theorem concurs_of_small_letters :
    Concurs "http://h/a"
      [("Content-Disposition", "inline"), ("ETag", "x"), ("content-disposition", "attachment")]
      [("content-disposition", "inline"), ("etag", "x"), ("content-disposition", "attachment")] := by
  obtain ⟨parts, valid⟩ := exists_parts
  refine (concurs_iff valid (by decide) (by decide +kernel) ?_).1.mpr (by decide +kernel)
  exact .cons (by decide +kernel) (.cons (by decide +kernel) (.cons (by decide +kernel) .nil))

/-- The field of a name with an accent. -/
def accented : String × String := ("content-disposition", "attachment; filename=\"é.txt\"")

/-- A response may give a name with an accent, and a mapping may not. -/
theorem not_concurs_of_accent :
    (∃ parts, Http.UrlParts.parse "http://h/a".toList = .ok parts) ∧
      ([accented].map Prod.fst).Nodup ∧ IsPlain accented.1 ∧
      ¬Concurs "http://h/a" [accented] [accented] ∧
      ∀ answered, (ofResponse answered (inUtf8 [accented])).contentDisposition =
        some accented.2 := by
  have refused : (ofUrl "http://h/a" [accented]).toOption = none := by decide +kernel
  refine ⟨exists_parts, by decide, by decide +kernel, ?_, fun answered => ?_⟩
  · rintro ⟨info, made, -⟩
    rw [made] at refused
    cases refused
  · exact (get?_inUtf8 [accented] "content-disposition").trans (by decide +kernel)

end FileInfo

end SafeFetch
