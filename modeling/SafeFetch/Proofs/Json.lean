import Mathlib.Data.List.Forall2
import SafeFetch.Proofs.Numeral
import SafeFetch.Text.Json

/-!
# Documents read back

A reader of documents, and the proof that it undoes what the writer does. The reader takes white
space wherever the format has it, characters as they stand or by any of their escapes, and natural
numbers without zeros in front. It refuses every other text, in particular truth values, signs and
fractions, which no document holds.

A character beyond the first plane is written as two 16-bit units, so a text is read in two steps:
its escapes become code points, and of those two surrogates that follow one another make up one
character. Inside brackets the reader does not know how many parts follow; it stops at the closing
bracket, and never goes on for more steps than the text has characters.

## Main definitions

* `read?`: the document that a text holds;
* `Reads`: a reader finds a part at the front of a text, whatever follows that is no digit.

## Main results

* `readText_quoted`: a text is read back from between its quotation marks;
* `reads_render`: a document is read back at any level of indentation;
* `read?_render`: so it is as the whole of a text;
* `ascii_render`: a document is written in ASCII.
-/

namespace SafeFetch.Text.JsonValue

variable {α : Type} {c closing : Char} {n level room : Nat} {s text rest : List Char}

/-! ## The reader -/

/-- White space between the parts of a document. -/
def isSpace (c : Char) : Bool := c == ' ' || c == '\t' || c == '\n' || c == '\r'

/-- A text without the white space at its front. -/
def unspaced (s : List Char) : List Char := s.dropWhile isSpace

/-- Something in front of what was read. -/
def ahead (part : α) (others : Option (List α × List Char)) : Option (List α × List Char) :=
  others.map fun (parts, rest) => (part :: parts, rest)

/-- The 16-bit unit that four hexadecimal digits write. -/
def unit? (a b c d : Char) : Option Nat := do
  let a ← Hex.digitValue? a
  let b ← Hex.digitValue? b
  let c ← Hex.digitValue? c
  let d ← Hex.digitValue? d
  return 0x1000 * a + 0x100 * b + 0x10 * c + d

/-- The character that a letter behind a backslash stands for. -/
def escaped? : Char → Option Char
  | '"' => some '"'
  | '\\' => some '\\'
  | '/' => some '/'
  | 'b' => some '\x08'
  | 'f' => some '\x0C'
  | 'n' => some '\n'
  | 'r' => some '\r'
  | 't' => some '\t'
  | _ => none

/-- Read code points up to a quotation mark. -/
def readPoints : List Char → Option (List Nat × List Char)
  | [] => none
  | '"' :: rest => some ([], rest)
  | '\\' :: 'u' :: a :: b :: c :: d :: rest =>
    (unit? a b c d).bind fun unit => ahead unit (readPoints rest)
  | '\\' :: letter :: rest =>
    (escaped? letter).bind fun c => ahead c.toNat (readPoints rest)
  | c :: rest => if c.toNat < 0x20 then none else ahead c.toNat (readPoints rest)

/-- The character of a code point; a surrogate has none. -/
def ofPoint? (n : Nat) : Option Char := if n.isValidChar then some (Char.ofNat n) else none

/-- The characters of code points. A high surrogate and the low one behind it make up one. -/
def fuse? : List Nat → Option (List Char)
  | [] => some []
  | [n] => (ofPoint? n).map ([·])
  | n :: m :: rest =>
    if (0xD800 ≤ n ∧ n < 0xDC00) ∧ 0xDC00 ≤ m ∧ m < 0xE000 then
      (fuse? rest).map (Char.ofNat (0x10000 + 0x400 * (n - 0xD800) + (m - 0xDC00)) :: ·)
    else (ofPoint? n).bind fun c => (fuse? (m :: rest)).map (c :: ·)

/-- Read a text up to the quotation mark that ends it. -/
def readText (s : List Char) : Option (List Char × List Char) := do
  let (points, rest) ← readPoints s
  return (← fuse? points, rest)

/-- Read a number. -/
def readNumber (s : List Char) : Option (Nat × List Char) :=
  let digits := s.takeWhile Numeral.isPlainDigit
  if digits = [] ∨ digits.head? = some '0' ∧ digits ≠ ['0'] then none
  else some (Numeral.natOfDigits digits, s.dropWhile Numeral.isPlainDigit)

/-- Read parts with commas between them up to a closing bracket, `room` of them at most. -/
def readParts (one : List Char → Option (α × List Char)) (closing : Char) :
    Nat → List Char → Option (List α × List Char)
  | 0, _ => none
  | room + 1, s => do
    let (part, rest) ← one (unspaced s)
    match unspaced rest with
    | [] => none
    | c :: rest =>
      if c = ',' then ahead part (readParts one closing room rest)
      else if c = closing then some ([part], rest)
      else none

/-- Read what stands behind an opening bracket. -/
def readBracketed (one : List Char → Option (α × List Char)) (closing : Char) (room : Nat)
    (s : List Char) : Option (List α × List Char) :=
  if (unspaced s).head? = some closing then some ([], (unspaced s).tail)
  else readParts one closing room s

/-- Read a member of an object, knowing how to read its value. -/
def readMember (one : List Char → Option (JsonValue × List Char)) :
    List Char → Option ((List Char × JsonValue) × List Char)
  | '"' :: s => do
    let (name, rest) ← readText s
    match unspaced rest with
    | ':' :: rest => (one (unspaced rest)).map fun (value, rest) => ((name, value), rest)
    | _ => none
  | _ => none

/-- Read a document at the front of a text, going `room` brackets deep at most. -/
def readValue : Nat → List Char → Option (JsonValue × List Char)
  | 0, _ => none
  | _ + 1, 'n' :: 'u' :: 'l' :: 'l' :: rest => some (.null, rest)
  | _ + 1, '"' :: rest => (readText rest).map fun (s, rest) => (.text s, rest)
  | room + 1, '[' :: rest =>
    (readBracketed (readValue room) ']' room rest).map fun (items, rest) => (.array items, rest)
  | room + 1, '\x7b' :: rest =>
    (readBracketed (readMember (readValue room)) '\x7d' room rest).map fun (members, rest) =>
      (.object members, rest)
  | _ + 1, s => (readNumber s).map fun (n, rest) => (.number n, rest)

/-- The document that a text holds. -/
def read? (s : List Char) : Option JsonValue :=
  match readValue s.length (unspaced s) with
  | some (value, rest) => if unspaced rest = [] then some value else none
  | none => none

/-! ## Characters -/

/-- The code points that the escapes of a character write. -/
def points (c : Char) : List Nat :=
  if c.toNat < 0x10000 then [c.toNat]
  else [0xD800 + (c.toNat - 0x10000) / 0x400, 0xDC00 + (c.toNat - 0x10000) % 0x400]

theorem points_of_lt (small : c.toNat < 0x10000) : points c = [c.toNat] := if_pos small

/-- A character is no surrogate. -/
theorem toNat_valid (c : Char) : c.toNat < 0xD800 ∨ 0xDFFF < c.toNat ∧ c.toNat < 0x110000 := c.valid

theorem digitValue?_digit (small : n < 16) : Hex.digitValue? (Hex.digit n) = some n := by
  revert n
  decide

/-- A unit is read back from its escape. -/
theorem readPoints_unitEscape (small : n < 0x10000) (rest : List Char) :
    readPoints (unitEscape n ++ rest) = ahead n (readPoints rest) := by
  have digits : unitEscape n = ['\\', 'u', Hex.digit (n / 16 / 16 / 16 % 16),
      Hex.digit (n / 16 / 16 % 16), Hex.digit (n / 16 % 16), Hex.digit (n % 16)] := rfl
  have value : unit? (Hex.digit (n / 16 / 16 / 16 % 16)) (Hex.digit (n / 16 / 16 % 16))
      (Hex.digit (n / 16 % 16)) (Hex.digit (n % 16)) = some n := by
    have whole : 0x1000 * (n / 16 / 16 / 16 % 16) + 0x100 * (n / 16 / 16 % 16) +
        0x10 * (n / 16 % 16) + n % 16 = n := by omega
    simp only [unit?, digitValue?_digit (Nat.mod_lt _ (by decide : 0 < 16)), Option.bind_eq_bind,
      Option.bind_some, whole]
    rfl
  rw [digits]
  simp only [List.cons_append, List.nil_append, readPoints, value, Option.bind_some]

/-- A character that stands for itself is read as it is. -/
theorem readPoints_self (printable : 0x20 ≤ c.toNat) (noQuote : c ≠ '"') (noEscape : c ≠ '\\')
    (rest : List Char) : readPoints (c :: rest) = ahead c.toNat (readPoints rest) := by
  have notControl : ¬c.toNat < 0x20 := Nat.not_lt.mpr printable
  simp [readPoints, noEscape, notControl]

/-- A character is read back from the way it stands in a text. -/
theorem readPoints_shownChar (c : Char) (rest : List Char) :
    readPoints (shownChar c ++ rest) =
      (readPoints rest).map fun (others, rest) => (points c ++ others, rest) := by
  -- A character of one unit is read as its code point, whichever way it stands there.
  have single {c : Char} (small : c.toNat < 0x10000) :
      ((readPoints rest).map fun (others, rest) => (points c ++ others, rest)) =
        ahead c.toNat (readPoints rest) := by
    rw [points_of_lt small]
    rfl
  rw [shownChar]
  split_ifs with quoted newLine carriage tab feed back printable
  · rcases quoted with rfl | rfl <;> rfl
  · subst newLine; rfl
  · subst carriage; rfl
  · subst tab; rfl
  · subst feed; rfl
  · subst back; rfl
  · rw [single (by omega)]
    exact readPoints_self printable.1 (by simp_all) (by simp_all) rest
  · rw [escapeUnits]
    split_ifs with small
    · rw [single small, readPoints_unitEscape small]
    · have bound := toNat_valid c
      rw [List.append_assoc, readPoints_unitEscape (by omega), readPoints_unitEscape (by omega),
        points, if_neg small]
      simp [ahead, Function.comp_def]

/-- The code points of a character make it up again. -/
theorem fuse?_points (c : Char) (others : List Nat) :
    fuse? (points c ++ others) = (fuse? others).map (c :: ·) := by
  have valid := toNat_valid c
  rw [points]
  split_ifs with small
  -- One unit is no surrogate, so it is fused with nothing that follows.
  · have self : ofPoint? c.toNat = some c := by
      have isValid : c.toNat.isValidChar := c.valid
      rw [ofPoint?, if_pos isValid, Char.ofNat_toNat]
    cases others with
    | nil => simp [fuse?, self]
    | cons m rest =>
      rw [List.singleton_append, fuse?, if_neg (by omega), self, Option.bind_some]
  -- Of two units the first is a high surrogate and the second a low one.
  · have whole : 0x10000 + 0x400 * (0xD800 + (c.toNat - 0x10000) / 0x400 - 0xD800) +
        (0xDC00 + (c.toNat - 0x10000) % 0x400 - 0xDC00) = c.toNat := by omega
    rw [List.cons_append, List.singleton_append, fuse?, if_pos (by omega), whole, Char.ofNat_toNat]

/-- A text is read back from between its quotation marks. -/
theorem readText_quoted (s rest : List Char) :
    readText (s.flatMap shownChar ++ '"' :: rest) = some (s, rest) := by
  -- Its escapes are read as its code points, and these make up its characters.
  have both : readPoints (s.flatMap shownChar ++ '"' :: rest) = some (s.flatMap points, rest) ∧
      fuse? (s.flatMap points) = some s := by
    induction s with
    | nil => exact ⟨rfl, rfl⟩
    | cons c s ih =>
      rw [List.flatMap_cons, List.flatMap_cons, List.append_assoc, readPoints_shownChar, ih.1,
        fuse?_points, ih.2]
      exact ⟨rfl, rfl⟩
  simp [readText, both]

/-! ## Numbers -/

/-- What follows is no digit, so a number in front of it ends there. -/
def Ends (rest : List Char) : Prop := ∀ c ∈ rest.head?, Numeral.isPlainDigit c = false

theorem ends_nil : Ends [] := by simp [Ends]

theorem ends_cons (other : Numeral.isPlainDigit c = false) (s : List Char) : Ends (c :: s) := by
  simpa [Ends] using other

theorem isPlainDigit_of_mem_toDigits (isIn : c ∈ Nat.toDigits 10 n) :
    Numeral.isPlainDigit c = true := by
  have isDigit := Nat.isDigit_of_mem_toDigits (by decide) (by decide) isIn
  rw [Char.isDigit, Bool.and_eq_true, decide_eq_true_eq, decide_eq_true_eq] at isDigit
  rw [Numeral.isPlainDigit, Bool.and_eq_true, decide_eq_true_eq, decide_eq_true_eq]
  exact isDigit

/-- A number has no zeros in front. -/
theorem head?_toDigits_ne (more : n ≠ 0) : (Nat.toDigits 10 n).head? ≠ some '0' := by
  -- All digits but the last one are those of a tenth of the number.
  induction n using Nat.strongRecOn with
  | ind n ih =>
    by_cases small : n < 10
    · rw [Nat.toDigits_of_lt_base small]
      have apart : ∀ d < 10, d ≠ 0 → Nat.digitChar d ≠ '0' := by decide
      simpa using apart n small more
    · rw [Nat.toDigits_of_base_le (by decide) (by omega),
        List.head?_append_of_ne_nil _ Nat.toDigits_ne_nil]
      exact ih (n / 10) (by omega) (by omega)

/-- A number is read back from its digits. -/
theorem readNumber_toDigits (n : Nat) (ends : Ends rest) :
    readNumber (Nat.toDigits 10 n ++ rest) = some (n, rest) := by
  have digits : ∀ c ∈ Nat.toDigits 10 n, Numeral.isPlainDigit c = true :=
    fun c => isPlainDigit_of_mem_toDigits
  have stops : rest.takeWhile Numeral.isPlainDigit = [] ∧
      rest.dropWhile Numeral.isPlainDigit = rest := by
    cases rest with
    | nil => exact ⟨rfl, rfl⟩
    | cons c rest => simp [ends c rfl]
  have value : Numeral.natOfDigits (Nat.toDigits 10 n) = n :=
    Nat.ofDigitChars_toDigits (by decide) (by decide)
  -- Only the number zero begins with that digit, and has no other one.
  have short : ¬((Nat.toDigits 10 n).head? = some '0' ∧ Nat.toDigits 10 n ≠ ['0']) := by
    rintro ⟨zero, longer⟩
    by_cases more : n = 0
    · exact longer (more ▸ rfl)
    · exact head?_toDigits_ne more zero
  rw [readNumber, List.takeWhile_append_of_pos digits, List.dropWhile_append_of_pos digits, stops.1,
    stops.2, List.append_nil, if_neg (not_or.mpr ⟨Nat.toDigits_ne_nil, short⟩), value]

/-! ## Parts in brackets -/

theorem unspaced_cons (visible : isSpace c = false) (s : List Char) : unspaced (c :: s) = c :: s :=
  List.dropWhile_cons_of_neg (by simp [visible])

theorem unspaced_newLine (level : Nat) (s : List Char) :
    unspaced (newLine level ++ s) = unspaced s := by
  apply List.dropWhile_append_of_pos
  simp [newLine, isSpace]

/-- A reader finds a part in a text, whatever follows. The text begins with no white space, and
with no bracket that closes. -/
structure Reads (one : List Char → Option (α × List Char)) (text : List Char) (part : α) :
    Prop where
  begins : ∃ c others, text = c :: others ∧ isSpace c = false ∧ c ≠ ']' ∧ c ≠ '\x7d'
  finds {rest : List Char} : Ends rest → one (text ++ rest) = some (part, rest)

/-- White space in front of a part is passed over. -/
theorem Reads.unspaced_append {one : List Char → Option (α × List Char)} {part : α}
    (reads : Reads one text part) (rest : List Char) : unspaced (text ++ rest) = text ++ rest := by
  obtain ⟨c, others, rfl, visible, -⟩ := reads.begins
  exact unspaced_cons visible (others ++ rest)

/-- A bracket that closes. -/
def IsClosing (c : Char) : Prop := c = ']' ∨ c = '\x7d'

/-- Parts on lines of their own are read up to the closing bracket. -/
theorem readParts_lines {one : List Char → Option (α × List Char)} {texts : List (List Char)}
    {parts : List α} (closes : IsClosing closing) (reads : List.Forall₂ (Reads one) texts parts)
    (more : texts ≠ []) (enough : texts.length ≤ room) (level inner : Nat) (rest : List Char) :
    readParts one closing room (newLine inner ++
      (List.intercalate (',' :: newLine inner) texts ++ (newLine level ++ closing :: rest))) =
        some (parts, rest) := by
  -- By the parts that are left; each one takes a step of the reader.
  induction reads generalizing room with
  | nil => exact absurd rfl more
  | @cons text part texts parts here later ih =>
    obtain ⟨room, rfl⟩ := Nat.exists_eq_succ_of_ne_zero (Nat.ne_zero_of_lt enough)
    -- Behind the last part stands the closing bracket, behind any other one a comma.
    cases later with
    | nil =>
      have visible : isSpace closing = false ∧ closing ≠ ',' := by
        rcases closes with rfl | rfl <;> decide
      have ends : Ends (newLine level ++ closing :: rest) := ends_cons rfl _
      rw [readParts, List.intercalate_singleton, unspaced_newLine, here.unspaced_append,
        here.finds ends]
      simp [unspaced_newLine, unspaced_cons visible.1, visible.2]
    | cons next later =>
      rw [readParts, List.intercalate_cons_cons, unspaced_newLine, List.append_assoc,
        List.append_assoc, List.cons_append, here.unspaced_append, here.finds (ends_cons rfl _)]
      have others := ih (List.cons_ne_nil _ _) (Nat.le_of_succ_le_succ enough)
      simp [unspaced_cons, isSpace, ahead, others]

/-- Parts in brackets are read back behind the opening bracket. -/
theorem readBracketed_bracketed {one : List Char → Option (α × List Char)}
    {texts : List (List Char)} {parts : List α} (closes : IsClosing closing)
    (reads : List.Forall₂ (Reads one) texts parts) (opening : Char)
    (enough : texts.length ≤ room) (level : Nat) (rest : List Char) :
    ∃ body, bracketed opening closing level texts = opening :: body ∧
      readBracketed one closing room (body ++ rest) = some (parts, rest) := by
  have visible : isSpace closing = false := by rcases closes with rfl | rfl <;> rfl
  cases reads with
  | nil =>
    refine ⟨[closing], rfl, ?_⟩
    simp [readBracketed, unspaced_cons visible]
  | @cons text part texts parts here later =>
    refine ⟨newLine (level + 1) ++ (List.intercalate (',' :: newLine (level + 1)) (text :: texts) ++
      (newLine level ++ [closing])), by simp [bracketed], ?_⟩
    have lines := readParts_lines closes (.cons here later) (List.cons_ne_nil _ _) enough level
      (level + 1) rest
    -- The first part does not begin with the closing bracket, which would end the list.
    obtain ⟨more, whole⟩ := prefix_intercalate_append (',' :: newLine (level + 1)) [text] texts
    obtain ⟨c, others, rfl, shown, noItem, noMember⟩ := here.begins
    have goesOn : c ≠ closing := by
      rcases closes with rfl | rfl
      · exact noItem
      · exact noMember
    rw [List.singleton_append, List.intercalate_singleton] at whole
    rw [← whole] at lines ⊢
    rw [readBracketed, if_neg]
    · simpa using lines
    · simpa [unspaced_newLine, unspaced_cons shown] using goesOn

/-! ## Documents -/

theorem reads_text (s : List Char) : Reads (readValue (room + 1)) (quote s) (.text s) where
  begins := ⟨'"', _, rfl, rfl, by decide, by decide⟩
  finds _ := by
    rw [quote, List.append_assoc, List.cons_append]
    simp [readValue, readText_quoted]

/-- A number is read back. Its first digit tells it from any other document. -/
theorem reads_number (n : Nat) : Reads (readValue (room + 1)) (Nat.toDigits 10 n) (.number n) := by
  obtain ⟨c, others, digits⟩ := List.exists_cons_of_ne_nil (Nat.toDigits_ne_nil (b := 10) (n := n))
  have isDigit : Numeral.isPlainDigit c = true :=
    isPlainDigit_of_mem_toDigits (digits ▸ List.mem_cons_self)
  -- A digit begins no other kind of document and ends no list.
  obtain ⟨visible, noItem, noMember, noNull, noText, noArray, noObject⟩ :=
    Numeral.forall_of_isPlainDigit
      (p := fun c => isSpace c = false ∧ c ≠ ']' ∧ c ≠ '\x7d' ∧ c ≠ 'n' ∧ c ≠ '"' ∧ c ≠ '[' ∧
        c ≠ '\x7b') (by decide) isDigit
  refine ⟨⟨c, others, digits, visible, noItem, noMember⟩, fun ends => ?_⟩
  have number := readNumber_toDigits n ends
  rw [digits, List.cons_append] at number ⊢
  simp [readValue, number, noNull, noText, noArray, noObject]

/-- A member is read back from its name and its value. -/
theorem reads_member {one : List Char → Option (JsonValue × List Char)} {value : JsonValue}
    (name : List Char) (reads : Reads one text value) :
    Reads (readMember one) (quote name ++ ':' :: ' ' :: text) (name, value) where
  begins := ⟨'"', _, rfl, rfl, by decide, by decide⟩
  finds {rest} ends := by
    have spaced : unspaced (' ' :: (text ++ rest)) = text ++ rest := reads.unspaced_append rest
    simp [quote, readMember, readText_quoted, unspaced_cons, isSpace, spaced, reads.finds ends]

/-- Texts with separators between them have a character each, but for one at most, and none of them
is longer than all together. -/
theorem length_intercalate_le {sep : List Char} (apart : sep ≠ []) (texts : List (List Char)) :
    texts.length ≤ (List.intercalate sep texts).length + 1 ∧
      ∀ text ∈ texts, text.length ≤ (List.intercalate sep texts).length := by
  have positive : 0 < sep.length := List.length_pos_of_ne_nil apart
  induction texts with
  | nil => simp
  | cons text texts ih =>
    cases texts with
    | nil => simp
    | cons next texts =>
      rw [List.intercalate_cons_cons, List.length_append, List.length_append, List.length_cons,
        List.forall_mem_cons]
      exact ⟨by omega, by omega, fun other isIn => Nat.le_trans (ih.2 other isIn) (by omega)⟩

/-- Brackets make what stands between them longer. -/
theorem length_lt_bracketed (opening closing : Char) (level : Nat) (texts : List (List Char)) :
    texts.length < (bracketed opening closing level texts).length ∧
      ∀ text ∈ texts, text.length < (bracketed opening closing level texts).length := by
  cases texts with
  | nil => simp [bracketed]
  | cons text texts =>
    obtain ⟨few, short⟩ :=
      length_intercalate_le (List.cons_ne_nil ',' (newLine (level + 1))) (text :: texts)
    have length : (List.intercalate (',' :: newLine (level + 1)) (text :: texts)).length + 2 ≤
        (bracketed opening closing level (text :: texts)).length := by
      simp [bracketed]
      omega
    exact ⟨by omega, fun other isIn => Nat.lt_of_le_of_lt (short other isIn) (by omega)⟩

/-- What stands in brackets needs less room than the whole. -/
theorem enough_of_bracketed {opening : Char} {texts : List (List Char)}
    (enough : (bracketed opening closing level texts).length ≤ room + 1) :
    texts.length ≤ room ∧ ∀ text ∈ texts, text.length ≤ room := by
  obtain ⟨few, short⟩ := length_lt_bracketed opening closing level texts
  exact ⟨by omega, fun text isIn => Nat.le_of_lt_succ (Nat.lt_of_lt_of_le (short text isIn) enough)⟩

theorem length_render_pos (level : Nat) (value : JsonValue) : 0 < (render level value).length := by
  cases value with
  | null => exact Nat.succ_pos _
  | number n => exact List.length_pos_of_ne_nil Nat.toDigits_ne_nil
  | text s => exact Nat.succ_pos _
  | array items => exact Nat.zero_lt_of_lt (length_lt_bracketed ..).1
  | object members => exact Nat.zero_lt_of_lt (length_lt_bracketed ..).1

/-- A document in brackets is read back if its parts are. -/
theorem reads_bracketed {one : List Char → Option (α × List Char)} {whole : List α → JsonValue}
    {opening : Char} {texts : List (List Char)} {parts : List α}
    (opens : isSpace opening = false ∧ opening ≠ ']' ∧ opening ≠ '\x7d')
    (closes : IsClosing closing) (reads : List.Forall₂ (Reads one) texts parts)
    (enough : texts.length ≤ room)
    (behind : ∀ body, readValue (room + 1) (opening :: body) =
      (readBracketed one closing room body).map fun (parts, rest) => (whole parts, rest)) :
    Reads (readValue (room + 1)) (bracketed opening closing level texts) (whole parts) := by
  have read := readBracketed_bracketed closes reads opening enough level
  obtain ⟨body, shape, -⟩ := read []
  refine ⟨⟨opening, body, shape, opens⟩, fun {rest} _ => ?_⟩
  obtain ⟨body, shape, found⟩ := read rest
  rw [shape, List.cons_append, behind, found, Option.map_some]

/- The parts of a document are at a deeper level and leave less room, so both are arbitrary in the
induction over the document. -/
mutual

/-- A document is read back at any level of indentation. -/
theorem reads_render : ∀ (value : JsonValue) (level room : Nat),
    (render level value).length ≤ room → Reads (readValue room) (render level value) value
  | value, level, 0, enough => absurd (length_render_pos level value) (Nat.not_lt.mpr enough)
  | .null, _, room + 1, _ =>
    ⟨⟨'n', ['u', 'l', 'l'], rfl, by decide, by decide, by decide⟩, fun _ => rfl⟩
  | .number n, _, _ + 1, _ => reads_number n
  | .text s, _, _ + 1, _ => reads_text s
  | .array items, level, room + 1, enough => by
    obtain ⟨few, short⟩ := enough_of_bracketed enough
    have parts := reads_renderItems items (level + 1) room short
    exact reads_bracketed (by decide) (.inl rfl) parts few fun _ => rfl
  | .object members, level, room + 1, enough => by
    obtain ⟨few, short⟩ := enough_of_bracketed enough
    have parts := reads_renderMembers members (level + 1) room short
    exact reads_bracketed (by decide) (.inr rfl) parts few fun _ => rfl

theorem reads_renderItems : ∀ (items : List JsonValue) (level room : Nat),
    (∀ text ∈ renderItems level items, text.length ≤ room) →
      List.Forall₂ (Reads (readValue room)) (renderItems level items) items
  | [], _, _, _ => .nil
  | item :: items, level, room, enough => by
    obtain ⟨here, later⟩ := List.forall_mem_cons.mp enough
    exact .cons (reads_render item level room here) (reads_renderItems items level room later)

theorem reads_renderMembers : ∀ (members : List (List Char × JsonValue)) (level room : Nat),
    (∀ text ∈ renderMembers level members, text.length ≤ room) →
      List.Forall₂ (Reads (readMember (readValue room))) (renderMembers level members) members
  | [], _, _, _ => .nil
  | (name, value) :: members, level, room, enough => by
    obtain ⟨here, later⟩ := List.forall_mem_cons.mp enough
    have short : (render level value).length ≤ room := by
      simp at here
      omega
    exact .cons (reads_member name (reads_render value level room short))
      (reads_renderMembers members level room later)

end

/-- The text of a document holds the document. -/
theorem read?_render (level : Nat) (value : JsonValue) :
    read? (render level value) = some value := by
  -- The bound of the reader, the length of the text, leaves room enough.
  have reads := reads_render value level _ (Nat.le_refl _)
  have found := reads.finds ends_nil
  have whole := reads.unspaced_append []
  rw [List.append_nil] at found whole
  rw [read?, whole, found]
  rfl

/-! ## Plain text -/

theorem ascii_unitEscape (n : Nat) : ∀ c ∈ unitEscape n, c.toNat < 0x80 := by
  have digits : ∀ d < 16, (Hex.digit d).toNat < 0x80 := by decide
  have ascii (m : Nat) : (Hex.digit (m % 16)).toNat < 0x80 := digits _ (Nat.mod_lt _ (by decide))
  simp only [unitEscape, Hex.padded, List.nil_append, List.cons_append, List.forall_mem_cons]
  simp [ascii]

theorem ascii_letter {letter : Char} (ascii : letter.toNat < 0x80) :
    ∀ c ∈ ['\\', letter], c.toNat < 0x80 :=
  List.forall_mem_cons.mpr ⟨by decide, List.forall_mem_singleton.mpr ascii⟩

theorem ascii_shownChar (c : Char) : ∀ d ∈ shownChar c, d.toNat < 0x80 := by
  rw [shownChar]
  split_ifs with quoted _ _ _ _ _ printable
  · rcases quoted with rfl | rfl <;> exact ascii_letter (by decide)
  iterate 5 exact ascii_letter (by decide)
  · simp
    omega
  · rw [escapeUnits]
    split_ifs
    · exact ascii_unitEscape _
    · exact List.forall_mem_append.mpr ⟨ascii_unitEscape _, ascii_unitEscape _⟩

theorem ascii_quote (s : List Char) : ∀ c ∈ quote s, c.toNat < 0x80 := by
  rw [quote, List.cons_append, List.forall_mem_cons, List.forall_mem_append]
  refine ⟨by decide, fun c isIn => ?_, List.forall_mem_singleton.mpr (by decide)⟩
  obtain ⟨d, -, isShown⟩ := List.mem_flatMap.mp isIn
  exact ascii_shownChar d c isShown

theorem ascii_newLine (level : Nat) : ∀ c ∈ newLine level, c.toNat < 0x80 := by
  simp [newLine]

theorem ascii_intercalate {sep : List Char} {texts : List (List Char)}
    (between : ∀ c ∈ sep, c.toNat < 0x80) (parts : ∀ text ∈ texts, ∀ c ∈ text, c.toNat < 0x80) :
    ∀ c ∈ List.intercalate sep texts, c.toNat < 0x80 := by
  induction texts with
  | nil => simp
  | cons text texts ih =>
    obtain ⟨here, later⟩ := List.forall_mem_cons.mp parts
    cases texts with
    | nil => simpa using here
    | cons next texts =>
      rw [List.intercalate_cons_cons, List.forall_mem_append, List.forall_mem_append]
      exact ⟨⟨here, between⟩, ih later⟩

theorem ascii_bracketed {opening : Char} {texts : List (List Char)}
    (marks : opening.toNat < 0x80 ∧ closing.toNat < 0x80)
    (parts : ∀ text ∈ texts, ∀ c ∈ text, c.toNat < 0x80) :
    ∀ c ∈ bracketed opening closing level texts, c.toNat < 0x80 := by
  have comma : ∀ c ∈ ',' :: newLine (level + 1), c.toNat < 0x80 :=
    List.forall_mem_cons.mpr ⟨by decide, ascii_newLine (level + 1)⟩
  rw [bracketed]
  split
  · simpa using marks
  · rw [List.forall_mem_append, List.forall_mem_append, List.forall_mem_append,
      List.forall_mem_cons, List.forall_mem_singleton]
    exact ⟨⟨⟨⟨marks.1, ascii_newLine _⟩, ascii_intercalate comma parts⟩, ascii_newLine _⟩, marks.2⟩

mutual

/-- A document is written in ASCII. -/
theorem ascii_render : ∀ (value : JsonValue) (level : Nat), ∀ c ∈ render level value, c.toNat < 0x80
  | .null, _ => by simp [render]
  | .number n, _ => fun c isIn =>
    Numeral.forall_of_isPlainDigit (p := (·.toNat < 0x80)) (by decide)
      (isPlainDigit_of_mem_toDigits isIn)
  | .text s, _ => ascii_quote s
  | .array items, level => ascii_bracketed (by decide) (ascii_renderItems items (level + 1))
  | .object members, level => ascii_bracketed (by decide) (ascii_renderMembers members (level + 1))

theorem ascii_renderItems : ∀ (items : List JsonValue) (level : Nat),
    ∀ text ∈ renderItems level items, ∀ c ∈ text, c.toNat < 0x80
  | [], _ => by simp [renderItems]
  | item :: items, level =>
    List.forall_mem_cons.mpr ⟨ascii_render item level, ascii_renderItems items level⟩

theorem ascii_renderMembers : ∀ (members : List (List Char × JsonValue)) (level : Nat),
    ∀ text ∈ renderMembers level members, ∀ c ∈ text, c.toNat < 0x80
  | [], _ => by simp [renderMembers]
  | (name, value) :: members, level => by
    have shown : ∀ c ∈ ':' :: ' ' :: render level value, c.toNat < 0x80 := by
      simpa using ascii_render value level
    exact List.forall_mem_cons.mpr
      ⟨List.forall_mem_append.mpr ⟨ascii_quote name, shown⟩, ascii_renderMembers members level⟩

end

end SafeFetch.Text.JsonValue
