import Mathlib.Data.List.Perm.Subperm
import SafeFetch.Proofs.Disposition.ExtendedName

/-!
# Continued file names

A file name that is cut into numbered pieces is joined again. The pieces are bytes of the name, so a
piece with percent escapes may end inside a character; the bytes are read as a text only when all of
them are there. Pieces are looked for up to the first number that has none, whatever other
parameters there are.

A piece without escapes is text, and its bytes are those of the text in UTF-8. All bytes are read in
the character set that the first piece declares, so behind a piece that declares another one such a
piece need not stand for its own text: in Latin-1 it does only if it is ASCII.

## Main definitions

* `Piece`: a piece of a file name, with or without escapes;
* `Piece.IsGiven`: parameters hold a piece under its number;
* `GivesFrom`: parameters hold pieces from a number on, and none behind them.

## Main results

* `piecesFrom_of_givesFrom`: the pieces that are given are found;
* `continuedFileName_of_declared`: a name is read in the character set that its first piece declares;
* `continuedFileName_of_pieces`: the name whose bytes in UTF-8 the pieces are;
* `continuedFileName_latin1_iff`: when plain pieces stand for their own text in Latin-1.
-/

namespace SafeFetch.Disposition

open SafeFetch.Text

variable {ps : List Parameter} {n : Nat} {label language payload text : List Char}

/-! ## Numbers of pieces -/

/-- The number in the name of a parameter. -/
def keyNumber (key : List Char) : Nat := Nat.ofDigitChars 10 (key.filter Char.isDigit) 0

/-- The name of a plain piece tells its number. -/
theorem keyNumber_plainKey (n : Nat) : keyNumber (plainKey n) = n := by
  have digits : (Nat.toDigits 10 n).filter Char.isDigit = Nat.toDigits 10 n :=
    List.filter_eq_self.mpr fun c isIn => Nat.isDigit_of_mem_toDigits (by decide) (by decide) isIn
  -- In front of its number a name has letters and an asterisk.
  have front : (fileNameKey ++ ['*']).filter Char.isDigit = [] := by decide
  rw [keyNumber, plainKey, List.append_cons, List.filter_append, front, digits, List.nil_append,
    Nat.ofDigitChars_ten_toDigits]

/-- So does the name of an escaped piece. -/
theorem keyNumber_escapedKey (n : Nat) : keyNumber (escapedKey n) = n := by
  have plain := keyNumber_plainKey n
  rw [keyNumber] at plain ⊢
  rwa [escapedKey, List.filter_append, List.filter_cons_of_neg (by decide), List.filter_nil,
    List.append_nil]

/-! ## Pieces -/

/-- A piece of a continued file name: a text, or bytes that are written among percent escapes. -/
inductive Piece where
  | plain (text : List Char)
  | escaped (items : List Percent.WrittenByte)

namespace Piece

/-- The bytes of the name that are in a piece. -/
def bytes : Piece → List UInt8
  | .plain text => Utf8.encode text
  | .escaped items => items.map Percent.WrittenByte.byte

/-- Parameters hold a piece under the number `n`, with `heading` in front of it if it is escaped. A
plain piece has no escaped one beside it, while an escaped piece may stand beside any plain one. -/
def IsGiven (ps : List Parameter) (n : Nat) (heading : List Char) : Piece → Prop
  | .plain text => get? ps (escapedKey n) = none ∧ get? ps (plainKey n) = some text
  | .escaped items =>
    get? ps (escapedKey n) = some (heading ++ items.flatMap Percent.WrittenByte.chars)

instance {heading : List Char} : (piece : Piece) → Decidable (piece.IsGiven ps n heading)
  | .plain text =>
    inferInstanceAs (Decidable (get? ps (escapedKey n) = none ∧ get? ps (plainKey n) = some text))
  | .escaped items =>
    inferInstanceAs (Decidable
      (get? ps (escapedKey n) = some (heading ++ items.flatMap Percent.WrittenByte.chars)))

/-- A piece takes a parameter with its number. -/
theorem IsGiven.mem {heading : List Char} {piece : Piece} (given : piece.IsGiven ps n heading) :
    n ∈ ps.map fun p => keyNumber p.name := by
  have numbered {key value : List Char} (number : keyNumber key = n)
      (found : get? ps key = some value) : n ∈ ps.map fun p => keyNumber p.name :=
    List.mem_map.mpr ⟨⟨key, value⟩, mem_of_get? found, number⟩
  cases piece with
  | plain text => exact numbered (keyNumber_plainKey n) given.2
  | escaped items => exact numbered (keyNumber_escapedKey n) given

end Piece

/-- Parameters hold the given pieces under the numbers from `n` on, and none under the number behind
them. What they hold under later numbers does not count. -/
def GivesFrom (ps : List Parameter) : (n : Nat) → List Piece → Prop
  | n, [] => get? ps (escapedKey n) = none ∧ get? ps (plainKey n) = none
  | n, piece :: pieces => piece.IsGiven ps n [] ∧ GivesFrom ps (n + 1) pieces

instance decidableGivesFrom :
    (n : Nat) → (pieces : List Piece) → Decidable (GivesFrom ps n pieces)
  | n, [] =>
    inferInstanceAs (Decidable (get? ps (escapedKey n) = none ∧ get? ps (plainKey n) = none))
  | n, piece :: pieces =>
    have := decidableGivesFrom (n + 1) pieces
    inferInstanceAs (Decidable (piece.IsGiven ps n [] ∧ GivesFrom ps (n + 1) pieces))

/-- The numbers of pieces that are given are numbers of parameters. -/
theorem GivesFrom.range'_subset {pieces : List Piece} (gives : GivesFrom ps n pieces) :
    List.range' n pieces.length ⊆ ps.map fun p => keyNumber p.name := by
  induction pieces generalizing n with
  | nil => exact List.nil_subset _
  | cons piece pieces ih =>
    rw [List.length_cons, List.range'_succ]
    exact List.cons_subset.mpr ⟨gives.1.mem, ih gives.2⟩

/-- There are no more pieces than parameters. -/
theorem GivesFrom.length_le {pieces : List Piece} (gives : GivesFrom ps n pieces) :
    pieces.length ≤ ps.length := by
  -- Pieces have different numbers, so they take different parameters.
  have distinct : (List.range' n pieces.length).Nodup := List.nodup_range'
  have fewer := (distinct.subperm gives.range'_subset).length_le
  rwa [List.length_range', List.length_map] at fewer

/-- As many of the pieces as there can be are looked for, and those that are given are found. -/
theorem piecesFrom_of_givesFrom {pieces : List Piece} {count : Nat} (gives : GivesFrom ps n pieces)
    (enough : pieces.length ≤ count) : piecesFrom ps count n = pieces.map Piece.bytes := by
  -- The induction goes along the numbers, and the count is used up with them.
  induction pieces generalizing n count with
  | nil =>
    -- The search ends at the gap, or earlier because every parameter may have been a piece.
    cases count with
    | zero => rfl
    | succ count => simp only [piecesFrom, gives.1, gives.2, List.map_nil]
  | cons piece pieces ih =>
    obtain ⟨given, goesOn⟩ := gives
    obtain ⟨count, rfl⟩ : ∃ fewer, count = fewer + 1 :=
      Nat.exists_eq_succ_of_ne_zero (Nat.ne_of_gt (Nat.zero_lt_of_lt enough))
    have rest := ih goesOn (Nat.le_of_succ_le_succ enough)
    cases piece with
    | plain text =>
      obtain ⟨unescaped, found⟩ := given
      simp only [piecesFrom, unescaped, found, rest, List.map_cons, Piece.bytes]
    | escaped items =>
      -- The search does not come to a plain piece beside this one.
      have found : get? ps (escapedKey n) = some (items.flatMap Percent.WrittenByte.chars) := given
      simp only [piecesFrom, found, rest, List.map_cons, Piece.bytes, Percent.bytes_flatMap_chars]

section

variable [Platform]

/-! ## Names -/

/-- What an extended value has in front of its text: a label and a language, each with a quote behind
it. -/
def heading (label language : List Char) : List Char := label ++ '\'' :: (language ++ ['\''])

/-- Pieces behind one that declares a character set are joined to its bytes and read in this set. -/
theorem continuedFileName_of_declared {charset : Charset} {others : List Piece}
    (declares : Charset.Declares label charset) (silent : charset.decode? [] = some [])
    (unquoted : '\'' ∉ label) (unquoted' : '\'' ∉ language)
    (begins : get? ps (escapedKey 0) = some (heading label language ++ payload))
    (goesOn : GivesFrom ps 1 others) :
    continuedFileName ps =
      .ok (charset.decode? (Percent.bytes payload ++ others.flatMap Piece.bytes)) := by
  -- The value is cut at its first two quotes, so quotes in the payload do not count.
  have labelled : labelAndText? (heading label language ++ payload) = some (label, payload) := by
    rw [heading, List.append_assoc, List.cons_append, List.append_assoc, List.singleton_append]
    exact labelAndText?_append unquoted unquoted' payload
  have bare : label.isEmpty = false := List.isEmpty_eq_false_iff.mpr declares.ne_nil
  simp only [continuedFileName, begins, labelled, bare, Bool.false_eq_true, if_false,
    piecesFrom_of_givesFrom goesOn goesOn.length_le, decodeDeclared_of_declares declares silent,
    List.flatMap_def]

/-- Pieces behind one that declares nothing are joined to its bytes and read in UTF-8. -/
theorem continuedFileName_of_undeclared {others : List Piece}
    (begins : (Piece.plain text).IsGiven ps 0 []) (goesOn : GivesFrom ps 1 others) :
    continuedFileName ps =
      .ok (Charset.utf8.decode? (Utf8.encode text ++ others.flatMap Piece.bytes)) := by
  have isUtf8 : Charset.IsUtf8 defaultLabel := by decide
  obtain ⟨unescaped, found⟩ := begins
  simp only [continuedFileName, unescaped, found,
    piecesFrom_of_givesFrom goesOn goesOn.length_le,
    decodeDeclared_of_declares isUtf8.declares rfl, List.flatMap_def]

/-- Pieces whose bytes make up a text in UTF-8 give this text, wherever the text is cut, however each
of the pieces is written, and whatever other parameters there are. Only an escaped first piece has a
heading, which declares UTF-8. -/
theorem continuedFileName_of_pieces {first : Piece} {others : List Piece}
    (isUtf8 : Charset.IsUtf8 label) (unquoted : '\'' ∉ language)
    (begins : first.IsGiven ps 0 (heading label language)) (goesOn : GivesFrom ps 1 others)
    (encodes : (first :: others).flatMap Piece.bytes = Utf8.encode text) :
    continuedFileName ps = .ok (some text) := by
  -- A piece may end inside a character, so only the bytes of all pieces are a text.
  have joined : continuedFileName ps =
      .ok (Charset.utf8.decode? ((first :: others).flatMap Piece.bytes)) := by
    rw [List.flatMap_cons]
    cases first with
    | plain own => exact continuedFileName_of_undeclared begins goesOn
    | escaped items =>
      have declared := continuedFileName_of_declared isUtf8.declares rfl isUtf8.quoteFree unquoted
        begins goesOn
      rwa [Percent.bytes_flatMap_chars] at declared
  rw [joined, encodes, Charset.decode?, Utf8.decode?_encode]

end

/-- The name `ä'b%c` in pieces that cut the first letter and go on in text, with a percent sign in
it: `%C3`, `%a4'`, `b%` and `%63`. There are a plain piece beside the second, one behind a gap, and
a plain name. -/
def cutPieces : List Parameter :=
  [⟨"filename*2".toList, "b%".toList⟩, ⟨"filename".toList, "d".toList⟩,
    ⟨"filename*1".toList, "e".toList⟩, ⟨"filename*1*".toList, "%a4'".toList⟩,
    ⟨"filename*0*".toList, "UTF-8'de'%C3".toList⟩, ⟨"filename*5".toList, "f".toList⟩,
    ⟨"filename*3*".toList, "%63".toList⟩]

theorem continuedFileName_cutPieces :
    (Charset.IsUtf8 "UTF-8".toList ∧ '\'' ∉ "de".toList ∧
        (Piece.escaped [.escaped 0xC3 'C' '3' (by decide)]).IsGiven cutPieces 0
          (heading "UTF-8".toList "de".toList) ∧
        GivesFrom cutPieces 1
          [.escaped [.escaped 0xA4 'a' '4' (by decide), .plain '\'' (by decide) (by decide)],
            .plain "b%".toList, .escaped [.escaped 0x63 '6' '3' (by decide)]]) ∧
      continuedFileName cutPieces = .ok (some "ä'b%c".toList) := by
  have begins : (Piece.escaped [.escaped 0xC3 'C' '3' (by decide)]).IsGiven cutPieces 0
      (heading "UTF-8".toList "de".toList) := by decide
  have goesOn : GivesFrom cutPieces 1
      [.escaped [.escaped 0xA4 'a' '4' (by decide), .plain '\'' (by decide) (by decide)],
        .plain "b%".toList, .escaped [.escaped 0x63 '6' '3' (by decide)]] := by decide
  have isUtf8 : Charset.IsUtf8 "UTF-8".toList := by decide
  have unquoted : '\'' ∉ "de".toList := by decide
  exact ⟨⟨isUtf8, unquoted, begins, goesOn⟩,
    continuedFileName_of_pieces isUtf8 unquoted begins goesOn (by decide)⟩

/-! ## Plain pieces in another character set -/

/-- The bytes of plain pieces are those of all their text. -/
theorem flatMap_bytes_plain (texts : List (List Char)) :
    (texts.map Piece.plain).flatMap Piece.bytes = Utf8.encode texts.flatten := by
  induction texts with
  | nil => rfl
  | cons text texts ih =>
    rw [List.map_cons, List.flatMap_cons, ih, List.flatten_cons, Utf8.encode_append, Piece.bytes]

/-- Plain pieces behind one that declares Latin-1 are read in Latin-1, with the bytes that they have
in UTF-8. So they stand for their own text exactly if all of it is ASCII. -/
theorem continuedFileName_latin1_iff [Platform] {texts : List (List Char)}
    (declares : Charset.Declares label .latin1) (unquoted : '\'' ∉ label)
    (unquoted' : '\'' ∉ language)
    (begins : get? ps (escapedKey 0) = some (heading label language ++ payload))
    (goesOn : GivesFrom ps 1 (texts.map .plain)) :
    continuedFileName ps =
        .ok (some (Charset.decodeLatin1 (Percent.bytes payload ++ Utf8.encode texts.flatten))) ∧
      (continuedFileName ps =
          .ok (some (Charset.decodeLatin1 (Percent.bytes payload) ++ texts.flatten)) ↔
        ∀ text ∈ texts, ∀ c ∈ text, c.toNat < 0x80) := by
  have joined := continuedFileName_of_declared declares rfl unquoted unquoted' begins goesOn
  rw [flatMap_bytes_plain, Charset.decode?] at joined
  refine ⟨joined, ?_⟩
  have ascii : (∀ c ∈ texts.flatten, c.toNat < 0x80) ↔
      ∀ text ∈ texts, ∀ c ∈ text, c.toNat < 0x80 := by
    simp only [List.mem_flatten, forall_exists_index, and_imp]
    exact ⟨fun all text isIn c inText => all c text isIn inText,
      fun all c text isIn inText => all text isIn c inText⟩
  -- Both sides begin with the payload, and what is left is the bytes of the plain texts.
  rw [joined, Except.ok.injEq, Option.some.injEq, Charset.decodeLatin1_append,
    List.append_cancel_left_eq, Charset.decodeLatin1_encode_eq_iff, ascii]

/-- A first piece that declares Latin-1, and a plain one. -/
def latinPieces (tail : String) : List Parameter :=
  [⟨"filename*0*".toList, "ISO-8859-1''%E9".toList⟩, ⟨"filename*1".toList, tail.toList⟩]

theorem continuedFileName_latin1_ascii :
    (Charset.Declares "ISO-8859-1".toList .latin1 ∧ '\'' ∉ "ISO-8859-1".toList ∧
        get? (latinPieces ".txt") (escapedKey 0) =
          some (heading "ISO-8859-1".toList [] ++ "%E9".toList) ∧
        GivesFrom (latinPieces ".txt") 1 ([".txt".toList].map .plain)) ∧
      continuedFileName (latinPieces ".txt") = .ok (some "é.txt".toList) := by
  have declares : Charset.Declares "ISO-8859-1".toList .latin1 := ⟨rfl, by decide⟩
  have unquoted : '\'' ∉ "ISO-8859-1".toList := by decide
  have begins : get? (latinPieces ".txt") (escapedKey 0) =
      some (heading "ISO-8859-1".toList [] ++ "%E9".toList) := by decide
  have goesOn : GivesFrom (latinPieces ".txt") 1 ([".txt".toList].map .plain) := by decide
  have ascii : ∀ c ∈ ".txt".toList, c.toNat < 0x80 := List.all_iff_forall_prop.mp (by decide)
  exact ⟨⟨declares, unquoted, begins, goesOn⟩,
    (continuedFileName_latin1_iff declares unquoted List.not_mem_nil begins goesOn).2.mpr
      (List.forall_mem_singleton.mpr ascii)⟩

/-- A plain piece that is not ASCII does not stand for its own text. -/
theorem continuedFileName_latin1_garbled :
    continuedFileName (latinPieces "é") = .ok (some "éÃ©".toList) ∧
      continuedFileName (latinPieces "é") ≠
        .ok (some (Charset.decodeLatin1 (Percent.bytes "%E9".toList) ++ "é".toList)) := by
  have garbled : continuedFileName (latinPieces "é") = .ok (some "éÃ©".toList) := by decide
  exact ⟨garbled, by rw [garbled]; decide⟩

end SafeFetch.Disposition
