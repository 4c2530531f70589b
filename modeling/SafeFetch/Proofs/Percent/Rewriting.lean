import SafeFetch.Proofs.Percent
import SafeFetch.Proofs.Utf8.Lossy

/-!
# Percent escapes written anew

Escaping what has no place in a part of a URL leaves the text that the part stands for as it is.
Escapes that are there already are kept, a percent sign that begins none stays one even if it is
escaped, and no new escape comes into being: the two characters behind a percent sign are digits
after the escaping only if they were digits before.

The text is read one longest stretch of ASCII at a time, while escaping turns characters beyond ASCII
into ASCII and so merges stretches. This makes no difference either, since a character beyond ASCII
cuts the bytes, whatever stands around it, in two parts that are read by themselves.

## Main definitions

* `StartsPair`: a text begins with the two digits of an escape.

## Main results

* `bytes_encode`: escaping keeps the bytes that a text stands for;
* `decode_eq_decodeLossy`: a text stands for what its bytes are read as, all at once;
* `decode_encode`: escaping keeps the text that a text stands for.
-/

namespace SafeFetch

open SafeFetch.Text

namespace Percent

variable {c : Char} {s t rest : List Char} {b : UInt8} {front tail : List UInt8}
  {safe : Char → Bool}

/-! ## Where an escape is -/

/-- A text begins with the two digits of an escape. -/
def StartsPair (s : List Char) : Prop :=
  ∃ high low rest, s = high :: low :: rest ∧ (Hex.digitValue? high).isSome = true ∧
    (Hex.digitValue? low).isSome = true

/-- Two characters that are not both digits begin no pair. -/
theorem not_startsPair {high low : Char}
    (noPair : ¬((Hex.digitValue? high).isSome = true ∧ (Hex.digitValue? low).isSome = true)) :
    ¬StartsPair (high :: low :: rest) := by
  rintro ⟨high', low', rest', same, isHigh, isLow⟩
  simp only [List.cons.injEq] at same
  obtain ⟨rfl, rfl, -⟩ := same
  exact noPair ⟨isHigh, isLow⟩

/-- A text of one character or none begins with no pair. -/
theorem not_startsPair_of_short (short : ∀ high low rest', rest = high :: low :: rest' → False) :
    ¬StartsPair rest := by
  rintro ⟨high, low, rest', same, -⟩
  exact short high low rest' same

/-- The code point of the character that a byte is by itself. -/
theorem toNat_charOf (b : UInt8) : (Char.ofNat b.toNat).toNat = b.toNat := by
  have bound := b.toNat_lt
  have isValid : b.toNat.isValidChar := .inl (by omega)
  rw [Char.ofNat, dif_pos isValid]
  rfl

/-- A byte that is a digit belongs to ASCII. -/
theorem lt_of_isSome_hexValue? (isDigit : (hexValue? b).isSome = true) : b.toNat < 0x80 := by
  obtain ⟨n, value⟩ := Option.isSome_iff_exists.mp isDigit
  obtain ⟨small, isDigit⟩ := Hex.lowerAscii_of_digitValue? value
  have ascii := of_decide_eq_true (Hex.reads_of_lowerAscii small isDigit).2.2.2
  rwa [toNat_charOf] at ascii

/-- Two bytes write a byte exactly if both are digits. -/
theorem isSome_escaped? (high low : UInt8) :
    (escaped? high low).isSome = true ↔
      (hexValue? high).isSome = true ∧ (hexValue? low).isSome = true := by
  rw [escaped?]
  cases hexValue? high <;> cases hexValue? low <;> simp

/-- If the bytes of a text begin with one of ASCII, the text begins with the character of it. -/
theorem exists_of_encode_eq_cons (ascii : b.toNat < 0x80) (starts : Utf8.encode s = b :: tail) :
    ∃ rest, s = Char.ofNat b.toNat :: rest ∧ Utf8.encode rest = tail := by
  cases s with
  | nil => cases starts
  | cons c s =>
    by_cases isPlain : c.toNat < 0x80
    · rw [Utf8.encode_cons, Utf8.encodeChar_of_ascii isPlain] at starts
      obtain ⟨rfl, rfl⟩ := List.cons.inj starts
      refine ⟨s, ?_, rfl⟩
      rw [Utf8.toNat_ofNat (by omega), Char.ofNat_toNat]
    · have large := Utf8.le_of_encode_eq_cons (Nat.le_of_not_lt isPlain) starts
      omega

/-! ## Reading character by character -/

/-- An escape stands for one byte. -/
theorem bytes_escape {high low : Char} {h l : Nat} (isHigh : Hex.digitValue? high = some h)
    (isLow : Hex.digitValue? low = some l) (rest : List Char) :
    bytes ('%' :: high :: low :: rest) = UInt8.ofNat (16 * h + l) :: bytes rest :=
  bytes_flatMap_chars_append
    [.escaped (UInt8.ofNat (16 * h + l)) high low (Hex.map_lowerAscii_eq_pair isHigh isLow)] rest

/-- Bytes without a percent sign stand for themselves. -/
theorem decodeBytes_append_of_plain (plain : ∀ b ∈ front, b ≠ 0x25) (rest : List UInt8) :
    decodeBytes (front ++ rest) = front ++ decodeBytes rest := by
  induction front with
  | nil => rfl
  | cons b front ih =>
    rw [List.forall_mem_cons] at plain
    rw [List.cons_append, decodeBytes_cons plain.1, ih plain.2, List.cons_append]

/-- No byte of a character is a percent sign unless the character is one. -/
theorem ne_of_mem_encodeChar (other : c ≠ '%') : ∀ b ∈ Utf8.encodeChar c, b ≠ 0x25 := by
  intro b isIn
  by_cases isPlain : c.toNat < 0x80
  · rw [Utf8.encodeChar_of_ascii isPlain] at isIn
    obtain rfl := List.mem_singleton.mp isIn
    exact ofNat_toNat_ne isPlain other
  · have large := Utf8.le_of_mem_encodeChar (Nat.le_of_not_lt isPlain) b isIn
    rintro rfl
    exact absurd large (by decide)

/-- A byte in front of no two digits stands for itself, also if it is a percent sign. -/
theorem decodeBytes_stray
    (stray : ∀ high low later, tail = high :: low :: later → escaped? high low = none) :
    decodeBytes (b :: tail) = b :: decodeBytes tail := by
  rcases tail with _ | ⟨high, _ | ⟨low, later⟩⟩
  · rfl
  · rfl
  · rw [decodeBytes, stray high low later rfl]
    split <;> rfl

/-- Such a byte is the percent sign in front of a text that begins with no pair. -/
theorem decodeBytes_percent (noPair : ¬StartsPair rest) :
    decodeBytes (0x25 :: Utf8.encode rest) = 0x25 :: decodeBytes (Utf8.encode rest) := by
  apply decodeBytes_stray
  intro high low later whole
  rw [← Option.not_isSome_iff_eq_none, isSome_escaped?]
  rintro ⟨isHigh, isLow⟩
  -- Two bytes that are digits are two characters that are digits.
  obtain ⟨first, rfl, onward⟩ := exists_of_encode_eq_cons (lt_of_isSome_hexValue? isHigh) whole
  obtain ⟨second, rfl, -⟩ := exists_of_encode_eq_cons (lt_of_isSome_hexValue? isLow) onward
  exact noPair ⟨_, _, second, rfl, isHigh, isLow⟩

/-- A character that begins no escape stands for its own bytes. -/
theorem bytes_cons (noEscape : c = '%' → ¬StartsPair rest) :
    bytes (c :: rest) = Utf8.encodeChar c ++ bytes rest := by
  rw [bytes, bytes, Utf8.encode_cons]
  by_cases percent : c = '%'
  · subst percent
    exact decodeBytes_percent (noEscape rfl)
  · exact decodeBytes_append_of_plain (ne_of_mem_encodeChar percent) _

/-! ## Escaping -/

/-- The escape of a byte is a way to write it. -/
theorem exists_chars_eq_escape (b : UInt8) :
    ∃ item : WrittenByte, item.chars = escape b ∧ item.byte = b := by
  have lower : ∀ n < 16, lowerAscii (Hex.capitalDigit n) = Hex.digit n := by decide
  have bound := b.toNat_lt
  refine ⟨.escaped b _ _ ?_, rfl, rfl⟩
  simp only [List.map_cons, List.map_nil, lower (b.toNat / 16) (by omega),
    lower (b.toNat % 16) (by omega)]
  rfl

/-- The escapes of the bytes of a character stand for these bytes. -/
theorem bytes_escapeChar_append (c : Char) (rest : List Char) :
    bytes (escapeChar c ++ rest) = Utf8.encodeChar c ++ bytes rest := by
  rw [escapeChar]
  generalize Utf8.encodeChar c = written
  induction written with
  | nil => rfl
  | cons b written ih =>
    obtain ⟨item, chars, byte⟩ := exists_chars_eq_escape b
    have read := bytes_flatMap_chars_append [item] (written.flatMap escape ++ rest)
    rw [List.flatMap_singleton, List.map_singleton, chars, byte] at read
    rw [List.flatMap_cons, List.append_assoc, read, ih]
    rfl

/-- An escape that is there already is kept. -/
theorem encode_escape {high low : Char} (isHigh : (Hex.digitValue? high).isSome = true)
    (isLow : (Hex.digitValue? low).isSome = true) (rest : List Char) :
    encode safe ('%' :: high :: low :: rest) = '%' :: high :: low :: encode safe rest := by
  rw [encode, if_pos ⟨rfl, isHigh, isLow⟩]

/-- A character that begins no escape is kept if it is safe and is escaped otherwise. -/
theorem encode_cons (noEscape : c = '%' → ¬StartsPair rest) :
    encode safe (c :: rest) = (if safe c then [c] else escapeChar c) ++ encode safe rest := by
  rcases rest with _ | ⟨high, _ | ⟨low, rest⟩⟩
  · rfl
  · rfl
  · have noPair : ¬(c = '%' ∧ (Hex.digitValue? high).isSome ∧ (Hex.digitValue? low).isSome) := by
      rintro ⟨percent, isHigh, isLow⟩
      exact noEscape percent ⟨high, low, rest, rfl, isHigh, isLow⟩
    rw [encode, if_neg noPair]

/-- A text begins with a percent sign after the escaping, or its first character is kept. -/
theorem encode_cons_cases (safe : Char → Bool) (c : Char) (rest : List Char) :
    (∃ t, encode safe (c :: rest) = '%' :: t) ∨
      encode safe (c :: rest) = c :: encode safe rest := by
  by_cases isEscape : c = '%' ∧ StartsPair rest
  · obtain ⟨rfl, high, low, rest, rfl, isHigh, isLow⟩ := isEscape
    exact .inl ⟨_, encode_escape isHigh isLow rest⟩
  · rw [encode_cons fun percent pair => isEscape ⟨percent, pair⟩]
    split
    next => exact .inr rfl
    next =>
      -- Every character has a byte, so something is escaped.
      obtain ⟨b, later, isFirst⟩ := List.exists_cons_of_ne_nil (Utf8.encodeChar_ne_nil c)
      rw [escapeChar, isFirst]
      exact .inl ⟨_, rfl⟩

/-- Escaping leaves something of a text. -/
theorem encode_ne_nil (some : s ≠ []) : encode safe s ≠ [] := by
  obtain ⟨c, rest, rfl⟩ := List.exists_cons_of_ne_nil some
  rcases encode_cons_cases safe c rest with ⟨t, escaped⟩ | kept
  · rw [escaped]
    exact List.cons_ne_nil _ _
  · rw [kept]
    exact List.cons_ne_nil _ _

/-- If a text begins with another character than a percent sign after the escaping, it began with
this character before. -/
theorem exists_of_encode_eq_cons_of_ne (starts : encode safe s = c :: t) (other : c ≠ '%') :
    ∃ rest, s = c :: rest ∧ encode safe rest = t := by
  cases s with
  | nil => cases starts
  | cons d s =>
    rcases encode_cons_cases safe d s with ⟨t', escaped⟩ | kept
    · rw [escaped] at starts
      exact absurd (List.cons.inj starts).1.symm other
    · rw [kept] at starts
      obtain ⟨rfl, rfl⟩ := List.cons.inj starts
      exact ⟨s, rfl, rfl⟩

/-- Two digits at the front of a text were there before the escaping. -/
theorem startsPair_of_encode (pair : StartsPair (encode safe s)) : StartsPair s := by
  obtain ⟨high, low, rest, whole, isHigh, isLow⟩ := pair
  have notPercent {digit : Char} (isDigit : (Hex.digitValue? digit).isSome = true) :
      digit ≠ '%' := by
    rintro rfl
    exact absurd isDigit (by decide)
  obtain ⟨first, rfl, onward⟩ := exists_of_encode_eq_cons_of_ne whole (notPercent isHigh)
  obtain ⟨second, rfl, -⟩ := exists_of_encode_eq_cons_of_ne onward (notPercent isLow)
  exact ⟨high, low, second, rfl, isHigh, isLow⟩

/-- Escaping one character keeps the bytes, if escaping what follows does. -/
theorem bytes_encode_cons (noEscape : c = '%' → ¬StartsPair rest)
    (later : bytes (encode safe rest) = bytes rest) :
    bytes ((if safe c then [c] else escapeChar c) ++ encode safe rest) = bytes (c :: rest) := by
  rw [bytes_cons noEscape, ← later]
  split
  next => exact bytes_cons fun percent pair => noEscape percent (startsPair_of_encode pair)
  next => exact bytes_escapeChar_append c _

/-- Escaping keeps the bytes that a text stands for. -/
theorem bytes_encode (safe : Char → Bool) (s : List Char) : bytes (encode safe s) = bytes s := by
  -- One escape or one character is taken off in each step. The last two cases are one: too few
  -- characters are left for an escape, or they are none.
  fun_induction encode safe s with
  | case1 => rfl
  | case2 c high low rest isEscape ih =>
    obtain ⟨rfl, isHigh, isLow⟩ := isEscape
    obtain ⟨h, isHigh⟩ := Option.isSome_iff_exists.mp isHigh
    obtain ⟨l, isLow⟩ := Option.isSome_iff_exists.mp isLow
    rw [bytes_escape isHigh isLow, bytes_escape isHigh isLow, ih]
  | case3 c high low rest noEscape ih =>
    refine bytes_encode_cons (fun percent => not_startsPair fun pair => ?_) ih
    exact noEscape ⟨percent, pair⟩
  | case4 c rest short ih =>
    refine bytes_encode_cons (fun percent => not_startsPair_of_short fun high low rest' whole => ?_)
      ih
    exact short high low rest' whole

/-! ## Reading all stretches at once -/

/-- In front of a byte that is no digit, bytes are cut in two parts that stand for what they stand
for by themselves. -/
theorem decodeBytes_append_of_no_digit (front : List UInt8)
    (noDigit : ∀ b ∈ tail.head?, hexValue? b = none) :
    decodeBytes (front ++ tail) = decodeBytes front ++ decodeBytes tail := by
  fun_induction decodeBytes front with
  | case1 => rfl
  | case2 high low rest byte isPair ih =>
    simp only [List.cons_append, decodeBytes, if_true, isPair, ih]
  | case3 high low rest noPair ih =>
    simp only [List.cons_append] at ih
    simp only [List.cons_append, decodeBytes, if_true, noPair, ih]
  | case4 b high low rest plain ih =>
    rw [List.cons_append, decodeBytes_cons plain, ih, List.cons_append]
  | case5 b rest short ih =>
    rw [List.cons_append, List.cons_append, ← ih]
    -- One of the two bytes behind is the first one of the second part.
    apply decodeBytes_stray
    intro high low later whole
    rw [← Option.not_isSome_iff_eq_none, isSome_escaped?]
    rintro ⟨isHigh, isLow⟩
    rcases rest with _ | ⟨only, _ | ⟨next, rest⟩⟩
    · have isFirst : high ∈ tail.head? := congrArg List.head? whole
      simp [noDigit high isFirst] at isHigh
    · have isFirst : low ∈ tail.head? := congrArg List.head? (List.cons.inj whole).2
      simp [noDigit low isFirst] at isLow
    · exact short only next rest rfl

/-- A character beyond ASCII cuts the bytes of a text. -/
theorem bytes_append_cons (front : List Char) (beyond : isAscii c = false) (rest : List Char) :
    bytes (front ++ c :: rest) = bytes front ++ (Utf8.encodeChar c ++ bytes rest) := by
  have large : 0x80 ≤ c.toNat := by simpa [isAscii] using beyond
  have noPercent : c ≠ '%' := by
    rintro rfl
    exact absurd large (by decide)
  rw [← bytes_cons fun percent => absurd percent noPercent, bytes, bytes, bytes,
    Utf8.encode_append]
  apply decodeBytes_append_of_no_digit
  intro b isFirst
  rw [← Option.not_isSome_iff_eq_none]
  intro isDigit
  -- A digit belongs to ASCII, and the first byte of the character does not.
  have small := lt_of_isSome_hexValue? isDigit
  obtain ⟨later, whole⟩ := List.head?_eq_some_iff.mp isFirst
  have beyond := Utf8.le_of_encode_eq_cons large whole
  omega

/-- A stretch of ASCII is put together from its end. -/
theorem foldr_of_ascii {f : Char → List Char × List Char → List Char × List Char}
    (adds : ∀ c, isAscii c = true → ∀ p, f c p = (c :: p.1, p.2))
    (ascii : ∀ c ∈ s, isAscii c = true) (p : List Char × List Char) :
    s.foldr f p = (s ++ p.1, p.2) := by
  induction s with
  | nil => rfl
  | cons c s ih =>
    rw [List.forall_mem_cons] at ascii
    rw [List.foldr_cons, ih ascii.2, adds c ascii.1, List.cons_append]

/-- A text of ASCII is one stretch. -/
theorem decode_of_ascii (ascii : ∀ c ∈ s, isAscii c = true) :
    decode s = Utf8.decodeLossy (bytes s) := by
  rw [decode, foldr_of_ascii _ ascii]
  · simp only [List.append_nil, decodeStretch]
  · intro c isAscii p
    simp only [isAscii, if_true]

/-- A stretch of ASCII ends in front of a character beyond ASCII. -/
theorem decode_append_cons (ascii : ∀ c ∈ s, isAscii c = true) (beyond : isAscii c = false)
    (rest : List Char) :
    decode (s ++ c :: rest) = Utf8.decodeLossy (bytes s) ++ c :: decode rest := by
  rw [decode, List.foldr_append, foldr_of_ascii _ ascii]
  · simp only [List.foldr_cons, beyond, Bool.false_eq_true, if_false, List.append_nil,
      decodeStretch]
    rfl
  · intro c isAscii p
    simp only [isAscii, if_true]

/-- A text stands for what its bytes are read as, all at once. -/
theorem decode_eq_decodeLossy (s : List Char) : decode s = Utf8.decodeLossy (bytes s) := by
  -- The longest stretch of ASCII in front is taken off, together with the character that ends it.
  induction length : s.length using Nat.strongRecOn generalizing s with
  | ind k ih =>
    cases first : s.find? fun c => !isAscii c with
    | none =>
      apply decode_of_ascii
      intro c isIn
      simpa using List.find?_eq_none.mp first c isIn
    | some c =>
      obtain ⟨beyond, stretch, rest, rfl, ascii⟩ := List.find?_eq_some_iff_append.mp first
      have beyond : isAscii c = false := by simpa using beyond
      have ascii : ∀ c ∈ stretch, isAscii c = true := by
        intro c isIn
        simpa using ascii c isIn
      have shorter : rest.length < k := by
        rw [← length, List.length_append, List.length_cons]
        omega
      rw [decode_append_cons ascii beyond, ih rest.length shorter rest rfl,
        bytes_append_cons stretch beyond, Utf8.decodeLossy_append_encodeChar]

/-- Escaping keeps the text that a text stands for. -/
theorem decode_encode (safe : Char → Bool) (s : List Char) : decode (encode safe s) = decode s := by
  rw [decode_eq_decodeLossy, decode_eq_decodeLossy, bytes_encode]

end Percent

end SafeFetch
