import SafeFetch.Digest.Expected

/-!
# Hexadecimal text read back

Bytes that were written as pairs of hexadecimal digits are read back from that text, and from any
text that differs from it in the case of letters only.

## Main definitions

* `Expected.Spells`: an expected digest is given as bytes, or as their text in some letter case.

## Main results

* `map_lowerAscii_eq_pair`: two digits are the pair of a byte;
* `decode_of_lowerAscii`: text in any letter case is read as the bytes it was written from;
* `Expected.Spells.decode_eq`: so is an expected digest.
-/

namespace SafeFetch

open SafeFetch.Text

namespace Text.Hex

variable {c : Char} {n : Nat} {s : List Char} {bytes : List UInt8}

/-! ## Digits -/

/-- A character whose small letter is a digit is the digit, in one case or the other. -/
theorem eq_of_lowerAscii (small : n < 16) (lower : lowerAscii c = digit n) :
    c = digit n ∨ c = capitalDigit n := by
  rw [lowerAscii] at lower
  split at lower
  next capital =>
    right
    have bounds : 65 ≤ c.toNat ∧ c.toNat ≤ 90 := capital
    -- The small letter of a capital is 32 further, and so is a digit beyond nine.
    have isValid : (c.toNat + 32).isValidChar := .inl (by omega)
    have codes : (digit n).toNat = c.toNat + 32 := by
      rw [← lower, Char.ofNat, dif_pos isValid]
      rfl
    have apart : ∀ n < 16, (digit n).toNat < 65 ∨
        (digit n).toNat = (capitalDigit n).toNat + 32 := by decide
    apply Char.toNat_inj.mp
    rcases apart n small with below | further
    · omega
    · omega
  next => exact .inl lower

/-- What the reader makes of such a character. -/
theorem reads_of_lowerAscii (small : n < 16) (lower : lowerAscii c = digit n) :
    digitValue? c = some n ∧ isAsciiBlank c = false ∧ isBlank c = false ∧ isAscii c = true := by
  have digits : ∀ n < 16, digitValue? (digit n) = some n ∧ isAsciiBlank (digit n) = false ∧
      isBlank (digit n) = false ∧ isAscii (digit n) = true := by decide
  have capitals : ∀ n < 16, digitValue? (capitalDigit n) = some n ∧
      isAsciiBlank (capitalDigit n) = false ∧ isBlank (capitalDigit n) = false ∧
        isAscii (capitalDigit n) = true := by decide
  rcases eq_of_lowerAscii small lower with rfl | rfl
  · exact digits n small
  · exact capitals n small

/-- The two digits of a byte, in whatever letter case. -/
theorem digits_of_isPair {byte : UInt8} {high low : Char}
    (isPair : [high, low].map lowerAscii = pair byte) :
    lowerAscii high = digit (byte.toNat / 16) ∧ lowerAscii low = digit (byte.toNat % 16) := by
  simpa [pair] using isPair

/-- A character with a value is a digit of this value. -/
theorem lowerAscii_of_digitValue? (value : digitValue? c = some n) :
    n < 16 ∧ lowerAscii c = digit n := by
  -- There are few enough characters of ASCII to look at each of them.
  have small : ∀ k < 128, ∀ value ∈ digitValue? (Char.ofNat k),
      value < 16 ∧ lowerAscii (Char.ofNat k) = digit value := by decide +kernel
  have ascii : c.toNat < 128 := by
    rw [digitValue?] at value
    split at value
    next decimal => exact Nat.lt_of_le_of_lt decimal.2 (by decide)
    next =>
      split at value
      next letter => exact Nat.lt_of_le_of_lt letter.2 (by decide)
      next =>
        split at value
        next capital => exact Nat.lt_of_le_of_lt capital.2 (by decide)
        next => cases value
  have here := small c.toNat ascii n
  rw [Char.ofNat_toNat] at here
  exact here value

/-- Two digits are the pair of the byte that they are the halves of, in whatever letter case. -/
theorem map_lowerAscii_eq_pair {high low : Char} {h l : Nat} (isHigh : digitValue? high = some h)
    (isLow : digitValue? low = some l) :
    [high, low].map lowerAscii = pair (UInt8.ofNat (16 * h + l)) := by
  obtain ⟨smallHigh, lowerHigh⟩ := lowerAscii_of_digitValue? isHigh
  obtain ⟨smallLow, lowerLow⟩ := lowerAscii_of_digitValue? isLow
  have value : (UInt8.ofNat (16 * h + l)).toNat = 16 * h + l :=
    UInt8.toNat_ofNat_of_lt' (show 16 * h + l < 256 by omega)
  rw [pair, value, show (16 * h + l) / 16 = h by omega, show (16 * h + l) % 16 = l by omega]
  simp [lowerHigh, lowerLow]

/-! ## Texts -/

theorem encode_cons (byte : UInt8) (bytes : List UInt8) :
    encode (byte :: bytes) =
      digit (byte.toNat / 16) :: digit (byte.toNat % 16) :: encode bytes := rfl

/-- Every character of such a text is a digit. -/
theorem exists_digit_of_mem (lower : s.map lowerAscii = encode bytes) (isIn : c ∈ s) :
    ∃ n < 16, lowerAscii c = digit n := by
  have isDigit : lowerAscii c ∈ encode bytes := lower ▸ List.mem_map_of_mem isIn
  obtain ⟨byte, -, isHalf⟩ := List.mem_flatMap.mp isDigit
  have bound := byte.toNat_lt
  simp only [pair, List.mem_cons, List.not_mem_nil, or_false] at isHalf
  rcases isHalf with high | low
  · exact ⟨byte.toNat / 16, by omega, high⟩
  · exact ⟨byte.toNat % 16, by omega, low⟩

/-- A pair of digits is read as its byte, and then the rest is. -/
theorem decodeFrom_pair {byte : UInt8} {high low : Char} (start : Nat)
    (isPair : [high, low].map lowerAscii = pair byte) (rest : List Char) :
    decodeFrom start (high :: low :: rest) = (decodeFrom (start + 2) rest).map (byte :: ·) := by
  obtain ⟨isHigh, isLow⟩ := digits_of_isPair isPair
  have bound := byte.toNat_lt
  obtain ⟨isHigh, notBlank, -⟩ := reads_of_lowerAscii (by omega) isHigh
  obtain ⟨isLow, -⟩ := reads_of_lowerAscii (by omega) isLow
  -- The two halves make up the byte again.
  have whole : 16 * (byte.toNat / 16) + byte.toNat % 16 = byte.toNat := by omega
  rw [decodeFrom.eq_def]
  simp only [notBlank, Bool.false_eq_true, if_false, isHigh, isLow, whole, UInt8.ofNat_toNat]

/-- Pairs of digits are read back, from any position on. -/
theorem decodeFrom_of_lowerAscii (start : Nat) (lower : s.map lowerAscii = encode bytes) :
    decodeFrom start s = .ok bytes := by
  induction bytes generalizing s start with
  | nil =>
    obtain rfl := List.map_eq_nil_iff.mp lower
    rfl
  | cons byte bytes ih =>
    rw [encode_cons] at lower
    obtain ⟨c, tail, rfl, high, lower⟩ := List.map_eq_cons_iff.mp lower
    obtain ⟨d, rest, rfl, low, lower⟩ := List.map_eq_cons_iff.mp lower
    have isPair : [c, d].map lowerAscii = pair byte := by simp [pair, high, low]
    rw [decodeFrom_pair start isPair, ih (start + 2) lower]
    rfl

/-- Text in any letter case is read as the bytes it was written from. -/
theorem decode_of_lowerAscii (lower : s.map lowerAscii = encode bytes) :
    decode s = .ok bytes := by
  have isPlain : s.findIdx? (fun c => !isAscii c) = none := by
    rw [List.findIdx?_eq_none_iff]
    intro c isIn
    obtain ⟨n, small, isDigit⟩ := exists_digit_of_mem lower isIn
    obtain ⟨-, -, -, ascii⟩ := reads_of_lowerAscii small isDigit
    rw [ascii, Bool.not_true]
  rw [decode, isPlain]
  exact decodeFrom_of_lowerAscii 0 lower

/-- Nothing is trimmed from such a text. -/
theorem trim_of_lowerAscii (lower : s.map lowerAscii = encode bytes) : trim s = s := by
  apply trimWhile_eq_self
  intro c isIn
  obtain ⟨n, small, isDigit⟩ := exists_digit_of_mem lower isIn
  obtain ⟨-, -, notBlank, -⟩ := reads_of_lowerAscii small isDigit
  exact notBlank

end Text.Hex

/-! ## Expected digests -/

/-- An expected digest is given as its bytes, or as their text in some letter case. -/
def Expected.Spells (digest : List UInt8) : Expected → Prop
  | .bytes given => given = digest
  | .text digits => digits.toList.map lowerAscii = Hex.encode digest
  | .withheld => False

/-- An expected digest that spells bytes is read as these bytes. -/
theorem Expected.Spells.decode_eq {digest : List UInt8} {expected : Expected}
    (spells : expected.Spells digest) : expected.decode = .ok digest := by
  cases expected with
  | bytes given =>
    obtain rfl : given = digest := spells
    rfl
  | text digits =>
    rw [Expected.decode, Hex.trim_of_lowerAscii spells, Hex.decode_of_lowerAscii spells]
    rfl
  | withheld => exact False.elim spells

end SafeFetch
