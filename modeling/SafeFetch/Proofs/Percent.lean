import SafeFetch.Percent
import SafeFetch.Proofs.Hex
import SafeFetch.Proofs.Utf8

/-!
# Percent escapes read back

Bytes that are written among percent escapes are read as they were. A byte is written as a percent
sign and two digits, or, if it is that of a character of ASCII other than the percent sign, as this
character.

## Main definitions

* `WrittenByte`: a byte as it may be written among percent escapes.

## Main results

* `WrittenByte.decodeBytes_append`: a byte is read as it was, whatever follows;
* `bytes_flatMap_chars_append`: so are all bytes of a text with escapes.
-/

namespace SafeFetch

open SafeFetch.Text

namespace Percent

variable {b high low : UInt8} {h l : Nat}

/-! ## Reading one byte -/

/-- A byte that is no percent sign stands for itself. -/
theorem decodeBytes_cons (plain : b ≠ 0x25) (rest : List UInt8) :
    decodeBytes (b :: rest) = b :: decodeBytes rest := by
  rcases rest with _ | ⟨second, _ | ⟨third, rest⟩⟩
  · rfl
  · rfl
  · rw [decodeBytes, if_neg plain]

/-- A percent sign and two digits stand for the byte that the digits are. -/
theorem decodeBytes_escape (isHigh : hexValue? high = some h) (isLow : hexValue? low = some l)
    (rest : List UInt8) :
    decodeBytes (0x25 :: high :: low :: rest) = UInt8.ofNat (16 * h + l) :: decodeBytes rest := by
  rw [decodeBytes, if_pos rfl, escaped?, isHigh, isLow]

/-- A digit is read through the character of its own byte. -/
theorem hexValue?_ofNat {digit : Char} {n : Nat} (small : n < 16)
    (isDigit : lowerAscii digit = Hex.digit n) :
    hexValue? (UInt8.ofNat digit.toNat) = some n := by
  obtain ⟨value, -, -, ascii⟩ := Hex.reads_of_lowerAscii small isDigit
  have ascii : digit.toNat < 128 := of_decide_eq_true ascii
  rw [hexValue?, Utf8.toNat_ofNat (by omega), Char.ofNat_toNat, value]

/-- The byte of a character of ASCII is a percent sign for this character only. -/
theorem ofNat_toNat_ne {c : Char} (ascii : c.toNat < 0x80) (noPercent : c ≠ '%') :
    UInt8.ofNat c.toNat ≠ 0x25 := by
  intro same
  have code := congrArg UInt8.toNat same
  rw [Utf8.toNat_ofNat (by omega)] at code
  exact noPercent (Char.toNat_inj.mp code)

/-! ## Written bytes -/

/-- A byte as it may be written among percent escapes. -/
inductive WrittenByte where
  | plain (c : Char) (ascii : c.toNat < 0x80) (noPercent : c ≠ '%')
  /-- Two digits behind a percent sign, each in either letter case. -/
  | escaped (byte : UInt8) (high low : Char) (isPair : [high, low].map lowerAscii = Hex.pair byte)

namespace WrittenByte

/-- A byte as it is written. -/
def chars : WrittenByte → List Char
  | .plain c _ _ => [c]
  | .escaped _ high low _ => ['%', high, low]

/-- The byte that is written. -/
def byte : WrittenByte → UInt8
  | .plain c _ _ => UInt8.ofNat c.toNat
  | .escaped byte _ _ _ => byte

/-- A byte is written in characters of ASCII. -/
theorem toNat_lt_of_mem (item : WrittenByte) {c : Char} (isIn : c ∈ item.chars) :
    c.toNat < 0x80 := by
  cases item with
  | plain c ascii noPercent =>
    obtain rfl := List.mem_singleton.mp isIn
    exact ascii
  | escaped byte high low isPair =>
    obtain ⟨isHigh, isLow⟩ := Hex.digits_of_isPair isPair
    have bound := byte.toNat_lt
    have ascii {digit : Char} {n : Nat} (small : n < 16) (isDigit : lowerAscii digit = Hex.digit n) :
        digit.toNat < 0x80 :=
      of_decide_eq_true (Hex.reads_of_lowerAscii small isDigit).2.2.2
    simp only [chars, List.mem_cons, List.not_mem_nil, or_false] at isIn
    rcases isIn with rfl | rfl | rfl
    · decide
    · exact ascii (by omega) isHigh
    · exact ascii (by omega) isLow

/-- A byte is read as it was, whatever follows. -/
theorem decodeBytes_append (item : WrittenByte) (rest : List UInt8) :
    decodeBytes (Utf8.encode item.chars ++ rest) = item.byte :: decodeBytes rest := by
  -- Every character has one byte, so the escapes can be read byte by byte.
  rw [Utf8.encode_of_ascii fun c isIn => item.toNat_lt_of_mem isIn]
  cases item with
  | plain c ascii noPercent => exact decodeBytes_cons (ofNat_toNat_ne ascii noPercent) rest
  | escaped byte high low isPair =>
    obtain ⟨isHigh, isLow⟩ := Hex.digits_of_isPair isPair
    have bound := byte.toNat_lt
    -- The two halves make up the byte again.
    have whole : 16 * (byte.toNat / 16) + byte.toNat % 16 = byte.toNat := by omega
    have read := decodeBytes_escape (hexValue?_ofNat (by omega) isHigh)
      (hexValue?_ofNat (by omega) isLow) rest
    rw [whole, UInt8.ofNat_toNat] at read
    exact read

end WrittenByte

/-- Written bytes are read as they were, whatever follows. -/
theorem bytes_flatMap_chars_append (items : List WrittenByte) (rest : List Char) :
    bytes (items.flatMap WrittenByte.chars ++ rest) =
      items.map WrittenByte.byte ++ bytes rest := by
  rw [bytes, bytes]
  induction items with
  | nil => rfl
  | cons item items ih =>
    rw [List.flatMap_cons, List.append_assoc, Utf8.encode_append,
      WrittenByte.decodeBytes_append, ih, List.map_cons, List.cons_append]

/-- Written bytes alone are read as they were. -/
theorem bytes_flatMap_chars (items : List WrittenByte) :
    bytes (items.flatMap WrittenByte.chars) = items.map WrittenByte.byte := by
  have read := bytes_flatMap_chars_append items []
  rw [List.append_nil] at read
  rw [read]
  exact List.append_nil _

end Percent

end SafeFetch
