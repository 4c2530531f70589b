import SafeFetch.Text.Blank
import SafeFetch.Text.Hex
import SafeFetch.Text.Utf8

/-!
# Percent escapes

A byte may be written as a percent sign and two hexadecimal digits. Reading replaces every such
escape by its byte and keeps a percent sign that begins none. Writing escapes the bytes of every
character outside a given set and, on request, leaves escapes that are already there alone.
-/

namespace SafeFetch.Percent

open SafeFetch.Text

/-- The value of a byte that is a hexadecimal digit. -/
def hexValue? (b : UInt8) : Option Nat := Hex.digitValue? (Char.ofNat b.toNat)

/-- The byte written by two hexadecimal digits. -/
def escaped? (high low : UInt8) : Option UInt8 :=
  match hexValue? high, hexValue? low with
  | some h, some l => some (UInt8.ofNat (16 * h + l))
  | _, _ => none

/-- Replace every escape by the byte it stands for. -/
def decodeBytes : List UInt8 → List UInt8
  | [] => []
  | b :: high :: low :: rest =>
    if b = 0x25 then
      match escaped? high low with
      | some byte => byte :: decodeBytes rest
      | none => b :: decodeBytes (high :: low :: rest)
    else b :: decodeBytes (high :: low :: rest)
  | b :: rest => b :: decodeBytes rest

/-- The bytes that a text with escapes stands for. -/
def bytes (s : List Char) : List UInt8 := decodeBytes (Utf8.encode s)

/-- The text that a stretch of ASCII with escapes stands for. -/
def decodeStretch (s : List Char) : List Char := Utf8.decodeLossy (bytes s)

/-- The text that a text with escapes stands for. Each longest stretch of ASCII is read by itself,
so an escaped character must not be interrupted by a character beyond ASCII. -/
def decode (s : List Char) : List Char :=
  let (stretch, read) := s.foldr
    (fun c (stretch, read) =>
      if isAscii c then (c :: stretch, read) else ([], c :: (decodeStretch stretch ++ read)))
    ([], [])
  decodeStretch stretch ++ read

/-- The escape of one byte, in capitals. -/
def escape (b : UInt8) : List Char :=
  ['%', Hex.capitalDigit (b.toNat / 16), Hex.capitalDigit (b.toNat % 16)]

/-- The escapes of the bytes of one character. -/
def escapeChar (c : Char) : List Char := (Utf8.encodeChar c).flatMap escape

/-- Escape every character that is not `safe`, leaving escapes that are already there alone. -/
def encode (safe : Char → Bool) : List Char → List Char
  | [] => []
  | c :: high :: low :: rest =>
    if c = '%' ∧ (Hex.digitValue? high).isSome ∧ (Hex.digitValue? low).isSome then
      c :: high :: low :: encode safe rest
    else (if safe c then [c] else escapeChar c) ++ encode safe (high :: low :: rest)
  | c :: rest => (if safe c then [c] else escapeChar c) ++ encode safe rest

end SafeFetch.Percent
