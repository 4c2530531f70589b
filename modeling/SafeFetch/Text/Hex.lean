import SafeFetch.Text.Blank

/-!
# Hexadecimal text

Bytes written as pairs of hexadecimal digits, and the reader that undoes it. The reader accepts
either letter case and any ASCII white space between pairs, never inside one; text that it refuses
is reported by the position of the character at fault.
-/

namespace SafeFetch.Text.Hex

/-- The value of a hexadecimal digit in either letter case. -/
def digitValue? (c : Char) : Option Nat :=
  if '0' ≤ c ∧ c ≤ '9' then some (c.toNat - '0'.toNat)
  else if 'a' ≤ c ∧ c ≤ 'f' then some (c.toNat - 'a'.toNat + 10)
  else if 'A' ≤ c ∧ c ≤ 'F' then some (c.toNat - 'A'.toNat + 10)
  else none

/-- The hexadecimal digit of a value below sixteen, in small letters. -/
def digit (n : Nat) : Char :=
  if n < 10 then Char.ofNat ('0'.toNat + n) else Char.ofNat ('a'.toNat + (n - 10))

/-- The hexadecimal digit of a value below sixteen, in capitals. -/
def capitalDigit (n : Nat) : Char :=
  if n < 10 then Char.ofNat ('0'.toNat + n) else Char.ofNat ('A'.toNat + (n - 10))

/-- The two digits of a byte, high half first. -/
def pair (b : UInt8) : List Char := [digit (b.toNat / 16), digit (b.toNat % 16)]

/-- Write bytes as pairs of small hexadecimal digits. -/
def encode (bytes : List UInt8) : List Char := bytes.flatMap pair

/-- The last `width` hexadecimal digits of `n`, leading zeros included. -/
def padded : (width n : Nat) → List Char
  | 0, _ => []
  | width + 1, n => padded width (n / 16) ++ [digit (n % 16)]

/-- The shortest numeral of `n` in capital digits. -/
def capitals (n : Nat) : List Char :=
  if n < 16 then [capitalDigit n] else capitals (n / 16) ++ [capitalDigit (n % 16)]
termination_by n

/-- Read pairs of hexadecimal digits from position `start` on. -/
def decodeFrom (start : Nat) : List Char → Except Nat (List UInt8)
  | [] => .ok []
  | c :: rest =>
    if isAsciiBlank c then decodeFrom (start + 1) rest
    else
      match digitValue? c, rest with
      | none, _ => .error start
      | some _, [] => .error (start + 1)
      | some high, d :: rest =>
        match digitValue? d with
        | none => .error (start + 1)
        | some low =>
          (decodeFrom (start + 2) rest).map (UInt8.ofNat (16 * high + low) :: ·)

/-- Read hexadecimal text. The position of a character beyond ASCII is reported before any other
fault. -/
def decode (s : List Char) : Except Nat (List UInt8) :=
  match s.findIdx? (fun c => !isAscii c) with
  | some position => .error position
  | none => decodeFrom 0 s

end SafeFetch.Text.Hex
