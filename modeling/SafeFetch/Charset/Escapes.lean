import SafeFetch.Text.CharacterName.Index

/-!
# Backslash escapes

Texts in which every byte stands for the character of its value and a backslash begins an escape.
The full set of escapes has letters for the common controls, octal numbers, hexadecimal numbers of
two, four and eight digits, and the names of characters in braces; the raw set has the two longer
hexadecimal numbers only. An unknown escape stands for itself.
-/

namespace SafeFetch.Charset.Escapes

open SafeFetch.Text

/-- The character of a byte's value. -/
def charOf (b : UInt8) : Char := Char.ofNat b.toNat

/-- The value of exactly `count` hexadecimal digits. -/
def hexNumber? : (count : Nat) → (value : Nat) → List UInt8 → Option (Nat × List UInt8)
  | 0, value, rest => some (value, rest)
  | _ + 1, _, [] => none
  | count + 1, value, b :: rest =>
    match Hex.digitValue? (charOf b) with
    | some digit => hexNumber? count (16 * value + digit) rest
    | none => none

/-- Reading a hexadecimal number takes nothing back. -/
theorem hexNumber?_length {count value n : Nat} {bytes rest : List UInt8}
    (h : hexNumber? count value bytes = some (n, rest)) : rest.length ≤ bytes.length := by
  induction count generalizing value bytes with
  | zero =>
    simp only [hexNumber?, Option.some.injEq, Prod.mk.injEq] at h
    simp [h.2]
  | succ count ih =>
    cases bytes with
    | nil => simp [hexNumber?] at h
    | cons b bytes =>
      simp only [hexNumber?] at h
      split at h
      · have := ih h
        simp only [List.length_cons]
        omega
      · simp at h

/-- Whether `b` is an octal digit. -/
def isOctal (b : UInt8) : Bool := 0x30 ≤ b.toNat && b.toNat ≤ 0x37

/-- The value of at most `count` further octal digits. -/
def octalNumber : (count : Nat) → (value : Nat) → List UInt8 → Nat × List UInt8
  | count + 1, value, b :: rest =>
    if isOctal b then octalNumber count (8 * value + (b.toNat - 0x30)) rest
    else (value, b :: rest)
  | _, value, rest => (value, rest)

/-- Reading an octal number takes nothing back. -/
theorem octalNumber_length (count value : Nat) (bytes : List UInt8) :
    (octalNumber count value bytes).2.length ≤ bytes.length := by
  induction count generalizing value bytes with
  | zero => simp [octalNumber]
  | succ count ih =>
    cases bytes with
    | nil => simp [octalNumber]
    | cons b bytes =>
      simp only [octalNumber]
      split
      · have := ih (8 * value + (b.toNat - 0x30)) bytes
        simp only [List.length_cons]
        omega
      · simp

/-- The digits that follow the letter of a hexadecimal escape. -/
def hexWidth? (b : UInt8) : Option Nat :=
  if b = 0x78 then some 2 else if b = 0x75 then some 4 else if b = 0x55 then some 8 else none

/-- The character of an escape by letter or sign. -/
def named? (b : UInt8) : Option Char :=
  match b.toNat with
  | 0x5C => some '\\'
  | 0x27 => some '\''
  | 0x22 => some '"'
  | 0x62 => some '\x08'
  | 0x66 => some '\x0c'
  | 0x74 => some '\t'
  | 0x6E => some '\n'
  | 0x72 => some '\r'
  | 0x76 => some '\x0b'
  | 0x61 => some '\x07'
  | _ => none

/-- The text in braces in front. -/
def braced? : List UInt8 → Option (List Char × List UInt8)
  | 0x7B :: bytes =>
    match bytes.dropWhile (· ≠ 0x7D) with
    | _ :: rest => some ((bytes.takeWhile (· ≠ 0x7D)).map charOf, rest)
    | [] => none
  | _ => none

/-- Reading a text in braces takes nothing back. -/
theorem braced?_length {text : List Char} {bytes rest : List UInt8}
    (h : braced? bytes = some (text, rest)) : rest.length ≤ bytes.length := by
  unfold braced? at h
  split at h
  · rename_i bytes
    split at h
    · rename_i rest' heq
      have shorter := (List.dropWhile_suffix (l := bytes) (· ≠ (0x7D : UInt8))).length_le
      simp only [heq, List.length_cons] at shorter
      simp only [Option.some.injEq, Prod.mk.injEq] at h
      simp only [← h.2, List.length_cons]
      omega
    · simp at h
  · simp at h

/-- Read a text with the full set of escapes. -/
def decode? : List UInt8 → Option (List Char)
  | [] => some []
  | [b] => if b = 0x5C then none else some [charOf b]
  | b :: e :: rest =>
    if b ≠ 0x5C then (decode? (e :: rest)).map (charOf b :: ·)
    else if e = 0x0A then decode? rest
    else if isOctal e then
      match _h : octalNumber 2 (e.toNat - 0x30) rest with
      | (n, rest') => (decode? rest').map (Char.ofNat n :: ·)
    else
      match named? e, hexWidth? e with
      | some c, _ => (decode? rest).map (c :: ·)
      | none, some width =>
        match _h : hexNumber? width 0 rest with
        | some (n, rest') =>
          if n.isValidChar then (decode? rest').map (Char.ofNat n :: ·) else none
        | none => none
      | none, none =>
        if e = 0x4E then
          match _h : braced? rest with
          | some (name, rest') => do
            let c ← CharacterName.find? name
            return c :: (← decode? rest')
          | none => none
        else (decode? rest).map ('\\' :: charOf e :: ·)
termination_by bytes => bytes.length
decreasing_by
  · simp
  · simp only [List.length_cons]
    omega
  · have shorter := octalNumber_length 2 (e.toNat - 0x30) rest
    simp only [_h] at shorter
    simp only [List.length_cons]
    omega
  · simp only [List.length_cons]
    omega
  · have := hexNumber?_length _h
    simp only [List.length_cons]
    omega
  · have := braced?_length _h
    simp only [List.length_cons]
    omega
  · simp only [List.length_cons]
    omega

/-- Read a text with the raw set of escapes. -/
def decodeRaw? : List UInt8 → Option (List Char)
  | [] => some []
  | [b] => some [charOf b]
  | b :: e :: rest =>
    if b ≠ 0x5C then (decodeRaw? (e :: rest)).map (charOf b :: ·)
    else if e = 0x75 ∨ e = 0x55 then
      match _h : hexNumber? (if e = 0x75 then 4 else 8) 0 rest with
      | some (n, rest') =>
        if n.isValidChar then (decodeRaw? rest').map (Char.ofNat n :: ·) else none
      | none => none
    else (decodeRaw? rest).map ('\\' :: charOf e :: ·)
termination_by bytes => bytes.length
decreasing_by
  · simp
  · have := hexNumber?_length _h
    simp only [List.length_cons]
    omega
  · simp only [List.length_cons]
    omega

end SafeFetch.Charset.Escapes
